import EmojiQuery.Number.Binary64

/-
  This file rounds exact ratios to double precision, to the
  nearest number and with ties to the even significand, and
  derives the products and quotients of nonnegative numbers.

  Key definitions include:
    * `divRound`
    * `Binary64.roundMagnitude`
    * `Binary64.ofRatio`
    * `Binary64.ofNat`
    * `Binary64.times`
    * `Binary64.dividedBy`
-/

namespace EmojiQuery

/- The nearest natural number to a quotient; ties go to even. -/
def divRound
    (num den : Nat) : Nat :=
  let q := num / den
  let r := num % den
  if 2 * r < den then q
  else if den < 2 * r then q + 1
  else if q % 2 = 0 then q
  else q + 1

namespace Binary64

/-
  The greatest integer whose power of two does not exceed a
  positive ratio.
-/
def logTwo
    (num den : Nat) : Int :=
  let l : Int := (num.log2 : Int) - (den.log2 : Int)
  if num * Nat.pow 2 (-l).toNat < den * Nat.pow 2 l.toNat then
    l - 1
  else
    l

/-
  The magnitude nearest to a ratio. The exponent of the last
  place is that of the binade of the ratio, but not below that
  of the least number. A significand that rounds up to the
  next power of two carries into the exponent by itself.
-/
def roundMagnitude
    (num den : Nat) : Nat :=
  if num = 0 then
    0
  else
    let last : Int := max (logTwo num den - 52) (-1074)
    let m :=
      divRound (num * Nat.pow 2 (-last).toNat)
        (den * Nat.pow 2 last.toNat)
    min ((last + 1074).toNat * exponentUnit + m) infinite

/- The nearest number to a ratio. -/
def ofRatio
    (num den : Nat) : Binary64 :=
  ofMagnitude false (roundMagnitude num den)

/- The nearest number to a natural number. -/
def ofNat
    (n : Nat) : Binary64 :=
  ofRatio n 1

/- The nearest number to an integer. -/
def ofInt
    (i : Int) : Binary64 :=
  ofMagnitude (i < 0) (roundMagnitude i.natAbs 1)

/- The rounded product of finite nonnegative numbers. -/
def times
    (x y : Binary64) : Binary64 :=
  ofRatio (x.ratio.1 * y.ratio.1) (x.ratio.2 * y.ratio.2)

/- The rounded quotient of finite positive numbers. -/
def dividedBy
    (x y : Binary64) : Binary64 :=
  ofRatio (x.ratio.1 * y.ratio.2) (x.ratio.2 * y.ratio.1)

end Binary64

end EmojiQuery
