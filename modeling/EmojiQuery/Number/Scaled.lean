import EmojiQuery.Number.Decimal

/-
  This file reads decimal numbers quickly: the first digits,
  as an integer, are rounded to double precision and then
  multiplied or divided by powers of ten that are rounded
  themselves. Every step rounds, so the result may differ
  from the nearest number in its last places.

  Key definitions include:
    * `Binary64.powerOfTen`
    * `Binary64.scale?`
-/

namespace EmojiQuery.Binary64

/- The number nearest to a power of ten. -/
def powerOfTen
    (k : Nat) : Binary64 :=
  ofNat (Nat.pow 10 k)

/- The greatest power of ten that is a finite number. -/
def maxPower : Nat :=
  308

/-
  Divide by a power of ten given by a negated exponent, in
  steps of the greatest power.
-/
def scaleDown
    (x : Binary64)
    (k : Nat) : Binary64 :=
  if x.isZero then
    x
  else if k ≤ maxPower then
    x.dividedBy (powerOfTen k)
  else
    scaleDown (x.dividedBy (powerOfTen maxPower)) (k - maxPower)
termination_by k
decreasing_by
  simp only [maxPower] at *
  omega

/-
  An integer times a power of ten, unless it is too large. Zero
  stays zero whatever the power.
-/
def scale?
    (n : Nat)
    (exp : Int) : Option Binary64 :=
  let x := ofNat n
  if exp < 0 then
    some (x.scaleDown exp.natAbs)
  else if x.isZero then
    some x
  else if (maxPower : Int) < exp then
    none
  else
    let y := x.times (powerOfTen exp.toNat)
    if y.isFinite then some y else none

end EmojiQuery.Binary64
