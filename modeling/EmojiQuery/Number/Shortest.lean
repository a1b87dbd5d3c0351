import EmojiQuery.Number.Decimal

/-
  This file finds the shortest decimal numbers that round to a
  double precision number. The numbers that round to it form
  an interval between the midpoints to its neighbours; the
  search looks at the two neighbours of the number on the grid
  of one digit, of two digits and so on, and takes the first
  grid with a neighbour inside the interval.

  Key definitions include:
    * `Binary64.Cell`
    * `Binary64.Cell.mem`
    * `Binary64.shortest`
-/

namespace EmojiQuery

namespace Binary64

/-
  The numbers that round to one double precision number, over
  a common denominator: the number itself, the ends of the
  interval, and whether the ends belong to it.
-/
structure Cell where
  den : Nat
  value : Nat
  lower : Nat
  upper : Nat
  closed : Bool
deriving Repr

/-
  The interval of a finite positive number. Below a power of
  two the neighbour is only half as far away.
-/
def cell
    (x : Binary64) : Cell :=
  let up := Nat.pow 2 x.exponent.toNat
  let den := 4 * Nat.pow 2 (-x.exponent).toNat
  let m := x.significand
  let narrow := m = exponentUnit ∧ -1074 < x.exponent
  ⟨den,
    4 * m * up,
    (4 * m - if narrow then 1 else 2) * up,
    (4 * m + 2) * up,
    m % 2 = 0⟩

namespace Cell

/- Whether `n` times a power of ten lies in the interval. -/
def mem
    (c : Cell)
    (n : Nat)
    (exp : Int) : Bool :=
  let a := n * Nat.pow 10 exp.toNat * c.den
  let unit := Nat.pow 10 (-exp).toNat
  let lo := c.lower * unit
  let hi := c.upper * unit
  if c.closed then
    lo ≤ a && a ≤ hi
  else
    lo < a && a < hi

/-
  The nearest of the neighbours of the number on the grid of
  multiples of a power of ten that lie in the interval. An
  even neighbour wins a tie.
-/
def neighbour?
    (c : Cell)
    (exp : Int) : Option Nat :=
  let num := c.value * Nat.pow 10 (-exp).toNat
  let den := c.den * Nat.pow 10 exp.toNat
  let below := num / den
  let above := below + 1
  let near := divRound num den
  let far := if near = below then above else below
  if c.mem near exp && near ≠ 0 then
    some near
  else if c.mem far exp && far ≠ 0 then
    some far
  else
    none

/-
  The first grid, from `exp` downwards, with a neighbour in
  the interval.
-/
def search
    (c : Cell) :
    Nat → Int → Decimal
| 0, exp => ⟨divRound c.value c.den, exp⟩
| fuel + 1, exp =>
    match c.neighbour? exp with
    | some n => ⟨n, exp⟩
    | none => search c fuel (exp - 1)

end Cell

/- Remove zeros from the end of the digits. -/
def trim :
    Nat → Decimal → Decimal
| 0, d => d
| fuel + 1, d =>
    if d.digits % 10 = 0 ∧ d.digits ≠ 0 then
      trim fuel ⟨d.digits / 10, d.exponent + 1⟩
    else
      d

/-
  The greatest power of ten that does not exceed a positive
  ratio, up to an error of one.
-/
def logTenApprox
    (num den : Nat) : Int :=
  (logTwo num den * 30103) / 100000

/-
  The shortest decimal number that rounds to a finite positive
  number. A grid two powers of ten above the number is coarse
  enough to start from, and seventeen digits always suffice.
-/
def shortest
    (x : Binary64) : Decimal :=
  let c := x.cell
  trim 400 (c.search 24 (logTenApprox c.value c.den + 2))

end Binary64

end EmojiQuery
