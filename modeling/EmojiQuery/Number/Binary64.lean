/-
  This file defines double precision numbers by their bits,
  with the order of IEEE 754: zeros of either sign are equal,
  and a NaN is neither above, below nor equal to anything.

  Key definitions include:
    * `Binary64`
    * `Binary64.key`
    * `Binary64.isNaN`
    * `Binary64.max`
    * `Binary64.significand`
    * `Binary64.exponent`
-/

namespace EmojiQuery

/- A double precision number. -/
structure Binary64 where
  bits : UInt64
deriving DecidableEq, Repr

namespace Binary64

------------------------------------------------------------
-- Parts of a number
------------------------------------------------------------

/- The value of the sign bit. -/
def signUnit : Nat :=
  0x8000000000000000

/- The value of the lowest bit of the exponent. -/
def exponentUnit : Nat :=
  0x10000000000000

/- The bits apart from the sign, as a number. -/
def magnitude
    (x : Binary64) : Nat :=
  x.bits.toNat % signUnit

/- Whether the sign bit is set. -/
def isNegative
    (x : Binary64) : Bool :=
  signUnit ≤ x.bits.toNat

/- The magnitude of the infinities. -/
def infinite : Nat :=
  0x7FF * exponentUnit

/- Whether the bits stand for no number. -/
def isNaN
    (x : Binary64) : Bool :=
  infinite < x.magnitude

/- Whether the number is finite. -/
def isFinite
    (x : Binary64) : Bool :=
  x.magnitude < infinite

/- Whether the number is zero, of either sign. -/
def isZero
    (x : Binary64) : Bool :=
  x.magnitude = 0

/-
  The place of a number in the order. Magnitudes are ordered
  like the numbers they stand for.
-/
def key
    (x : Binary64) : Int :=
  if x.isNegative then -(x.magnitude : Int) else x.magnitude

/- The number with a given sign and magnitude. -/
def ofMagnitude
    (negative : Bool)
    (magnitude : Nat) : Binary64 :=
  ⟨.ofNat (if negative then signUnit + magnitude else magnitude)⟩

/- The number with the opposite sign. -/
def neg
    (x : Binary64) : Binary64 :=
  ofMagnitude (!x.isNegative) x.magnitude

/- The number without its sign. -/
def abs
    (x : Binary64) : Binary64 :=
  ofMagnitude false x.magnitude

/- Zero. -/
def zero : Binary64 :=
  ⟨0⟩

/- One. -/
def one : Binary64 :=
  ⟨0x3FF0000000000000⟩

/- Not a number. -/
def nan : Binary64 :=
  ⟨0x7FF8000000000000⟩

------------------------------------------------------------
-- Order
------------------------------------------------------------

instance : LE Binary64 :=
  ⟨fun x y =>
    x.isNaN = false ∧ y.isNaN = false ∧ x.key ≤ y.key⟩

instance : LT Binary64 :=
  ⟨fun x y =>
    x.isNaN = false ∧ y.isNaN = false ∧ x.key < y.key⟩

theorem le_def
    (x y : Binary64) :
    x ≤ y ↔
      x.isNaN = false ∧ y.isNaN = false ∧ x.key ≤ y.key :=
  Iff.rfl

theorem lt_def
    (x y : Binary64) :
    x < y ↔
      x.isNaN = false ∧ y.isNaN = false ∧ x.key < y.key :=
  Iff.rfl

instance
    (x y : Binary64) :
    Decidable (x ≤ y) := by
  rw [le_def]
  infer_instance

instance
    (x y : Binary64) :
    Decidable (x < y) := by
  rw [lt_def]
  infer_instance

/-
  The greater of two numbers. A NaN counts only if both are,
  and of two equal numbers the first is taken.
-/
protected def max
    (x y : Binary64) : Binary64 :=
  if x.isNaN then y
  else if y.isNaN then x
  else if x < y then y
  else x

------------------------------------------------------------
-- Values
------------------------------------------------------------

/- The factor of a power of two in a finite number. -/
def significand
    (x : Binary64) : Nat :=
  if x.magnitude < exponentUnit then
    x.magnitude
  else
    exponentUnit + x.magnitude % exponentUnit

/- The exponent of two in a finite number. -/
def exponent
    (x : Binary64) : Int :=
  if x.magnitude < exponentUnit then
    -1074
  else
    (x.magnitude / exponentUnit : Nat) - 1075

/- Numerator and denominator of the size of a finite number. -/
def ratio
    (x : Binary64) : Nat × Nat :=
  (x.significand * Nat.pow 2 x.exponent.toNat,
    Nat.pow 2 (-x.exponent).toNat)

end Binary64

end EmojiQuery
