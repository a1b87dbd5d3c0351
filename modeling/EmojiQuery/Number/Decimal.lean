import EmojiQuery.Number.Rounding
import EmojiQuery.Number.Numeral

/-
  This file reads decimal numbers exactly: the result is the
  double precision number nearest to the number written.

  Key definitions include:
    * `Binary64.ofDecimal`
    * `Decimal`
    * `Decimal.read?`
    * `Binary64.read?`
-/

namespace EmojiQuery

/-
  The magnitude nearest to `n` times a power of ten. Exponents
  whose result is certainly infinite or zero are answered
  without computing the power.
-/
def Binary64.decimalMagnitude
    (n : Nat)
    (exp : Int) : Nat :=
  if n = 0 then
    0
  else if 400 < exp then
    infinite
  else if (n.log2 : Int) + 1100 < -3 * exp then
    0
  else
    roundMagnitude (n * Nat.pow 10 exp.toNat)
      (Nat.pow 10 (-exp).toNat)

/- The number nearest to `n` times a power of ten. -/
def Binary64.ofDecimal
    (negative : Bool)
    (n : Nat)
    (exp : Int) : Binary64 :=
  ofMagnitude negative (decimalMagnitude n exp)

/- A decimal number: an integer times a power of ten. -/
structure Decimal where
  digits : Nat
  exponent : Int
deriving DecidableEq, Repr

namespace Decimal

/- The value of decimal digits. -/
def valueOf
    (ds : List Char) : Nat :=
  ds.foldl (fun n c => 10 * n + (c.toNat - '0'.toNat)) 0

/- The exponent after its letter: an optional sign and digits. -/
def readExponent? :
    List Char → Option Int
| '-' :: ds => (Numeral.read? 10 ds).map fun n => -(n : Int)
| '+' :: ds => (Numeral.read? 10 ds).map Int.ofNat
| ds => (Numeral.read? 10 ds).map Int.ofNat

/-
  The number that a text without sign writes: digits with at
  most one point before, between or after them, and then
  perhaps an exponent.
-/
def read?
    (s : List Char) : Option Decimal :=
  let (whole, s) := s.span Char.isDigit
  let (fraction, s) :=
    match s with
    | '.' :: t => t.span Char.isDigit
    | t => ([], t)
  if whole.isEmpty && fraction.isEmpty then
    none
  else
    let exp? :=
      match s with
      | [] => some 0
      | c :: t => if c.toLower = 'e' then readExponent? t else none
    exp?.map fun exp =>
      ⟨valueOf (whole ++ fraction), exp - fraction.length⟩

end Decimal

namespace Binary64

/- The magnitude that a text without sign writes. -/
def readMagnitude?
    (s : List Char) : Option Nat :=
  match Decimal.read? s with
  | some d => some (decimalMagnitude d.digits d.exponent)
  | none =>
      match String.ofList (s.map Char.toLower) with
      | "inf" => some infinite
      | "infinity" => some infinite
      | "nan" => some nan.magnitude
      | _ => none

/-
  The number that a text writes: an optional sign and then a
  decimal number or the name of a special value.
-/
def read? :
    List Char → Option Binary64
| '-' :: s => (readMagnitude? s).map (ofMagnitude true)
| '+' :: s => (readMagnitude? s).map (ofMagnitude false)
| s => (readMagnitude? s).map (ofMagnitude false)

end Binary64

end EmojiQuery
