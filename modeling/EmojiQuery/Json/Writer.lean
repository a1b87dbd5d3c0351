import EmojiQuery.Number.Shortest

/-
  This file writes JSON without blanks. Real numbers get the
  fewest digits that read back as the same number.

  Key definitions include:
    * `Json.writeString`
    * `Json.writeReal`
    * `Json.writeList`
    * `Json.writeObject`
-/

namespace EmojiQuery.Json

------------------------------------------------------------
-- Strings
------------------------------------------------------------

/- One character inside a string. -/
def writeChar
    (c : Char) : List Char :=
  match c with
  | '"' => ['\\', '"']
  | '\\' => ['\\', '\\']
  | '\x08' => ['\\', 'b']
  | '\x0c' => ['\\', 'f']
  | '\n' => ['\\', 'n']
  | '\r' => ['\\', 'r']
  | '\t' => ['\\', 't']
  | _ =>
      if c.toNat < 0x20 then
        ['\\', 'u', '0', '0', (c.toNat / 16).digitChar,
          (c.toNat % 16).digitChar]
      else
        [c]

/- A string. -/
def writeString
    (s : String) : List Char :=
  '"' :: s.toList.flatMap writeChar ++ ['"']

------------------------------------------------------------
-- Numbers
------------------------------------------------------------

/- A natural number. -/
def writeNat
    (n : Nat) : List Char :=
  Numeral.write 10 n

/-
  Where a real number is written with its point in place: at
  most so many digits before the point, and at most so many
  zeros right after it.
-/
structure RealStyle where
  whole : Nat
  zeros : Nat
deriving DecidableEq, Repr

/- The style of real numbers in JSON. -/
def realStyle : RealStyle :=
  ⟨16, 4⟩

/- A power of ten, with its sign. -/
def writeExponent
    (e : Int) : List Char :=
  'e' :: (if e < 0 then '-' else '+') :: Numeral.write 10 e.natAbs

/-
  The digits of a positive number with the point after the
  first `place` of them, or with an exponent if the style
  asks for one.
-/
def layOut
    (style : RealStyle)
    (ds : List Char)
    (place : Int) : List Char :=
  let p := place.toNat
  if 0 < place && place ≤ style.whole then
    if ds.length ≤ p then
      ds ++ List.replicate (p - ds.length) '0' ++ ['.', '0']
    else
      ds.take p ++ '.' :: ds.drop p
  else if place ≤ 0 && -place ≤ style.zeros then
    '0' :: '.' :: List.replicate (-place).toNat '0' ++ ds
  else
    ds.take 1 ++
      (if 1 < ds.length then '.' :: ds.drop 1 else []) ++
      writeExponent (place - 1)

/- A real number; what is not finite is written as absent. -/
def writeReal
    (x : Binary64) : List Char :=
  if !x.isFinite then
    ['n', 'u', 'l', 'l']
  else
    (if x.isNegative then ['-'] else []) ++
      if x.isZero then
        ['0', '.', '0']
      else
        let d := x.abs.shortest
        let ds := Numeral.write 10 d.digits
        layOut realStyle ds (ds.length + d.exponent)

------------------------------------------------------------
-- Compound values
------------------------------------------------------------

/- Values between brackets. -/
def writeList
    (vs : List (List Char)) : List Char :=
  '[' :: [','].intercalate vs ++ [']']

/- Keys and values between braces. -/
def writeObject
    (kvs : List (String × List Char)) : List Char :=
  '\x7b' ::
    [','].intercalate
      (kvs.map fun (k, v) => writeString k ++ ':' :: v) ++
    ['\x7d']

end EmojiQuery.Json
