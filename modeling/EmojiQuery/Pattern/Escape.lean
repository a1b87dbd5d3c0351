import EmojiQuery.Number.Numeral
import EmojiQuery.Pattern.Mode
import EmojiQuery.Text.Cut

/-
  This file reads what follows a backslash in a pattern.

  Key definitions include:
    * `Escape`
    * `Escape.read?`
-/

namespace EmojiQuery

/- What a backslash introduces. -/
inductive Escape where
/- A character; `byte` tells one written as two hexadecimal digits. -/
| literal (c : Char) (byte : Bool)
/- A set of characters. -/
| chars (set : CodepointSet)
/- A condition on the position. -/
| look (l : Look)
deriving Repr

namespace Escape

------------------------------------------------------------
-- Characters by number
------------------------------------------------------------

/- The character whose number is written in hexadecimal digits. -/
def charOfHex?
    (ds : List Char) : Option Char :=
  (Numeral.read? 16 ds).bind fun n =>
    if n.isValidChar then some (Char.ofNat n) else none

/- Take an exact number of hexadecimal digits. -/
def takeHex?
    (mode : Mode) :
    Nat → List Char → Option (List Char × List Char)
| 0, s => some ([], s)
| _ + 1, [] => none
| n + 1, c :: t =>
    if (Numeral.digitValue? c).isSome then
      (takeHex? mode n (mode.skip t)).map fun (ds, rest) =>
        (c :: ds, rest)
    else
      none

/- Take what stands before a closing brace. -/
def takeBraced?
    (mode : Mode)
    (s : List Char) :
    Option (List Char × List Char) :=
  match mode.takeRun (· ≠ '\x7d') (mode.skip s) with
  | (inner, _ :: rest) => some (inner, rest)
  | (_, []) => none

/-
  Read a character's number: hexadecimal digits in braces, or
  exactly `width` of them.
-/
def readHex?
    (mode : Mode)
    (width : Nat)
    (s : List Char) :
    Option (Escape × List Char) :=
  match mode.skip s with
  | '\x7b' :: t => do
      let (ds, rest) ← takeBraced? mode t
      let c ← charOfHex? ds
      some (.literal c false, mode.skip rest)
  | t => do
      let (ds, rest) ← takeHex? mode width t
      let c ← charOfHex? ds
      some (.literal c (width = 2), rest)

------------------------------------------------------------
-- Classes by name
------------------------------------------------------------

/-
  The property written between braces, with whether it is
  negated there.
-/
def namedProperty?
    (name : List Char) :
    Option (CodepointSet × Bool) :=
  match cut? ['!', '='] name with
  | some (p, v) => (Unicode.propertyValue? p v).map (·, true)
  | none =>
      match (cut? [':'] name).or (cut? ['='] name) with
      | some (p, v) => (Unicode.propertyValue? p v).map (·, false)
      | none => (Unicode.property? name).map (·, false)

/- Read the name of a property, after its letter. -/
def readProperty?
    (mode : Mode)
    (negated : Bool)
    (s : List Char) :
    Option (Escape × List Char) := do
  let (name, rest) ←
    match mode.skip s with
    | [] => none
    | '\x7b' :: t => takeBraced? mode t
    | '\\' :: _ => none
    | c :: t => some ([c], mode.skip t)
  if mode.unicode then
    let (set, inner) ← namedProperty? name
    let set ← mode.foldAndNegate (negated != inner) set
    some (.chars set, rest)
  else
    none

/- The ASCII white space. -/
def asciiBlanks : CodepointSet :=
  ⟨[(9, 13), (32, 32)]⟩

/- The ASCII characters of words. -/
def asciiWord : CodepointSet :=
  ⟨[(0x30, 0x39), (0x41, 0x5A), (0x5F, 0x5F), (0x61, 0x7A)]⟩

/- The ASCII digits. -/
def asciiDigits : CodepointSet :=
  ⟨[(0x30, 0x39)]⟩

/- The class with a given lower-case letter. -/
def letterClass?
    (mode : Mode) :
    Char → Option CodepointSet
| 'd' =>
    some (if mode.unicode then Unicode.digits else asciiDigits)
| 's' =>
    some (if mode.unicode then Unicode.blanks else asciiBlanks)
| 'w' =>
    some
      (if mode.unicode then
        Unicode.wordCharacters
      else
        asciiWord)
| _ => none

------------------------------------------------------------
-- Positions
------------------------------------------------------------

/-
  Read what follows the letter of a word edge. A name in
  braces selects one side of a word; any other brace belongs
  to a repetition and is left alone.
-/
def readWordEdge?
    (mode : Mode) :
    List Char → Option (Look × List Char)
| '\x7b' :: t =>
    let named (c : Char) : Bool := c.isAlpha || c = '-'
    match mode.skip t with
    | [] => none
    | c :: u =>
        if named c then
          match mode.takeRun named (c :: u) with
          | (name, '\x7d' :: rest) =>
              match String.ofList name with
              | "start" => some (.wordStart mode.scope, rest)
              | "end" => some (.wordEnd mode.scope, rest)
              | "start-half" => some (.noWordBefore mode.scope, rest)
              | "end-half" => some (.noWordAfter mode.scope, rest)
              | _ => none
          | _ => none
        else
          some (.wordEdge mode.scope, '\x7b' :: t)
| s => some (.wordEdge mode.scope, s)

------------------------------------------------------------
-- All escapes
------------------------------------------------------------

/-
  Whether a backslash before the character gives the character
  itself: ASCII other than letters, digits and the angle
  brackets, which mark the sides of a word.
-/
def isEscapable
    (c : Char) : Bool :=
  c.toNat < 0x80 && !c.isAlphanum && c ≠ '<' && c ≠ '>'

/- Read what follows a backslash. -/
def read?
    (mode : Mode) :
    List Char → Option (Escape × List Char)
| [] => none
| c :: t =>
    match c with
    | 'x' => readHex? mode 2 t
    | 'u' => readHex? mode 4 t
    | 'U' => readHex? mode 8 t
    | 'p' => readProperty? mode false t
    | 'P' => readProperty? mode true t
    | 'a' => some (.literal '\x07' false, t)
    | 'f' => some (.literal '\x0c' false, t)
    | 't' => some (.literal '\t' false, t)
    | 'n' => some (.literal '\n' false, t)
    | 'r' => some (.literal '\r' false, t)
    | 'v' => some (.literal '\x0b' false, t)
    | 'A' => some (.look .textStart, t)
    | 'z' => some (.look .textEnd, t)
    | 'b' =>
        (readWordEdge? mode t).map fun (l, rest) => (.look l, rest)
    | 'B' => some (.look (.noWordEdge mode.scope), t)
    | '<' => some (.look (.wordStart mode.scope), t)
    | '>' => some (.look (.wordEnd mode.scope), t)
    | _ =>
        if isEscapable c then
          some (.literal c false, t)
        else do
          let negated := c.isUpper
          let set ← letterClass? mode c.toLower
          if mode.unicode || !negated then
            some (.chars (set.negateIf negated), t)
          else
            none

end Escape

end EmojiQuery
