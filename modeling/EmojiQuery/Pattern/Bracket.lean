import EmojiQuery.Pattern.Escape

/-
  This file reads bracketed classes: unions of characters,
  ranges, named classes and nested brackets, combined from
  left to right by intersection, difference and symmetric
  difference.

  Key definitions include:
    * `Bracket`
    * `Bracket.read?`
-/

namespace EmojiQuery

/-
  A set read inside brackets, with how deeply its written form
  is nested.
-/
structure Bracket where
  set : CodepointSet
  depth : Nat
deriving Repr

namespace Bracket

------------------------------------------------------------
-- Combination
------------------------------------------------------------

/- An operation between two parts of a class. -/
inductive Operation where
| inter
| diff
| symmDiff
deriving DecidableEq, Repr

/- The operation on sets. -/
def Operation.apply :
    Operation → CodepointSet → CodepointSet → CodepointSet
| .inter => .inter
| .diff => .diff
| .symmDiff => .symmDiff

/- The union of the items that stand side by side. -/
def union :
    List Bracket → Bracket
| [] => ⟨.empty, 0⟩
| [b] => b
| bs =>
    ⟨.unions (bs.map set), 1 + (bs.map depth).foldl max 0⟩

/-
  An open bracket: whether it is negated, the items read since
  the last operation, latest first, and what stands to the
  left of that operation.
-/
structure Frame where
  negated : Bool
  items : List Bracket
  pending : Option (Operation × Bracket)
deriving Repr

namespace Frame

/- Add an item. -/
def push
    (f : Frame)
    (b : Bracket) : Frame :=
  { f with items := b :: f.items }

/- What the bracket holds so far. -/
def body
    (mode : Mode)
    (f : Frame) : Bracket :=
  let right := union f.items.reverse
  match f.pending with
  | none => right
  | some (op, left) =>
      ⟨op.apply (mode.fold left.set) (mode.fold right.set),
        1 + max left.depth right.depth⟩

/- Start the right side of an operation. -/
def operate
    (mode : Mode)
    (op : Operation)
    (f : Frame) : Frame :=
  { f with items := [], pending := some (op, f.body mode) }

/- Close the bracket. -/
def close?
    (mode : Mode)
    (f : Frame) : Option Bracket :=
  let b := f.body mode
  (mode.foldAndNegate f.negated b.set).map fun set =>
    ⟨set, 1 + b.depth⟩

end Frame

------------------------------------------------------------
-- Named classes
------------------------------------------------------------

/- The ASCII classes with a name. -/
def namedClass? :
    String → Option (List (Nat × Nat))
| "alnum" => some [(0x30, 0x39), (0x41, 0x5A), (0x61, 0x7A)]
| "alpha" => some [(0x41, 0x5A), (0x61, 0x7A)]
| "ascii" => some [(0, 0x7F)]
| "blank" => some [(9, 9), (0x20, 0x20)]
| "cntrl" => some [(0, 0x1F), (0x7F, 0x7F)]
| "digit" => some [(0x30, 0x39)]
| "graph" => some [(0x21, 0x7E)]
| "lower" => some [(0x61, 0x7A)]
| "print" => some [(0x20, 0x7E)]
| "punct" =>
    some [(0x21, 0x2F), (0x3A, 0x40), (0x5B, 0x60), (0x7B, 0x7E)]
| "space" => some [(9, 13), (0x20, 0x20)]
| "upper" => some [(0x41, 0x5A)]
| "word" =>
    some [(0x30, 0x39), (0x41, 0x5A), (0x5F, 0x5F), (0x61, 0x7A)]
| "xdigit" => some [(0x30, 0x39), (0x41, 0x46), (0x61, 0x66)]
| _ => none

/-
  Read the rest of a named class after its opening bracket.
  The outer option tells whether there is one, the inner one
  whether it is admissible.
-/
def readNamed?
    (mode : Mode) :
    List Char → Option (Option Bracket × List Char)
| ':' :: t =>
    let (negated, u) :=
      match t with
      | '^' :: u => (true, u)
      | u => (false, u)
    match u.span (· ≠ ':') with
    | (name, ':' :: ']' :: rest) =>
        (namedClass? (String.ofList name)).map fun rs =>
          ((mode.foldAndNegate negated ⟨rs⟩).map (⟨·, 0⟩), rest)
    | _ => none
| _ => none

------------------------------------------------------------
-- Items
------------------------------------------------------------

/- Read one character or escape. -/
def readItem?
    (mode : Mode) :
    List Char → Option (Escape × List Char)
| [] => none
| '\\' :: t => Escape.read? mode t
| c :: t => some (.literal c false, t)

/-
  The code point that a literal stands for. Without Unicode
  only ASCII has one.
-/
def literalPoint?
    (mode : Mode) :
    Escape → Option Nat
| .literal c _ =>
    if mode.unicode || c.toNat < 0x80 then some c.toNat else none
| _ => none

/- The set of a single item. -/
def itemSet?
    (mode : Mode) :
    Escape → Option CodepointSet
| .chars set => some set
| e => (literalPoint? mode e).map .single

/- Read one item or a range between two literals. -/
def readRange?
    (mode : Mode)
    (s : List Char) :
    Option (Bracket × List Char) := do
  let (first, rest) ← readItem? mode s
  match mode.skip rest with
  | [] => none
  | '-' :: t =>
      let next := mode.peekPast t
      if next = some ']' || next = some '-' then
        some (⟨← itemSet? mode first, 0⟩, '-' :: t)
      else
        let (last, rest) ← readItem? mode (mode.skip t)
        let lo ← literalPoint? mode first
        let hi ← literalPoint? mode last
        if lo ≤ hi then
          some (⟨.range lo hi, 0⟩, rest)
        else
          none
  | t => some (⟨← itemSet? mode first, 0⟩, t)

/-
  Read what may follow an opening bracket: a negation sign,
  then hyphens or a closing bracket, which stand for
  themselves there.
-/
def readOpening?
    (mode : Mode)
    (s : List Char) :
    Option (Frame × List Char) :=
  let (negated, s) :=
    match mode.skip s with
    | '^' :: t => (true, mode.skip t)
    | t => (false, t)
  let (hyphens, s) := mode.takeRun (· = '-') s
  let (literals, s) :=
    match hyphens, s with
    | [], ']' :: t => ([']'], mode.skip t)
    | hs, t => (hs, t)
  if s.isEmpty then
    none
  else
    some
      (⟨negated, literals.map fun c => ⟨.single c.toNat, 0⟩, none⟩,
        s)

------------------------------------------------------------
-- Whole classes
------------------------------------------------------------

/-
  Read up to the bracket that closes the outermost frame. Each
  round takes at least one character, so `fuel` need not
  exceed their number.
-/
def readFrames?
    (mode : Mode) :
    Nat → Frame → List Frame → List Char →
      Option (Bracket × List Char)
| 0, _, _, _ => none
| fuel + 1, f, outer, s =>
    match mode.skip s with
    | [] => none
    | '[' :: t =>
        match readNamed? mode t with
        | some (b, rest) =>
            b.bind fun b => readFrames? mode fuel (f.push b) outer rest
        | none =>
            (readOpening? mode t).bind fun (g, rest) =>
              readFrames? mode fuel g (f :: outer) rest
    | ']' :: t =>
        (f.close? mode).bind fun b =>
          match outer with
          | [] => some (b, t)
          | g :: outer => readFrames? mode fuel (g.push b) outer t
    | '&' :: '&' :: t =>
        readFrames? mode fuel (f.operate mode .inter) outer t
    | '-' :: '-' :: t =>
        readFrames? mode fuel (f.operate mode .diff) outer t
    | '~' :: '~' :: t =>
        readFrames? mode fuel (f.operate mode .symmDiff) outer t
    | t =>
        (readRange? mode t).bind fun (b, rest) =>
          readFrames? mode fuel (f.push b) outer rest

/- Read a class after its opening bracket. -/
def read?
    (mode : Mode)
    (s : List Char) :
    Option (Bracket × List Char) :=
  (readOpening? mode s).bind fun (f, rest) =>
    readFrames? mode (s.length + 1) f [] rest

end Bracket

end EmojiQuery
