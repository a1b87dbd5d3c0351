import EmojiQuery.Pattern.Bracket

/-
  This file reads the text of a pattern. The reader holds the
  groups that are open and, for each of them, the alternatives
  and the parts of the current alternative read so far.

  Key definitions include:
    * `Reading`
    * `Reading.step?`
    * `Pattern.parse?`
-/

namespace EmojiQuery

namespace Reading

------------------------------------------------------------
-- Parts
------------------------------------------------------------

/-
  A part of a pattern, with how deeply its written form is
  nested and whether a repetition may follow it.
-/
structure Part where
  pattern : Pattern
  depth : Nat
  repeatable : Bool
deriving Repr

/- A part without nesting. -/
def Part.leaf
    (p : Pattern) : Part :=
  ⟨p, 0, true⟩

/- The greatest depth among parts. -/
def maxDepth
    (ps : List Part) : Nat :=
  (ps.map Part.depth).foldl max 0

/- The parts of one alternative, latest first, as one part. -/
def sequence :
    List Part → Part
| [] => .leaf .empty
| [p] => p
| p :: ps =>
    ⟨ps.foldl (fun acc q => .cat q.pattern acc) p.pattern,
      1 + maxDepth (p :: ps), true⟩

/- Alternatives, latest first, as one part. -/
def choice :
    List Part → Part
| [] => .leaf .empty
| [p] => p
| p :: ps =>
    ⟨ps.foldl (fun acc q => .alt q.pattern acc) p.pattern,
      1 + maxDepth (p :: ps), true⟩

/- What stands between two brackets of a group, latest first. -/
structure Body where
  branches : List Part
  parts : List Part
deriving Repr

namespace Body

/- Nothing yet. -/
def empty : Body :=
  ⟨[], []⟩

/- Add a part. -/
def push
    (b : Body)
    (p : Part) : Body :=
  { b with parts := p :: b.parts }

/- Start a new alternative. -/
def split
    (b : Body) : Body :=
  ⟨sequence b.parts :: b.branches, []⟩

/- The whole body as one part. -/
def close
    (b : Body) : Part :=
  choice b.split.branches

/- Repeat the last part. -/
def repeatLast?
    (b : Body)
    (least : Nat)
    (most : Option Nat) :
    Option Body :=
  match b.parts with
  | [] => none
  | p :: ps =>
      if p.repeatable then
        some
          { b with
            parts :=
              ⟨.rep p.pattern least most, 1 + p.depth, true⟩ :: ps }
      else
        none

end Body

/- A group that is open, with the options outside it. -/
structure Group where
  outside : Body
  mode : Mode
  remembered : Bool
deriving Repr

end Reading

/- The state of the reader. -/
structure Reading where
  body : Reading.Body
  groups : List Reading.Group
  mode : Mode
  names : List (List Char)
deriving Repr

namespace Reading

/- The state before the first character. -/
def start : Reading :=
  ⟨.empty, [], {}, []⟩

/- Add a part to the innermost open group. -/
def push
    (st : Reading)
    (p : Part) : Reading :=
  { st with body := st.body.push p }

------------------------------------------------------------
-- Groups
------------------------------------------------------------

/- Open a group whose inside is read under `mode`. -/
def openGroup
    (st : Reading)
    (remembered : Bool)
    (mode : Mode) : Reading :=
  { st with
    body := .empty
    groups := ⟨st.body, st.mode, remembered⟩ :: st.groups
    mode := mode }

/- Close the innermost group. -/
def closeGroup?
    (st : Reading) : Option Reading :=
  match st.groups with
  | [] => none
  | g :: groups =>
      let inner := st.body.close
      let p :=
        if g.remembered then
          .capture inner.pattern
        else
          inner.pattern
      some
        { st with
          body := g.outside.push ⟨p, 1 + inner.depth, true⟩
          groups := groups
          mode := g.mode }

/- Whether a character may stand in the name of a group. -/
def isNameChar
    (first : Bool)
    (c : Char) : Bool :=
  if first then
    c = '_' || Unicode.alphabetic.contains c.toNat
  else
    c = '_' || c = '.' || c = '[' || c = ']' ||
      Unicode.alphanumeric.contains c.toNat

/- Whether a text is the name of a group. -/
def isName :
    List Char → Bool
| [] => false
| c :: t => isNameChar true c && t.all (isNameChar false)

/- Read the name of a group and its closing sign. -/
def readName?
    (st : Reading)
    (s : List Char) :
    Option (Reading × List Char) :=
  match s.span (· ≠ '>') with
  | (name, _ :: rest) =>
      if isName name && !st.names.contains name then
        some
          ({ st.openGroup true st.mode with
              names := name :: st.names },
            rest)
      else
        none
  | (_, []) => none

/-
  Read option letters up to a colon or a closing bracket. The
  letters seen so far are in `seen`; none may repeat, and a
  minus sign, which switches off what follows, may not be
  last.
-/
def readFlags?
    (on : Bool)
    (seen : List Char)
    (mode : Mode) :
    List Char → Option (Mode × List Char × List Char)
| [] => none
| c :: t =>
    if c = ':' || c = ')' then
      if seen.head? = some '-' then none else some (mode, seen, c :: t)
    else if seen.contains c then
      none
    else if c = '-' then
      readFlags? false (c :: seen) mode t
    else
      (mode.switch on c).bind fun mode =>
        readFlags? on (c :: seen) mode t

/- Read what follows an opening bracket. -/
def readGroup?
    (st : Reading)
    (s : List Char) :
    Option (Reading × List Char) :=
  match st.mode.skip s with
  | '?' :: '=' :: _ => none
  | '?' :: '!' :: _ => none
  | '?' :: '<' :: '=' :: _ => none
  | '?' :: '<' :: '!' :: _ => none
  | '?' :: 'P' :: '<' :: t => readName? st t
  | '?' :: '<' :: t => readName? st t
  | '?' :: t =>
      match readFlags? true [] st.mode t with
      | some (mode, _, ':' :: rest) =>
          some (st.openGroup false mode, rest)
      | some (mode, _ :: _, ')' :: rest) =>
          some
            ({ st.push ⟨.empty, 0, false⟩ with mode := mode }, rest)
      | _ => none
  | t => some (st.openGroup true st.mode, t)

------------------------------------------------------------
-- Repetition
------------------------------------------------------------

/- The value of decimal digits, if it fits in 32 bits. -/
def count?
    (ds : List Char) : Option Nat :=
  let n := ds.foldl (fun n c => 10 * n + (c.toNat - '0'.toNat)) 0
  if ds.isEmpty || UInt32.size ≤ n then none else some n

/- Take decimal digits, with blanks around them. -/
def takeDigits
    (mode : Mode)
    (s : List Char) : List Char × List Char :=
  let (ds, rest) :=
    mode.takeRun Char.isDigit (s.dropWhile Unicode.isBlank)
  (ds, rest.dropWhile Unicode.isBlank)

/- Read the bounds of a repetition after its opening brace. -/
def readCounts?
    (mode : Mode)
    (s : List Char) :
    Option (Nat × Option Nat × List Char) := do
  let (ds, rest) := takeDigits mode (mode.skip s)
  let least ← count? ds
  match rest with
  | '\x7d' :: rest => some (least, some least, rest)
  | ',' :: t =>
      match mode.skip t with
      | '\x7d' :: rest => some (least, none, rest)
      | t =>
          let (ds, rest) := takeDigits mode t
          let most ← count? ds
          match rest with
          | '\x7d' :: rest =>
              if least ≤ most then
                some (least, some most, rest)
              else
                none
          | _ => none
  | _ => none

/- Drop the sign that prefers fewer repetitions. -/
def dropLazy :
    List Char → List Char
| '?' :: t => t
| s => s

/- Repeat the last part. -/
def repeatLast?
    (st : Reading)
    (least : Nat)
    (most : Option Nat) : Option Reading :=
  (st.body.repeatLast? least most).map fun b =>
    { st with body := b }

------------------------------------------------------------
-- Single parts
------------------------------------------------------------

/- The set of a literal character. -/
def literalSet?
    (mode : Mode)
    (c : Char)
    (byte : Bool) : Option CodepointSet :=
  if !mode.unicode && byte && 0x80 ≤ c.toNat then
    none
  else
    some (mode.fold (.single c.toNat))

/- The set of the sign for any character. -/
def dotSet?
    (mode : Mode) : Option CodepointSet :=
  if !mode.unicode then
    none
  else if mode.dotAll then
    some .full
  else if mode.crlf then
    some ⟨[(0, 9), (11, 12), (14, CodepointSet.top)]⟩
  else
    some ⟨[(0, 9), (11, CodepointSet.top)]⟩

/- The condition of the sign for the start. -/
def startLook
    (mode : Mode) : Look :=
  if mode.multiLine then .lineStart mode.crlf else .textStart

/- The condition of the sign for the end. -/
def endLook
    (mode : Mode) : Look :=
  if mode.multiLine then .lineEnd mode.crlf else .textEnd

/- Read an escape as a part of the pattern. -/
def readEscape?
    (st : Reading)
    (s : List Char) :
    Option (Reading × List Char) := do
  let (e, rest) ← Escape.read? st.mode s
  match e with
  | .literal c byte =>
      let set ← literalSet? st.mode c byte
      some (st.push (.leaf (.chars set)), rest)
  | .chars set => some (st.push (.leaf (.chars set)), rest)
  | .look l => some (st.push (.leaf (.look l)), rest)

------------------------------------------------------------
-- Whole patterns
------------------------------------------------------------

/- Read what starts with the character `c`, followed by `t`. -/
def step?
    (st : Reading)
    (c : Char)
    (t : List Char) :
    Option (Reading × List Char) :=
  match c with
  | '(' => st.readGroup? t
  | ')' => st.closeGroup?.map (·, t)
  | '|' => some ({ st with body := st.body.split }, t)
  | '[' =>
      (Bracket.read? st.mode t).map fun (b, rest) =>
        (st.push ⟨.chars b.set, b.depth, true⟩, rest)
  | '?' => (st.repeatLast? 0 (some 1)).map (·, dropLazy t)
  | '*' => (st.repeatLast? 0 none).map (·, dropLazy t)
  | '+' => (st.repeatLast? 1 none).map (·, dropLazy t)
  | '\x7b' => do
      let (least, most, rest) ← readCounts? st.mode t
      let st' ← st.repeatLast? least most
      some (st', dropLazy (st.mode.skip rest))
  | '\\' => st.readEscape? t
  | '.' =>
      (dotSet? st.mode).map fun set =>
        (st.push (.leaf (.chars set)), t)
  | '^' => some (st.push (.leaf (.look (startLook st.mode))), t)
  | '$' => some (st.push (.leaf (.look (endLook st.mode))), t)
  | _ =>
      (literalSet? st.mode c false).map fun set =>
        (st.push (.leaf (.chars set)), t)

/-
  Read to the end. Each round takes at least one character, so
  `fuel` need not exceed their number.
-/
def run? :
    Nat → Reading → List Char → Option Part
| 0, _, _ => none
| fuel + 1, st, s =>
    match st.mode.skip s with
    | [] => if st.groups.isEmpty then some st.body.close else none
    | c :: t =>
        (st.step? c t).bind fun (st, rest) => run? fuel st rest

end Reading

/- The deepest nesting that a pattern may have. -/
def Pattern.maxNesting : Nat :=
  250

/- The pattern that a text describes, if it is nested soundly. -/
def Pattern.parse?
    (text : List Char) : Option Pattern :=
  (Reading.run? (text.length + 1) .start text).bind fun p =>
    if p.depth ≤ maxNesting then some p.pattern else none

end EmojiQuery
