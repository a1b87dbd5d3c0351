import EmojiQuery.Pattern.Reading

/-
  This file measures patterns. A pattern is admitted only if
  the automata over UTF-8 bytes that recognise it, forwards
  and backwards, stay below a fixed size, so that a short
  text with nested counts cannot ask for unbounded work. The
  size is computed from the pattern without building either
  automaton, so counts multiply and nothing is repeated.

  Key definitions include:
    * `CodepointSet.byteSequences`
    * `Pattern.footprint`
    * `Pattern.sizeLimit`
    * `Pattern.compile?`
-/

namespace EmojiQuery

------------------------------------------------------------
-- Sets as byte sequences
------------------------------------------------------------

/- A sequence of byte ranges; it stands for all choices from them. -/
abbrev ByteSequence :=
  List (Nat × Nat)

/-
  The sequences for the numbers from `lo` to `hi`, written as
  one leading symbol, offset by `mark`, and `k` digits to base
  64.
-/
def blockSequences :
    Nat → Nat → Nat → Nat → List ByteSequence
| 0, mark, lo, hi => [[(mark + lo, mark + hi)]]
| k + 1, mark, lo, hi =>
    let unit := Nat.pow 64 (k + 1)
    let a := lo / unit
    let b := hi / unit
    let under (digit lo hi : Nat) : List ByteSequence :=
      (blockSequences k 0x80 lo hi).map
        ((mark + digit, mark + digit) :: ·)
    if a = b then
      under a (lo % unit) (hi % unit)
    else
      let headFull := lo % unit = 0
      let tailFull := hi % unit = unit - 1
      let a' := if headFull then a else a + 1
      let b' := if tailFull then b + 1 else b
      (if headFull then [] else under a (lo % unit) (unit - 1)) ++
        (if a' < b' then
          [(mark + a', mark + b' - 1) ::
            List.replicate (k + 1) (0x80, 0xBF)]
        else
          []) ++
        (if tailFull then [] else under b 0 (hi % unit))

/-
  The ranges of scalar values with one length in UTF-8, with
  the number of continuation bytes and the mark of the leading
  byte.
-/
def utf8Lengths : List (Nat × Nat × Nat × Nat) :=
[
  (0, 0x7F, 0, 0),
  (0x80, 0x7FF, 1, 0xC0),
  (0x800, 0xD7FF, 2, 0xE0),
  (0xE000, 0xFFFF, 2, 0xE0),
  (0x10000, 0x10FFFF, 3, 0xF0)
]

/- The sequences of bytes that spell the members of a set. -/
def CodepointSet.byteSequences
    (s : CodepointSet) : List ByteSequence :=
  s.ranges.flatMap fun r =>
    utf8Lengths.flatMap fun (first, last, k, mark) =>
      let lo := max r.1 first
      let hi := min r.2 last
      if lo ≤ hi then blockSequences k mark lo hi else []

namespace ByteSequence

/- Group neighbouring sequences by their first range. -/
def groupByHead :
    List ByteSequence →
      List ((Nat × Nat) × List ByteSequence)
| [] => []
| [] :: rest => groupByHead rest
| (r :: tail) :: rest =>
    match groupByHead rest with
    | (r', tails) :: groups =>
        if r = r' then
          (r, tail :: tails) :: groups
        else
          (r, [tail]) :: (r', tails) :: groups
    | [] => [(r, [tail])]

/- The number of distinct beginnings of the sequences. -/
def countPrefixes :
    Nat → List ByteSequence → Nat
| 0, _ => 0
| depth + 1, seqs =>
    (groupByHead seqs).foldl
      (fun n g => n + 1 + countPrefixes depth g.2) 0

/- A state of an automaton: its ranges and where they lead. -/
abbrev Node :=
  List ((Nat × Nat) × Nat)

/-
  Add the state that accepts the sequences to the states
  found so far, sharing equal ones, and return its number. The
  final state has number 0.
-/
def addNode :
    Nat → List ByteSequence → List Node → Nat × List Node
| 0, _, nodes => (0, nodes)
| depth + 1, seqs, nodes =>
    let groups := groupByHead seqs
    if groups.isEmpty then
      (0, nodes)
    else
      let (node, nodes) :=
        groups.foldl
          (fun (acc : Node × List Node) g =>
            let (child, nodes) := addNode depth g.2 acc.2
            (acc.1 ++ [(g.1, child)], nodes))
          ([], nodes)
      match nodes.idxOf? node with
      | some i => (nodes.length - i, nodes)
      | none => (nodes.length + 1, node :: nodes)

end ByteSequence

------------------------------------------------------------
-- Sizes
------------------------------------------------------------

/- The size of a state. -/
def stateSize : Nat :=
  32

/- The size of a range of bytes that leads to a state. -/
def rangeSize : Nat :=
  8

/- The size of a branch without input. -/
def branchSize : Nat :=
  4

/- In which direction an automaton reads. -/
inductive Direction where
| forward
| backward
deriving DecidableEq, Repr

namespace CodepointSet

/- The number of bytes of a scalar value in UTF-8. -/
def utf8Size
    (n : Nat) : Nat :=
  if n < 0x80 then 1
  else if n < 0x800 then 2
  else if n < 0x10000 then 3
  else 4

/- The size of the automaton for one character of a set. -/
def footprint
    (direction : Direction)
    (s : CodepointSet) : Nat :=
  match s.ranges with
  | [] => stateSize
  | [(a, b)] =>
      if a = b then utf8Size a * stateSize else wide
  | _ => wide
where
  /- The size when there is more than one character. -/
  wide : Nat :=
    if s.isAscii then
      2 * stateSize + rangeSize * s.ranges.length
    else
      let seqs := s.byteSequences
      match direction with
      | .forward =>
          let nodes := (ByteSequence.addNode 4 seqs []).2
          nodes.foldl
            (fun size node =>
              size + stateSize + rangeSize * node.length)
            stateSize
      | .backward =>
          2 * stateSize + branchSize * seqs.length +
            stateSize * ByteSequence.countPrefixes 4 seqs

end CodepointSet

namespace Pattern

/- Whether the pattern matches nothing but the empty text. -/
def isWidthless :
    Pattern → Bool
| .empty => true
| .chars _ => false
| .look _ => true
| .capture p => p.isWidthless
| .cat p q => p.isWidthless && q.isWidthless
| .alt p q => p.isWidthless && q.isWidthless
| .rep p _ most => p.isWidthless || most = some 0

/- Whether the pattern may match the empty text. -/
def mayBeEmpty :
    Pattern → Bool
| .empty => true
| .chars set => set.isEmpty
| .look _ => true
| .capture p => p.mayBeEmpty
| .cat p q => p.mayBeEmpty && q.mayBeEmpty
| .alt p q => p.mayBeEmpty || q.mayBeEmpty
| .rep p least _ => p.mayBeEmpty || least = 0

/- The size of a state with two branches. -/
def forkSize : Nat :=
  stateSize + 2 * branchSize

/-
  The size of a repetition of a pattern of size `size`.
-/
def repeatedSize
    (size : Nat)
    (emptyInner : Bool) :
    Nat → Option Nat → Nat
| 0, none =>
    if emptyInner then
      size + 2 * forkSize + stateSize
    else
      size + forkSize
| least, none => least * size + forkSize
| 0, some 0 => stateSize
| 0, some 1 => size + forkSize + stateSize
| least, some most =>
    (if least = 0 then stateSize else least * size) +
      (if least < most then
        stateSize + (most - least) * (size + forkSize)
      else
        0)

/- The size of the automaton for a pattern in one direction. -/
def footprint
    (direction : Direction) :
    Pattern → Nat
| .empty => stateSize
| .chars set => set.footprint direction
| .look _ => stateSize
| .capture p =>
    p.footprint direction +
      (if direction = .forward then 2 * stateSize else 0)
| .cat .empty q => q.footprint direction
| .cat p .empty => p.footprint direction
| .cat p q => p.footprint direction + q.footprint direction
| .alt p (.alt q r) =>
    branchSize + p.footprint direction +
      (Pattern.alt q r).footprint direction
| .alt p q =>
    2 * stateSize + 2 * branchSize + p.footprint direction +
      q.footprint direction
| .rep p least most =>
    if p.isWidthless then
      repeatedSize (p.footprint direction) true (min least 1)
        (some (min (most.getD 1) 1))
    else
      repeatedSize (p.footprint direction) p.mayBeEmpty least most

/-
  The size of the parts that every automaton has: the loop
  that skips to the first match, the remembered whole match
  and the final state.
-/
def frameSize : Nat :=
  2 * forkSize + 4 * stateSize

/- The size above which a pattern is refused: ten mebibytes. -/
def sizeLimit : Nat :=
  10 * 1024 * 1024

/- Whether the automata of a pattern stay below the limit. -/
def isSmall
    (p : Pattern) : Bool :=
  p.footprint .forward + frameSize ≤ sizeLimit &&
    p.footprint .backward + frameSize ≤ sizeLimit

/-
  The pattern that a text describes, unless the text is no
  pattern or its pattern is too large.
-/
def compile?
    (text : String) : Option Pattern :=
  (parse? text.toList).bind fun p =>
    if p.isSmall then some p else none

end Pattern

end EmojiQuery
