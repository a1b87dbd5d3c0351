import EmojiQuery.Unicode.Property

/-
  This file defines patterns over text and what they match. A
  pattern denotes, for every text, which positions can be
  reached from which: the matcher carries the set of all
  positions reached so far through the pattern, so its work
  grows with the text and the pattern and never backtracks.

  Key definitions include:
    * `Look`
    * `Look.holds`
    * `Pattern`
    * `Pattern.ends`
    * `Pattern.found`
-/

namespace EmojiQuery

------------------------------------------------------------
-- Conditions on a position
------------------------------------------------------------

/- Which characters words are made of. -/
inductive WordScope where
| unicode
| ascii
deriving DecidableEq, Repr

/- Whether a character belongs to a word. -/
def WordScope.isWord :
    WordScope → Char → Bool
| .unicode, c => Unicode.wordCharacters.contains c.toNat
| .ascii, c => c.isAlphanum || c = '_'

/- A condition on the characters on either side of a position. -/
inductive Look where
| textStart
| textEnd
| lineStart (crlf : Bool)
| lineEnd (crlf : Bool)
| wordEdge (scope : WordScope)
| noWordEdge (scope : WordScope)
| wordStart (scope : WordScope)
| wordEnd (scope : WordScope)
| noWordBefore (scope : WordScope)
| noWordAfter (scope : WordScope)
deriving DecidableEq, Repr

/- Whether there is a character and it belongs to a word. -/
def WordScope.onWord
    (scope : WordScope)
    (c : Option Char) : Bool :=
  c.any scope.isWord

/- Whether the condition holds between two neighbours. -/
def Look.holds
    (before after : Option Char) :
    Look → Bool
| .textStart => before.isNone
| .textEnd => after.isNone
| .lineStart false => before.isNone || before = some '\n'
| .lineStart true =>
    before.isNone || before = some '\n' ||
      (before = some '\r' && after ≠ some '\n')
| .lineEnd false => after.isNone || after = some '\n'
| .lineEnd true =>
    after.isNone || after = some '\r' ||
      (after = some '\n' && before ≠ some '\r')
| .wordEdge scope => scope.onWord before != scope.onWord after
| .noWordEdge scope => scope.onWord before == scope.onWord after
| .wordStart scope => !scope.onWord before && scope.onWord after
| .wordEnd scope => scope.onWord before && !scope.onWord after
| .noWordBefore scope => !scope.onWord before
| .noWordAfter scope => !scope.onWord after

------------------------------------------------------------
-- Patterns
------------------------------------------------------------

/- A pattern over text. -/
inductive Pattern where
/- The empty text. -/
| empty
/- One character of a set. -/
| chars (set : CodepointSet)
/- The empty text, where a condition holds. -/
| look (l : Look)
/- What a remembered group matches. -/
| capture (p : Pattern)
/- One pattern and then another. -/
| cat (p q : Pattern)
/- Either pattern. -/
| alt (p q : Pattern)
/- A pattern repeated at least and at most so many times. -/
| rep (p : Pattern) (least : Nat) (most : Option Nat)
deriving Repr

------------------------------------------------------------
-- Ascending lists of positions
------------------------------------------------------------

namespace Positions

/- The members of either of two ascending lists. -/
def unite :
    List Nat → List Nat → List Nat
| [], ys => ys
| xs, [] => xs
| x :: xs, y :: ys =>
    if x < y then
      x :: unite xs (y :: ys)
    else if y < x then
      y :: unite (x :: xs) ys
    else
      x :: unite xs ys
termination_by xs ys => xs.length + ys.length

/- The members of the first ascending list that are not in the second. -/
def without :
    List Nat → List Nat → List Nat
| [], _ => []
| xs, [] => xs
| x :: xs, y :: ys =>
    if x < y then
      x :: without xs (y :: ys)
    else if y < x then
      without (x :: xs) ys
    else
      without xs ys
termination_by xs ys => xs.length + ys.length

/- Take a step a given number of times. -/
def iterate
    (step : List Nat → List Nat) :
    Nat → List Nat → List Nat
| 0, s => s
| n + 1, s =>
    if s.isEmpty then [] else iterate step n (step s)

/-
  Add to `seen` what at most so many steps reach, taking each
  step from the positions that the step before reached first.
-/
def within
    (step : List Nat → List Nat) :
    Nat → List Nat → List Nat → List Nat
| 0, seen, _ => seen
| n + 1, seen, front =>
    let fresh := without (step front) seen
    if fresh.isEmpty then
      seen
    else
      within step n (unite seen fresh) fresh

end Positions

------------------------------------------------------------
-- Matching
------------------------------------------------------------

namespace Pattern

/-
  The positions that the pattern reaches in `text` from the
  positions in `s`. No repetition makes a difference after
  one more round than `text` has characters, because a round
  that does not advance can be repeated at will.
-/
def ends
    (text : Array Char) :
    Pattern → List Nat → List Nat
| .empty, s => s
| .chars set, s =>
    s.filterMap fun i =>
      match text[i]? with
      | some c => if set.contains c.toNat then some (i + 1) else none
      | none => none
| .look l, s =>
    s.filter fun i =>
      l.holds (if i = 0 then none else text[i - 1]?) text[i]?
| .capture p, s => p.ends text s
| .cat p q, s => q.ends text (p.ends text s)
| .alt p q, s => Positions.unite (p.ends text s) (q.ends text s)
| .rep p least most, s =>
    let rounds := text.size + 1
    let start :=
      Positions.iterate (p.ends text) (min least rounds) s
    let more :=
      match most with
      | none => rounds
      | some m => min (m - least) rounds
    Positions.within (p.ends text) more start start

/- Whether the pattern matches somewhere in the text. -/
def found
    (p : Pattern)
    (text : String) : Bool :=
  let cs := text.toList.toArray
  !(p.ends cs (List.range (cs.size + 1))).isEmpty

end Pattern

end EmojiQuery
