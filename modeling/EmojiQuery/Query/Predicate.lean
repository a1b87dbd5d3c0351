import EmojiQuery.Query.Clause
import EmojiQuery.Query.Interval
import EmojiQuery.Query.Note
import EmojiQuery.Record.Basic

/-
  This file defines tests of records, one for each kind of
  clause, and the keys under which a test of scores looks.

  Key definitions include:
    * `scoreKeys`
    * `Record.greatestScore?`
    * `Predicate`
    * `Predicate.ofClause`
    * `Predicate.accepts`
    * `Predicate.admitsLevel?`
-/

namespace EmojiQuery

------------------------------------------------------------
-- Scores of neighbouring levels
------------------------------------------------------------

/- The key of the score from a level to the next number. -/
def scoreKey?
    (l : Level) : Option String :=
  if l = Int64.maxValue then
    none
  else
    some (String.ofList (l.text ++ '_' :: (l + 1).text))

/- The keys of all shown levels but the last. -/
def scoreKeys
    (shown : List Level) : List String :=
  shown.dropLast.filterMap scoreKey?

/- The greater of a score and the greatest so far. -/
def greaterScore
    (best : Option Binary64)
    (x : Binary64) : Option Binary64 :=
  some (best.elim x fun b => b.max x)

/- The greatest of the scores that a record has under given keys. -/
def Record.greatestScore?
    (keys : List String)
    (r : Record) : Option Binary64 :=
  (keys.filterMap r.score?).foldl greaterScore none

------------------------------------------------------------
-- Predicates
------------------------------------------------------------

/- A test of records. -/
inductive Predicate where
/- A code point lies in the range. -/
| codepoints (range : Interval Int64)
/- The version lies in the range. -/
| version (range : Interval Binary64)
/- A level lies in the range. -/
| support (range : Interval Level)
/- The level that introduced the sequence lies in the range. -/
| introduced (range : Interval Level)
/- The notes pass a test. -/
| notes (test : NoteTest)
/- The greatest score of neighbouring levels lies in the range. -/
| scores (range : Interval Binary64)
deriving Repr

namespace Predicate

/- The test that a clause describes. -/
def ofClause
    (c : Clause) :
    Except SearchError Predicate :=
  match c.field with
  | .codepoints =>
      (Interval.parse readHexBound? c.raw).map .codepoints
  | .version => (Interval.parse readRealBound? c.raw).map .version
  | .support =>
      (Interval.parse readDecimalBound? c.raw).map .support
  | .introduced =>
      (Interval.parse readDecimalBound? c.raw).map .introduced
  | .notes => (NoteTest.parse c.raw).map .notes
  | .scores =>
      (Interval.parseFrom readRealBound? .one c.raw).map .scores

/- The field that the predicate tests. -/
def field :
    Predicate → Field
| .codepoints _ => .codepoints
| .version _ => .version
| .support _ => .support
| .introduced _ => .introduced
| .notes _ => .notes
| .scores _ => .scores

/-
  Whether the predicate lets a level be shown. Only tests of
  levels have a say.
-/
def admitsLevel?
    (l : Level) :
    Predicate → Option Bool
| .support range => some (range.contains l)
| _ => none

/- The number of a code point as a signed one. -/
def pointNumber
    (c : UInt32) : Int64 :=
  .ofNat c.toNat

/-
  Whether a record passes, where `keys` are the keys of the
  scores that count.
-/
def accepts
    (keys : List String)
    (r : Record) :
    Predicate → Bool
| .codepoints range =>
    r.codepoints.any fun c => range.contains (pointNumber c)
| .version range => range.contains r.version
| .support range => r.levels.any range.contains
| .introduced range => r.introduced?.any range.contains
| .notes test => test.accepts r.notes
| .scores range => (r.greatestScore? keys).any range.contains

end Predicate

end EmojiQuery
