import EmojiQuery.Record.Level
import EmojiQuery.Record.Scores

/-
  This file defines the records that are searched: one emoji
  sequence each, with the levels on which it is shown.

  Key definitions include:
    * `Record`
    * `Record.introduced?`
    * `Record.score?`
    * `Record.label`
    * `Record.text`
    * `Record.normalize`
    * `LevelRange.ofRecords`
-/

namespace EmojiQuery

/- One emoji sequence and the levels on which it is shown. -/
structure Record where
  codepoints : List UInt32
  levels : List Level
  version : Binary64
  notes : String
  scores : Option Scores
deriving DecidableEq

namespace Record

/- The level that introduced the sequence. -/
def introduced?
    (r : Record) : Option Level :=
  r.levels.head?

/- Whether the sequence is shown on a level. -/
def supports
    (r : Record)
    (l : Level) : Bool :=
  r.levels.contains l

/- The score stored under a key. -/
def score?
    (r : Record)
    (key : String) : Option Binary64 :=
  r.scores.bind fun s => s.get? key

/- The written form of one code point. -/
def labelOf
    (c : UInt32) : List Char :=
  'U' :: '+' :: Numeral.write 16 c.toNat

/- The code points in written form, separated by spaces. -/
def label
    (r : Record) : String :=
  String.ofList ([' '].intercalate (r.codepoints.map labelOf))

/- The character with a given number, if there is one. -/
def char?
    (c : UInt32) : Option Char :=
  if c.toNat.isValidChar then some (Char.ofNat c.toNat) else none

/- The sequence as text, without the code points that are no characters. -/
def text
    (r : Record) : String :=
  String.ofList (r.codepoints.filterMap char?)

/- Sort the levels and remove repetitions. -/
def normalize
    (r : Record) : Record :=
  { r with levels := (r.levels.mergeSort (· ≤ ·)).eraseReps }

end Record

/- The least range that holds every level of every record. -/
def LevelRange.ofRecords
    (rs : List Record) : LevelRange :=
  .ofLevels (rs.flatMap Record.levels)

end EmojiQuery
