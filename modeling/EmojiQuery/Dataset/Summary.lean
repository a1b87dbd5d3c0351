import EmojiQuery.Record.Basic

/-
  This file counts how many sequences are shown on each level.

  Key definitions include:
    * `LevelCount`
    * `tally`
    * `LevelSummary`
    * `summarize`
-/

namespace EmojiQuery

/- A level and how often it was met. -/
structure LevelCount where
  level : Level
  count : Nat
deriving DecidableEq, Repr

/- Count one more occurrence, in a list that ascends by level. -/
def LevelCount.bump
    (l : Level) :
    List LevelCount → List LevelCount
| [] => [⟨l, 1⟩]
| c :: cs =>
    if l < c.level then
      ⟨l, 1⟩ :: c :: cs
    else if l = c.level then
      ⟨l, c.count + 1⟩ :: cs
    else
      c :: bump l cs

/- Count the occurrences of levels in a range, lowest level first. -/
def tally
    (range : LevelRange)
    (rs : List Record) : List LevelCount :=
  ((rs.flatMap Record.levels).filter range.contains).foldl
    (fun cs l => LevelCount.bump l cs) []

/-
  A row of the summary: a level, the number of sequences shown
  on it, and the change from the row before.
-/
structure LevelSummary where
  level : Level
  supported : Nat
  change : Int
deriving DecidableEq, Repr

/- Compare every count with the one before it. -/
def withChanges :
    Nat → List LevelCount → List LevelSummary
| _, [] => []
| before, c :: cs =>
    ⟨c.level, c.count, (c.count : Int) - before⟩ ::
      withChanges c.count cs

/-
  The summary of records over a range. Levels without any
  sequence are left out, and the first row changes from zero.
-/
def summarize
    (rs : List Record)
    (range : LevelRange) : List LevelSummary :=
  withChanges 0 (tally range rs)

end EmojiQuery
