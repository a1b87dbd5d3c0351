import EmojiQuery.Query.Predicate

/-
  This file selects the levels that are shown as columns.

  Key definitions include:
    * `hiddenLevel`
    * `shownLevels`
-/

namespace EmojiQuery

/- The level that was never released, and is never shown. -/
def hiddenLevel : Level :=
  20

/- Whether every predicate lets a level be shown. -/
def admitsLevel
    (ps : List Predicate)
    (l : Level) : Bool :=
  (ps.filterMap (Predicate.admitsLevel? l)).all id

/-
  The levels of a range that are shown, lowest first: all but
  the hidden one that every predicate lets be shown.
-/
def shownLevels
    (range : LevelRange)
    (ps : List Predicate) : List Level :=
  (range.levels.filter (· ≠ hiddenLevel)).filter (admitsLevel ps)

end EmojiQuery
