import EmojiQuery.Number.Numeral

/-
  This file defines the platform levels on which sequences are
  shown, and ranges of them.

  Key definitions include:
    * `Level`
    * `LevelRange`
    * `LevelRange.ofLevels`
    * `LevelRange.levels`
-/

namespace EmojiQuery

/- A platform level. -/
abbrev Level :=
  Int64

/- The text of a level in base 10. -/
def Level.text
    (l : Level) : List Char :=
  Numeral.writeInt l.toInt

/-
  The levels from `lowest` to `highest`. The range is empty if
  they are in the wrong order.
-/
structure LevelRange where
  lowest : Level
  highest : Level
deriving DecidableEq, Repr

namespace LevelRange

/- The usual range without levels. -/
def empty : LevelRange :=
  ⟨0, -1⟩

/- Whether the range has no levels. -/
def isEmpty
    (r : LevelRange) : Bool :=
  r.highest < r.lowest

/- Whether a level lies in the range. -/
def contains
    (r : LevelRange)
    (l : Level) : Bool :=
  r.lowest ≤ l && l ≤ r.highest

/- The levels of the range, lowest first. -/
def levels
    (r : LevelRange) : List Level :=
  let lo := r.lowest.toInt
  let count := (r.highest.toInt + 1 - lo).toNat
  (List.range count).map fun (i : Nat) => Int64.ofInt (lo + i)

/- Extend a range, which may be missing, to hold one more level. -/
def extend
    (r? : Option LevelRange)
    (l : Level) : Option LevelRange :=
  match r? with
  | none => some ⟨l, l⟩
  | some r => some ⟨min r.lowest l, max r.highest l⟩

/- The least range that holds all of the levels. -/
def ofLevels
    (ls : List Level) : LevelRange :=
  (ls.foldl extend none).getD empty

end LevelRange

end EmojiQuery
