import EmojiQuery.Proofs.Lists
import EmojiQuery.Proofs.Number.Order
import EmojiQuery.Query.Basic

/-
  What the clauses of a query say about records and levels,
  without reference to the way in which they are evaluated.

  Main declarations:
    * `Clause.Admits`
    * `Clause.Holds`
    * `Answers`
    * `Answers.unique`
-/

namespace EmojiQuery

------------------------------------------------------------
-- Ranges
------------------------------------------------------------

namespace Interval

variable {α : Type}

/- A range has the numbers between its bounds, which belong to it. -/
instance [LE α] : Membership α (Interval α) :=
  ⟨fun r a => r.lower ≤ a ∧ a ≤ r.upper⟩

theorem mem_def
    [LE α]
    (r : Interval α)
    (a : α) :
    a ∈ r ↔ r.lower ≤ a ∧ a ≤ r.upper :=
  Iff.rfl

@[simp] theorem contains_iff
    [LE α]
    [DecidableLE α]
    (r : Interval α)
    (a : α) :
    r.contains a = true ↔ a ∈ r := by
  simp [contains, mem_def]

end Interval

------------------------------------------------------------
-- Scores between shown levels
------------------------------------------------------------

/- The key for the step from a level to the number after it. -/
def stepKey
    (l : Level) : String :=
  String.ofList
    (Numeral.writeInt l.toInt ++
      '_' :: Numeral.writeInt (l.toInt + 1))

/-
  A record stores a score for a step that starts at a shown
  level other than the last.
-/
def Record.StoresScore
    (shown : List Level)
    (r : Record)
    (x : Binary64) : Prop :=
  ∃ scores, r.scores = some scores ∧
    ∃ l ∈ shown.dropLast, (stepKey l, x) ∈ scores.entries

------------------------------------------------------------
-- Clauses
------------------------------------------------------------

namespace Clause

/- The value of a clause can be understood. -/
def Builds
    (c : Clause) : Prop :=
  ∃ p, Predicate.ofClause c = .ok p

/- A clause lets a level be shown. Only `api` has a say. -/
def Admits
    (c : Clause)
    (l : Level) : Prop :=
  c.field = .support →
    ∃ range : Interval Level,
      Interval.parse readDecimalBound? c.raw = .ok range ∧
        l ∈ range

/- A clause holds of a record while some levels are shown. -/
def Holds
    (shown : List Level)
    (r : Record)
    (c : Clause) : Prop :=
  match c.field with
  | .codepoints =>
      ∃ range : Interval Int64,
        Interval.parse readHexBound? c.raw = .ok range ∧
          ∃ point ∈ r.codepoints,
            range.lower.toInt ≤ point.toNat ∧
              point.toNat ≤ range.upper.toInt
  | .version =>
      ∃ range : Interval Binary64,
        Interval.parse readRealBound? c.raw = .ok range ∧
          r.version.isNaN = false ∧ r.version ∈ range
  | .support =>
      ∃ range : Interval Level,
        Interval.parse readDecimalBound? c.raw = .ok range ∧
          ∃ l ∈ r.levels, l ∈ range
  | .introduced =>
      ∃ range : Interval Level,
        Interval.parse readDecimalBound? c.raw = .ok range ∧
          ∃ l, r.levels.head? = some l ∧ l ∈ range
  | .notes =>
      ∃ test : NoteTest,
        NoteTest.parse c.raw = .ok test ∧
          test.accepts r.notes = true
  | .scores =>
      ∃ range : Interval Binary64,
        Interval.parseFrom readRealBound? .one c.raw =
            .ok range ∧
          ∃ x, Binary64.IsGreatest (r.StoresScore shown) x ∧
            x ∈ range

end Clause

------------------------------------------------------------
-- Answers
------------------------------------------------------------

/-
  The results that a list of clauses asks for, over a list of
  records whose levels are taken from a range.
-/
structure Answers
    (rs : List Record)
    (cs : List Clause)
    (range : LevelRange)
    (results : Results) : Prop where
  /- The columns stand in ascending order. -/
  levels_ascending : results.levels.Pairwise (· < ·)
  /- A level of the range is a column if every clause admits it. -/
  mem_levels :
    ∀ l, l ∈ results.levels ↔
      range.lowest ≤ l ∧ l ≤ range.highest ∧ l ≠ 20 ∧
        ∀ c ∈ cs, c.Admits l
  /- Each place is found once, and in the order of the records. -/
  found_ascending :
    (results.found.map Match.position).Pairwise (· < ·)
  /- A place is found if every clause holds of its record. -/
  mem_found :
    ∀ m, m ∈ results.found ↔
      rs[m.position]? = some m.record ∧
        ∀ c ∈ cs, c.Holds results.levels m.record
  /- The count is the number of records found. -/
  count_eq : results.count = results.found.length

namespace Answers

/- Clauses ask for one result only. -/
theorem unique
    {rs : List Record}
    {cs : List Clause}
    {range : LevelRange}
    {left right : Results}
    (hLeft : Answers rs cs range left)
    (hRight : Answers rs cs range right) :
    left = right := by
  have hLevels : left.levels = right.levels := by
    apply eq_of_ascending (r := (· < ·))
    · intro a b hLess
      exact Int64.lt_asymm hLess
    · exact hLeft.levels_ascending
    · exact hRight.levels_ascending
    · intro l
      rw [hLeft.mem_levels, hRight.mem_levels]
  have hFound : left.found = right.found := by
    apply eq_of_ascending
      (r := fun m n => m.position < n.position)
    · intro m n hLess
      exact Nat.lt_asymm hLess
    · exact List.pairwise_map.mp hLeft.found_ascending
    · exact List.pairwise_map.mp hRight.found_ascending
    · intro m
      rw [hLeft.mem_found, hRight.mem_found, hLevels]
  have hCount : left.count = right.count := by
    rw [hLeft.count_eq, hRight.count_eq, hFound]
  cases left
  cases right
  simp only [Results.mk.injEq]
  exact ⟨hLevels, hFound, hCount⟩

end Answers

end EmojiQuery
