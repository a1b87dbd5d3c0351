import EmojiQuery.Proofs.Query.Meaning

/-
  The score by which a record is tested: the greatest of those
  that it has for steps between shown levels. It does not depend
  on the order in which they are compared, and NaNs count only
  where there is nothing else. The levels may be any list.

  Main declarations:
    * `scoreKey?_eq_some_iff`
    * `Record.HasScore`
    * `Record.isMaximum_greatestScore?`
    * `Predicate.accepts_scores_iff`
    * `Record.greatestScore?_maximal_in_any_order`
-/

------------------------------------------------------------
-- Keys of Steps
------------------------------------------------------------

namespace EmojiQuery

/- The number after a level is one too, but for the greatest of all. -/
theorem toInt_add_one
    {l : Level}
    (hBelow : l ≠ Int64.maxValue) :
    (l + 1).toInt = l.toInt + 1 := by
  have hLower := l.le_toInt
  have hUpper := l.toInt_le
  have hNot : l.toInt ≠ Int64.maxValue.toInt := by
    intro hEqual
    exact hBelow (Int64.toInt_inj.mp hEqual)
  rw [Int64.toInt_maxValue] at hUpper hNot
  rw [Int64.toInt_add]
  exact Int.bmod_eq_of_le (by simp; omega) (by simp; omega)

/- Each level has the key of its step, but for the greatest of all. -/
theorem scoreKey?_eq_some_iff
    (l : Level)
    (key : String) :
    scoreKey? l = some key ↔
      l ≠ Int64.maxValue ∧ stepKey l = key := by
  rw [scoreKey?, Option.ite_none_left_eq_some, Option.some.injEq]
  apply and_congr_right
  intro hBelow
  rw [Level.text, Level.text, toInt_add_one hBelow, stepKey]

/- The keys that are looked up are those of all levels but the last. -/
theorem mem_scoreKeys_iff_exists_step
    (shown : List Level)
    (key : String) :
    key ∈ scoreKeys shown ↔
      ∃ l ∈ shown.dropLast,
        l ≠ Int64.maxValue ∧ stepKey l = key := by
  simp only [scoreKeys, List.mem_filterMap,
    scoreKey?_eq_some_iff]

end EmojiQuery

------------------------------------------------------------
-- The Greatest Score
------------------------------------------------------------

namespace EmojiQuery

/- Scores are compared from the first to the last. -/
theorem foldl_greaterScore_some
    (x : Binary64)
    (xs : List Binary64) :
    xs.foldl greaterScore (some x) =
      some (xs.foldl Binary64.max x) := by
  induction xs generalizing x with
  | nil =>
      rfl
  | cons y ys ih =>
      rw [List.foldl_cons, List.foldl_cons]
      exact ih (x.max y)

namespace Record

/-
  A record has a score for a step that starts at one of some
  levels, other than the last of them. No step starts at the
  greatest level of all.
-/
def HasScore
    (shown : List Level)
    (r : Record)
    (x : Binary64) : Prop :=
  ∃ l ∈ shown.dropLast, l ≠ Int64.maxValue ∧
    r.score? (stepKey l) = some x

/- A score that is looked up is one that the record has. -/
theorem exists_key_iff_hasScore
    (shown : List Level)
    (r : Record)
    (x : Binary64) :
    (∃ key ∈ scoreKeys shown, r.score? key = some x) ↔
      r.HasScore shown x := by
  simp only [mem_scoreKeys_iff_exists_step, HasScore]
  constructor
  · rintro ⟨_, ⟨l, hMember, hBelow, rfl⟩, hScore⟩
    exact ⟨l, hMember, hBelow, hScore⟩
  · rintro ⟨l, hMember, hBelow, hScore⟩
    exact ⟨_, ⟨l, hMember, hBelow, rfl⟩, hScore⟩

/- What is computed is the maximum of the scores under the keys. -/
theorem isMaximum_greatestScore?
    (keys : List String)
    (r : Record) :
    Binary64.IsMaximum
      (fun x => ∃ key ∈ keys, r.score? key = some x)
      (r.greatestScore? keys) := by
  simp only [← List.mem_filterMap, greatestScore?]
  cases keys.filterMap r.score? with
  | nil =>
      exact .absent (by simp)
  | cons x xs =>
      rw [List.foldl_cons]
      change Binary64.IsMaximum _ (xs.foldl greaterScore (some x))
      rw [foldl_greaterScore_some]
      exact Binary64.isMaximum_foldl_max x xs

theorem isMaximum_greatestScore?_scoreKeys
    (shown : List Level)
    (r : Record) :
    Binary64.IsMaximum (r.HasScore shown)
      (r.greatestScore? (scoreKeys shown)) := by
  have hMax := r.isMaximum_greatestScore? (scoreKeys shown)
  simp only [exists_key_iff_hasScore] at hMax
  exact hMax

end Record

/- A test of scores accepts a record whose greatest score is in its range. -/
theorem Predicate.accepts_scores_iff
    (range : Interval Binary64)
    (keys : List String)
    (r : Record) :
    (Predicate.scores range).accepts keys r = true ↔
      ∃ x,
        Binary64.IsGreatest
            (fun y => ∃ key ∈ keys, r.score? key = some y) x ∧
          x ∈ range := by
  simp only [accepts, Option.any_eq_true, Interval.contains_iff,
    Interval.mem_def, (r.isMaximum_greatestScore? keys).between_iff]

/-
  The score by which a record is tested is missing if the record
  has none for the steps between the levels; it is a NaN if all
  that it has are NaNs; and otherwise it is one of them that no
  number among them is above. So a test accepts the record if
  none of its scores is above the range, and one is not below
  it. A record with the same numbers under other keys, in any
  order and among any NaNs, is tested alike.
-/
theorem Record.greatestScore?_maximal_in_any_order
    (r : Record)
    (shown : List Level) :
    let greatest := r.greatestScore? (scoreKeys shown)
    (greatest = none ↔ ∀ x, ¬ r.HasScore shown x) ∧
      ((∃ x, greatest = some x ∧ x.isNaN = true) ↔
        (∃ x, r.HasScore shown x) ∧
          ∀ x, r.HasScore shown x → x.isNaN = true) ∧
      (∀ x, greatest = some x →
        r.HasScore shown x ∧
          ∀ y, r.HasScore shown y → y.isNaN = false → y ≤ x) ∧
      (∀ range : Interval Binary64,
        range.lower ≤ range.upper →
          ((Predicate.scores range).accepts (scoreKeys shown) r =
              true ↔
            (∃ x, r.HasScore shown x ∧ x.isNaN = false) ∧
              (∀ x, r.HasScore shown x → ¬ range.upper < x) ∧
                ∃ x, r.HasScore shown x ∧ range.lower ≤ x)) ∧
      ∀ (range : Interval Binary64) (keys : List String)
          (s : Record),
        (∀ x, x.isNaN = false →
          ((∃ key ∈ keys, s.score? key = some x) ↔
            r.HasScore shown x)) →
          (Predicate.scores range).accepts keys s =
            (Predicate.scores range).accepts (scoreKeys shown) r := by
  intro greatest
  have hMax := r.isMaximum_greatestScore?_scoreKeys shown
  refine ⟨hMax.eq_none_iff, hMax.isNaN_iff, ?_, ?_, ?_⟩
  · intro x hSome
    exact hMax.of_eq_some hSome
  · intro range hOrder
    rw [← hMax.between_iff_bounded hOrder]
    simp only [Predicate.accepts, Option.any_eq_true,
      Interval.contains_iff, Interval.mem_def]
  · intro range keys s hSame
    rw [Bool.eq_iff_iff, Predicate.accepts_scores_iff,
      Predicate.accepts_scores_iff]
    simp only [r.exists_key_iff_hasScore shown,
      Binary64.isGreatest_congr hSame]

/-
  A record with a NaN, one half, a negative zero and a negative
  infinity, and with an infinity where no step can start.
-/
def mixedRecord : Record where
  codepoints := [0x1F600]
  levels := [21, 22]
  version := .one
  notes := "grinning face"
  scores := some
    ⟨[("21_22", .nan), ("22_23", ⟨0x3FE0000000000000⟩),
        ("-1_0", ⟨0x8000000000000000⟩),
        ("23_24", ⟨0xFFF0000000000000⟩),
        ("9223372036854775807_9223372036854775808",
          ⟨0x7FF0000000000000⟩)],
      by decide⟩

/- Levels out of order, with repetitions and the greatest level. -/
def mixedLevels : List Level :=
  [21, 23, 22, 21, -1, Int64.maxValue, 5]

/- The NaN in front does not count, and any order of the keys will do. -/
theorem greatestScore?_of_mixedRecord :
    let half : Binary64 := ⟨0x3FE0000000000000⟩
    let range : Interval Binary64 := ⟨half, .one⟩
    let keys := scoreKeys mixedLevels
    mixedRecord.greatestScore? keys = some half ∧
      range.lower ≤ range.upper ∧
      mixedRecord.HasScore mixedLevels half ∧
      (∀ x, mixedRecord.HasScore mixedLevels x →
        ¬ range.upper < x) ∧
      (Predicate.scores range).accepts keys.reverse mixedRecord =
        true := by
  intro half range keys
  have hGreatest : mixedRecord.greatestScore? keys = some half := by
    decide +kernel
  have hOrder : range.lower ≤ range.upper := by
    decide
  have hAccepts :
      (Predicate.scores range).accepts keys mixedRecord = true := by
    decide +kernel
  rcases mixedRecord.greatestScore?_maximal_in_any_order mixedLevels with
    ⟨_, _, hSome, hTest, hOrderless⟩
  refine ⟨hGreatest, hOrder, (hSome half hGreatest).1,
    ((hTest range hOrder).mp hAccepts).2.1, ?_⟩
  rw [hOrderless range keys.reverse mixedRecord, hAccepts]
  intro x _
  simp only [List.mem_reverse]
  exact mixedRecord.exists_key_iff_hasScore mixedLevels x

end EmojiQuery
