import EmojiQuery.Proofs.Query.Steps
import Mathlib.Data.Int.Range
import Mathlib.Order.Bounds.Basic

/-
  The levels that are shown, without a scan of the whole range:
  they are the numbers from the greatest lower end to the least
  upper end, of the range and of all predicates that have a say,
  except for the hidden level.

  Main declarations:
    * `commonLevels`
    * `isGreatest_lowerEnds`
    * `isLeast_upperEnds`
    * `mem_shownLevels_iff_between`
    * `map_toInt_shownLevels`
    * `shownLevels_eq_between`
-/

------------------------------------------------------------
-- Levels in Common
------------------------------------------------------------

namespace EmojiQuery

/- The levels of a range that also lie in an interval. -/
def LevelRange.meet
    (range : LevelRange)
    (interval : Interval Level) : LevelRange :=
  ⟨max range.lowest interval.lower,
    min range.highest interval.upper⟩

/- The levels of a range that a predicate lets be shown. -/
def Predicate.narrow
    (p : Predicate)
    (range : LevelRange) : LevelRange :=
  match p with
  | .support interval => range.meet interval
  | _ => range

/- The levels of a range that every predicate lets be shown. -/
def commonLevels
    (range : LevelRange)
    (ps : List Predicate) : LevelRange :=
  ps.foldr Predicate.narrow range

/-
  An end of a range, and the ends on the same side of all
  predicates that have a say.
-/
def ends
    (own : Level)
    (bound : Interval Level → Level)
    (ps : List Predicate) : Set Int :=
  {i | i = own.toInt ∨
    ∃ interval, Predicate.support interval ∈ ps ∧
      i = (bound interval).toInt}

/- Where a range and the predicates that have a say begin. -/
def lowerEnds
    (range : LevelRange)
    (ps : List Predicate) : Set Int :=
  ends range.lowest Interval.lower ps

/- Where a range and the predicates that have a say end. -/
def upperEnds
    (range : LevelRange)
    (ps : List Predicate) : Set Int :=
  ends range.highest Interval.upper ps

end EmojiQuery

------------------------------------------------------------
-- Ends of What Is Common
------------------------------------------------------------

namespace EmojiQuery

/- Only a predicate that has a say brings an end. -/
theorem ends_cons
    (own : Level)
    (bound : Interval Level → Level)
    (p : Predicate)
    (ps : List Predicate) :
    ends own bound (p :: ps) =
      match p with
      | .support interval =>
          insert (bound interval).toInt (ends own bound ps)
      | _ => ends own bound ps := by
  cases p with
  | support interval =>
      ext i
      simp [ends, or_and_right, exists_or, or_left_comm]
  | codepoints | version | introduced | notes | scores =>
      simp [ends]

/- What is common begins at the greatest of the lower ends. -/
theorem isGreatest_lowerEnds
    (range : LevelRange)
    (ps : List Predicate) :
    IsGreatest (lowerEnds range ps)
      (commonLevels range ps).lowest.toInt := by
  induction ps with
  | nil =>
      simp [lowerEnds, ends, commonLevels]
  | cons p ps ih =>
      rw [lowerEnds, ends_cons]
      cases p with
      | support interval =>
          have hMeet := ih.insert interval.lower.toInt
          rw [max_comm, ← Level.toInt_max] at hMeet
          exact hMeet
      | codepoints | version | introduced | notes | scores =>
          exact ih

/- It ends at the least of the upper ends. -/
theorem isLeast_upperEnds
    (range : LevelRange)
    (ps : List Predicate) :
    IsLeast (upperEnds range ps)
      (commonLevels range ps).highest.toInt := by
  induction ps with
  | nil =>
      simp [upperEnds, ends, commonLevels]
  | cons p ps ih =>
      rw [upperEnds, ends_cons]
      cases p with
      | support interval =>
          have hMeet := ih.insert interval.upper.toInt
          rw [min_comm, ← Level.toInt_min] at hMeet
          exact hMeet
      | codepoints | version | introduced | notes | scores =>
          exact ih

end EmojiQuery

------------------------------------------------------------
-- Shown Levels
------------------------------------------------------------

namespace EmojiQuery

/- The ends are that of the range and those of single predicates. -/
theorem forall_mem_ends_iff
    (own : Level)
    (bound : Interval Level → Level)
    (ps : List Predicate)
    (P : Int → Prop) :
    (∀ i ∈ ends own bound ps, P i) ↔
      P own.toInt ∧
        ∀ p ∈ ps, ∀ interval, p = .support interval →
          P (bound interval).toInt := by
  constructor
  · intro hAll
    refine ⟨hAll _ (.inl rfl), ?_⟩
    rintro p hMember interval rfl
    exact hAll _ (.inr ⟨interval, hMember, rfl⟩)
  · rintro ⟨hOwn, hOthers⟩ i (rfl | ⟨interval, hMember, rfl⟩)
    · exact hOwn
    · exact hOthers _ hMember interval rfl

/- A level is shown if it is common to all, and not hidden. -/
theorem mem_shownLevels_iff_between
    (range : LevelRange)
    (ps : List Predicate)
    (l : Level) :
    l ∈ shownLevels range ps ↔
      (commonLevels range ps).lowest.toInt ≤ l.toInt ∧
        l.toInt ≤ (commonLevels range ps).highest.toInt ∧
          l.toInt ≠ 20 := by
  -- To be above the greatest of the ends is to be above them all.
  rw [isLUB_le_iff (isGreatest_lowerEnds range ps).isLUB,
    le_isGLB_iff (isLeast_upperEnds range ps).isGLB,
    mem_upperBounds, mem_lowerBounds, lowerEnds, upperEnds,
    forall_mem_ends_iff, forall_mem_ends_iff,
    mem_shownLevels_iff]
  have hHidden : l ≠ hiddenLevel ↔ l.toInt ≠ 20 :=
    not_congr Int64.toInt_inj.symm
  simp only [hHidden, Interval.mem_def, Int64.le_iff_toInt_le]
  constructor
  · rintro ⟨hLower, hUpper, hShown, hAll⟩
    exact
      ⟨⟨hLower, fun p hMember interval hSay =>
          (hAll p hMember interval hSay).1⟩,
        ⟨hUpper, fun p hMember interval hSay =>
          (hAll p hMember interval hSay).2⟩,
        hShown⟩
  · rintro ⟨⟨hLower, hBegin⟩, ⟨hUpper, hEnd⟩, hShown⟩
    exact ⟨hLower, hUpper, hShown, fun p hMember interval hSay =>
      ⟨hBegin p hMember interval hSay,
        hEnd p hMember interval hSay⟩⟩

/- The numbers from one to another ascend. -/
theorem pairwise_intRange
    (lower upper : Int) :
    (Int.range lower upper).Pairwise (· < ·) := by
  rw [Int.range, List.pairwise_map]
  apply List.pairwise_lt_range.imp
  intro i j hLess
  omega

/- The scan of a range comes to the numbers between the common ends. -/
theorem map_toInt_shownLevels
    (range : LevelRange)
    (ps : List Predicate) :
    (shownLevels range ps).map Int64.toInt =
      (Int.range (commonLevels range ps).lowest.toInt
        ((commonLevels range ps).highest.toInt + 1)).filter
          (· ≠ 20) := by
  apply eq_of_ascending (r := (· < ·))
  · intro i j hLess
    exact Int.lt_asymm hLess
  · rw [List.pairwise_map]
    exact (pairwise_shownLevels range ps).imp
      Int64.lt_iff_toInt_lt.mp
  · exact (pairwise_intRange _ _).filter _
  · intro i
    rw [List.mem_map, List.mem_filter, Int.mem_range_iff,
      Int.lt_add_one_iff, decide_eq_true_eq, and_assoc]
    constructor
    · rintro ⟨l, hMember, rfl⟩
      exact (mem_shownLevels_iff_between range ps l).mp hMember
    · intro hBetween
      -- A number between two levels is that of a level itself.
      have hLevel : (Int64.ofInt i).toInt = i :=
        LevelRange.toInt_ofInt_of_between hBetween.1 hBetween.2.1
      refine ⟨Int64.ofInt i, ?_, hLevel⟩
      rw [mem_shownLevels_iff_between, hLevel]
      exact hBetween

/- Between ends in the wrong order there is no level. -/
theorem shownLevels_of_reversed
    {range : LevelRange}
    {ps : List Predicate}
    (hReversed :
      (commonLevels range ps).highest <
        (commonLevels range ps).lowest) :
    shownLevels range ps = [] := by
  rw [Int64.lt_iff_toInt_lt] at hReversed
  rw [List.eq_nil_iff_forall_not_mem]
  intro l hMember
  rw [mem_shownLevels_iff_between] at hMember
  omega

/-
  The levels that are shown are the numbers from the greatest
  lower end to the least upper end, the hidden one left out. So
  there are none if these ends are reversed. They ascend, and
  leave out no other number between them.
-/
theorem shownLevels_eq_between
    (range : LevelRange)
    (ps : List Predicate) :
    let common := commonLevels range ps
    let shown := shownLevels range ps
    IsGreatest (lowerEnds range ps) common.lowest.toInt ∧
      IsLeast (upperEnds range ps) common.highest.toInt ∧
        shown.map Int64.toInt =
            (Int.range common.lowest.toInt
              (common.highest.toInt + 1)).filter (· ≠ 20) ∧
          (common.highest < common.lowest → shown = []) ∧
            shown.Pairwise (· < ·) ∧
              ∀ l m, [l, m] <:+: shown →
                m.toInt = l.toInt + 1 ∨ l = 19 ∧ m = 21 := by
  intro common shown
  refine ⟨isGreatest_lowerEnds range ps,
    isLeast_upperEnds range ps, map_toInt_shownLevels range ps,
    ?_, pairwise_shownLevels range ps, ?_⟩
  · intro hReversed
    exact shownLevels_of_reversed hReversed
  · intro l m hNext
    exact succ_or_around_hidden_of_next hNext

/-
  Two predicates leave the levels around the hidden one. Two
  others have no level in common, whatever the range, and then
  none is shown.
-/
theorem shownLevels_eq_between_around_hidden :
    let ps : List Predicate :=
      [.support ⟨19, 40⟩, .introduced ⟨26, 26⟩, .support ⟨-5, 21⟩]
    let qs : List Predicate :=
      [.support ⟨5, 9⟩, .support ⟨12, Int64.maxValue⟩]
    let whole : LevelRange := ⟨Int64.minValue, Int64.maxValue⟩
    [19, 21] <:+: shownLevels ⟨18, 30⟩ ps ∧
      ((21 : Level).toInt = (19 : Level).toInt + 1 ∨
        (19 : Level) = 19 ∧ (21 : Level) = 21) ∧
      commonLevels whole qs = ⟨12, 9⟩ ∧
        (commonLevels whole qs).highest <
            (commonLevels whole qs).lowest ∧
          shownLevels whole qs = [] := by
  intro ps qs whole
  have hNext : [19, 21] <:+: shownLevels ⟨18, 30⟩ ps := by
    have hShown : shownLevels ⟨18, 30⟩ ps = [19, 21] := by
      decide +kernel
    exact hShown ▸ List.infix_rfl
  have hReversed :
      (commonLevels whole qs).highest <
        (commonLevels whole qs).lowest := by
    decide
  exact ⟨hNext,
    (shownLevels_eq_between ⟨18, 30⟩ ps).2.2.2.2.2 19 21 hNext,
    by decide, hReversed,
    (shownLevels_eq_between whole qs).2.2.2.1 hReversed⟩

end EmojiQuery
