import EmojiQuery.Proofs.Lists
import EmojiQuery.Proofs.Record.Level
import EmojiQuery.Record.Basic

/-
  Records in a dataset: their levels ascend and do not repeat,
  and they are the levels that the record was given. The range
  of a list of records is the least that has all of their
  levels.

  Main declarations:
    * `Record.mem_levels_normalize_iff`
    * `Record.pairwise_levels_normalize`
    * `Record.Alike`
    * `Record.normalize_of_pairwise`
    * `Record.normalize_eq_normalize_iff`
    * `Record.introduced?_normalize_eq_some_iff`
    * `LevelRange.Spans`
    * `LevelRange.spans_ofLevels`
    * `LevelRange.isEmpty_ofLevels_iff`
    * `LevelRange.contains_ofRecords`
-/

------------------------------------------------------------
-- Levels of a Record
------------------------------------------------------------

namespace EmojiQuery

namespace Record

variable {r : Record}
variable {l : Level}

/- No level is lost, and none is added. -/
@[simp] theorem mem_levels_normalize_iff :
    l ∈ r.normalize.levels ↔ l ∈ r.levels := by
  simp [normalize]

/- The levels of a record in a dataset ascend. -/
theorem pairwise_levels_normalize
    (r : Record) :
    r.normalize.levels.Pairwise (· < ·) := by
  have hSorted :
      (r.levels.mergeSort (· ≤ ·)).Pairwise (· ≤ ·) := by
    have hOrder :
        (r.levels.mergeSort (· ≤ ·)).Pairwise
          fun a b => decide (a ≤ b) = true := by
      apply List.pairwise_mergeSort
      · intro a b c hLeft hRight
        rw [decide_eq_true_eq] at *
        exact Int64.le_trans hLeft hRight
      · intro a b
        rw [Bool.or_eq_true, decide_eq_true_eq, decide_eq_true_eq]
        exact Int64.le_total a b
    exact hOrder.imp of_decide_eq_true
  have hAscending :=
    pairwise_eraseReps (fun _ _ => Int64.le_antisymm) hSorted
  apply hAscending.imp
  rintro a b ⟨hOrder, hDiffer⟩
  exact Int64.lt_of_le_of_ne hOrder hDiffer

theorem nodup_levels_normalize
    (r : Record) :
    r.normalize.levels.Nodup :=
  r.pairwise_levels_normalize.imp Int64.ne_of_lt

/- Records that differ only in the order and repetitions of levels. -/
structure Alike
    (r s : Record) : Prop where
  rest_eq : { r with levels := [] } = { s with levels := [] }
  mem_levels : ∀ l, l ∈ r.levels ↔ l ∈ s.levels

/- Levels that ascend leave nothing in which alike records differ. -/
theorem Alike.eq_of_ascending
    {r s : Record}
    (hAlike : r.Alike s)
    (hLeft : r.levels.Pairwise (· < ·))
    (hRight : s.levels.Pairwise (· < ·)) :
    r = s := by
  have hLevels : r.levels = s.levels := by
    apply EmojiQuery.eq_of_ascending (r := (· < ·))
    · intro a b hLess
      exact Int64.lt_asymm hLess
    · exact hLeft
    · exact hRight
    · exact hAlike.mem_levels
  have hRest := hAlike.rest_eq
  rw [Record.mk.injEq] at hRest
  rcases hRest with ⟨hPoints, _, hVersion, hNotes, hScores⟩
  cases r
  cases s
  rw [Record.mk.injEq]
  exact ⟨hPoints, hLevels, hVersion, hNotes, hScores⟩

theorem alike_normalize
    (r : Record) :
    r.normalize.Alike r :=
  ⟨rfl, fun _ => mem_levels_normalize_iff⟩

/- Levels that ascend are kept as they are. -/
theorem normalize_of_pairwise
    {r : Record}
    (hAscending : r.levels.Pairwise (· < ·)) :
    r.normalize = r :=
  r.alike_normalize.eq_of_ascending r.pairwise_levels_normalize
    hAscending

/- The normal form of a record tells all but the order of its levels. -/
theorem normalize_eq_normalize_iff
    {r s : Record} :
    r.normalize = s.normalize ↔ r.Alike s := by
  constructor
  · intro hSame
    refine ⟨congrArg (fun t : Record => { t with levels := [] })
      hSame, ?_⟩
    intro l
    rw [← mem_levels_normalize_iff (r := r), hSame,
      mem_levels_normalize_iff]
  · intro hAlike
    have hNormal : r.normalize.Alike s.normalize := by
      refine ⟨hAlike.rest_eq, ?_⟩
      intro l
      rw [mem_levels_normalize_iff, mem_levels_normalize_iff]
      exact hAlike.mem_levels l
    exact hNormal.eq_of_ascending r.pairwise_levels_normalize
      s.pairwise_levels_normalize

/- The level that introduced a sequence is the least of its levels. -/
theorem introduced?_normalize_eq_some_iff :
    r.normalize.introduced? = some l ↔
      l ∈ r.levels ∧ ∀ k ∈ r.levels, l ≤ k := by
  have hAscending := r.pairwise_levels_normalize
  simp only [← mem_levels_normalize_iff (r := r), introduced?]
  cases hLevels : r.normalize.levels with
  | nil =>
      simp
  | cons a levels =>
      rw [hLevels, List.pairwise_cons] at hAscending
      rw [List.head?_cons, Option.some.injEq]
      constructor
      · rintro rfl
        refine ⟨List.mem_cons_self, ?_⟩
        rintro k (_ | ⟨_, hLater⟩)
        · exact Int64.le_refl a
        · exact Int64.le_of_lt (hAscending.1 k hLater)
      · rintro ⟨hMember, hLeast⟩
        rcases List.mem_cons.mp hMember with hFirst | hLater
        · exact hFirst.symm
        · exact Int64.le_antisymm
            (Int64.le_of_lt (hAscending.1 l hLater))
            (hLeast a List.mem_cons_self)

end Record

end EmojiQuery

------------------------------------------------------------
-- The Range of All Levels
------------------------------------------------------------

namespace EmojiQuery

namespace LevelRange

/- A range has the levels of a list, and ends with two of them. -/
structure Spans
    (range : LevelRange)
    (ls : List Level) : Prop where
  lowest_mem : range.lowest ∈ ls
  highest_mem : range.highest ∈ ls
  between : ∀ l ∈ ls, range.lowest ≤ l ∧ l ≤ range.highest

namespace Spans

variable {range : LevelRange}
variable {ls : List Level}

theorem single
    (l : Level) :
    Spans ⟨l, l⟩ [l] := by
  refine ⟨List.mem_singleton_self l, List.mem_singleton_self l, ?_⟩
  intro k hMember
  rw [List.mem_singleton.mp hMember]
  exact ⟨Int64.le_refl l, Int64.le_refl l⟩

/- Only the members of the list matter. -/
theorem congr
    {ks : List Level}
    (hSpans : range.Spans ls)
    (hSame : ∀ l, l ∈ ls ↔ l ∈ ks) :
    range.Spans ks :=
  ⟨(hSame _).mp hSpans.lowest_mem, (hSame _).mp hSpans.highest_mem,
    fun l hMember => hSpans.between l ((hSame l).mpr hMember)⟩

/- A range is extended by one level. -/
theorem extend
    (hSpans : range.Spans ls)
    (l : Level) :
    Spans ⟨min range.lowest l, max range.highest l⟩
      (ls ++ [l]) := by
  refine ⟨?_, ?_, ?_⟩
  · simp only [Min.min]
    split
    · exact List.mem_append_left _ hSpans.lowest_mem
    · exact List.mem_concat_self
  · simp only [Max.max]
    split
    · exact List.mem_concat_self
    · exact List.mem_append_left _ hSpans.highest_mem
  · intro k hMember
    simp only [Int64.le_iff_toInt_le, Level.toInt_min,
      Level.toInt_max]
    rcases List.mem_append.mp hMember with hOld | hNew
    · have hBetween := hSpans.between k hOld
      simp only [Int64.le_iff_toInt_le] at hBetween
      omega
    · rw [List.mem_singleton.mp hNew]
      omega

/- A range is extended by one level after the other. -/
theorem exists_foldl_extend_eq_some
    (hSpans : range.Spans ls)
    (later : List Level) :
    ∃ r, later.foldl LevelRange.extend (some range) = some r ∧
      r.Spans (ls ++ later) := by
  induction later generalizing range ls with
  | nil =>
      rw [List.append_nil]
      exact ⟨range, rfl, hSpans⟩
  | cons l later ih =>
      rw [List.append_cons]
      exact ih (hSpans.extend l)

end Spans

/- The range of some levels is the least that has them all. -/
theorem spans_ofLevels
    {ls : List Level}
    (hSome : ls ≠ []) :
    (ofLevels ls).Spans ls := by
  cases ls with
  | nil =>
      exact absurd rfl hSome
  | cons a ls =>
      rcases (Spans.single a).exists_foldl_extend_eq_some ls with
        ⟨r, hFold, hSpans⟩
      have hRange : ofLevels (a :: ls) = r :=
        congrArg (·.getD empty) hFold
      rw [hRange]
      exact hSpans

/- The range of a list of levels is empty if the list is. -/
theorem isEmpty_ofLevels_iff
    (ls : List Level) :
    (ofLevels ls).isEmpty = true ↔ ls = [] := by
  constructor
  · intro hEmpty
    by_contra hSome
    have hSpans := spans_ofLevels hSome
    rw [isEmpty, decide_eq_true_eq] at hEmpty
    exact Int64.not_le.mpr hEmpty
      (hSpans.between _ hSpans.highest_mem).1
  · rintro rfl
    decide

/- The range of records has each of their levels. -/
theorem contains_ofRecords
    {rs : List Record}
    {r : Record}
    {l : Level}
    (hRecord : r ∈ rs)
    (hLevel : l ∈ r.levels) :
    (ofRecords rs).contains l = true := by
  have hMember : l ∈ rs.flatMap Record.levels :=
    List.mem_flatMap.mpr ⟨r, hRecord, hLevel⟩
  have hBetween :=
    (spans_ofLevels (List.ne_nil_of_mem hMember)).between l hMember
  simp only [contains, Bool.and_eq_true, decide_eq_true_eq]
  exact hBetween

end LevelRange

end EmojiQuery
