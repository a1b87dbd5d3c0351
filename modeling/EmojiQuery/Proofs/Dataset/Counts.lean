import EmojiQuery.Proofs.Dataset.Summary

/-
  The rows of a summary, over any records and any range: which
  levels have one, how many times each was met, and how the
  changes add up. The order of the records and of their levels
  makes no difference.

  Main declarations:
    * `sum_changes_withChanges`
    * `between_of_mem_withChanges`
    * `summarize_of_perm`
    * `summarize_counts`
-/

------------------------------------------------------------
-- Changes
------------------------------------------------------------

namespace EmojiQuery

/-
  The changes up to a row lead from the count before all of them
  to the count of this row.
-/
theorem sum_changes_withChanges
    {start : Nat}
    {cs : List LevelCount}
    {before after : List LevelSummary}
    {row : LevelSummary}
    (hRows : withChanges start cs = before ++ row :: after) :
    start + ((before ++ [row]).map LevelSummary.change).sum =
      row.supported := by
  induction cs generalizing start before with
  | nil =>
      cases before <;> cases hRows
  | cons c cs ih =>
      rw [withChanges] at hRows
      cases before with
      | nil =>
          rw [List.nil_append, List.cons.injEq] at hRows
          rw [← hRows.1]
          simp
      | cons b before =>
          rw [List.cons_append, List.cons.injEq] at hRows
          have hLater := ih hRows.2
          rw [List.cons_append, List.map_cons, List.sum_cons,
            ← hRows.1]
          simp only
          omega

/- No change is greater than the counts between which it leads. -/
theorem between_of_mem_withChanges
    {start most : Nat}
    {cs : List LevelCount}
    {row : LevelSummary}
    (hStart : start ≤ most)
    (hCounts : ∀ c ∈ cs, c.count ≤ most)
    (hRow : row ∈ withChanges start cs) :
    row.supported ≤ most ∧ -(most : Int) ≤ row.change ∧
      row.change ≤ most := by
  induction cs generalizing start with
  | nil =>
      cases hRow
  | cons c cs ih =>
      rw [List.forall_mem_cons] at hCounts
      rw [withChanges, List.mem_cons] at hRow
      rcases hRow with rfl | hLater
      · have hCount := hCounts.1
        simp only
        omega
      · exact ih hCounts.1 hCounts.2 hLater

end EmojiQuery

------------------------------------------------------------
-- Order
------------------------------------------------------------

namespace EmojiQuery

variable {rs ss ts : List Record}

/- Records in another order, with their levels in another order. -/
theorem perm_flatMap_levels
    (hRecords : rs.Perm ss)
    (hLevels :
      List.Forall₂ (fun r s => r.levels.Perm s.levels) ss ts) :
    (rs.flatMap Record.levels).Perm
      (ts.flatMap Record.levels) := by
  apply (hRecords.flatMap_right Record.levels).trans
  clear hRecords
  induction hLevels with
  | nil =>
      exact .nil
  | cons hHead _ ih =>
      rw [List.flatMap_cons, List.flatMap_cons]
      exact hHead.append ih

/- A summary depends on how often each level occurs, and on no order. -/
theorem summarize_of_perm
    (range : LevelRange)
    (hLevels :
      (rs.flatMap Record.levels).Perm
        (ts.flatMap Record.levels)) :
    summarize rs range = summarize ts range := by
  have hTally : tally range rs = tally range ts :=
    (tallies_tally range rs).eq_of_perm (tallies_tally range ts)
      (hLevels.filter range.contains)
  rw [summarize, summarize, hTally]

end EmojiQuery

------------------------------------------------------------
-- Rows
------------------------------------------------------------

namespace EmojiQuery

variable {rs : List Record}
variable {range : LevelRange}
variable {row : LevelSummary}

/- A level has a row if it is met within the range. -/
theorem exists_row_iff
    (l : Level) :
    (∃ row ∈ summarize rs range, row.level = l) ↔
      range.lowest ≤ l ∧ l ≤ range.highest ∧
        ∃ r ∈ rs, l ∈ r.levels := by
  have hMember :
      l ∈ (rs.flatMap Record.levels).filter range.contains ↔
        range.lowest ≤ l ∧ l ≤ range.highest ∧
          ∃ r ∈ rs, l ∈ r.levels := by
    rw [List.mem_filter, List.mem_flatMap, LevelRange.contains,
      Bool.and_eq_true, decide_eq_true_eq, decide_eq_true_eq,
      and_comm, and_assoc]
  rw [← hMember, ← (tallies_tally range rs).exists_level_iff]
  constructor
  · rintro ⟨row, hRow, rfl⟩
    exact ⟨_, (mem_tally_iff _ _).mpr ⟨row, hRow, rfl⟩, rfl⟩
  · rintro ⟨c, hCount, rfl⟩
    rcases (mem_tally_iff _ _).mp hCount with ⟨row, hRow, rfl⟩
    exact ⟨row, hRow, rfl⟩

/- A row counts every time that its level is met. -/
theorem supported_eq_count
    (hRow : row ∈ summarize rs range) :
    row.supported = (rs.flatMap Record.levels).count row.level := by
  have hTallies := tallies_tally range rs
  have hCount := (mem_tally_iff rs range).mpr ⟨row, hRow, rfl⟩
  have hInside :=
    (List.mem_filter.mp (hTallies.occurs _ hCount)).2
  rw [← List.count_filter hInside]
  exact hTallies.count_eq hCount

/-
  A summary has a row for each level that some record has within
  the range, lowest level first. The row counts how often the
  level is met in all records, which is the number of records
  with it if none has it twice. All changes up to a row add up
  to its count, and as long as less than `2 ^ 63` levels are
  met, counts and changes are numbers of 64 bits with a sign.
  Neither the order of the records nor that of their levels
  makes a difference.
-/
theorem summarize_counts
    (rs : List Record)
    (range : LevelRange) :
    let rows := summarize rs range
    (rows.map LevelSummary.level).Pairwise (· < ·) ∧
      (∀ l, (∃ row ∈ rows, row.level = l) ↔
        range.lowest ≤ l ∧ l ≤ range.highest ∧
          ∃ r ∈ rs, l ∈ r.levels) ∧
      (∀ row ∈ rows,
        row.supported =
          (rs.map fun r => r.levels.count row.level).sum) ∧
      ((∀ r ∈ rs, r.levels.Nodup) →
        ∀ row ∈ rows, row.supported = supporters row.level rs) ∧
      (∀ before row after, rows = before ++ row :: after →
        ((before ++ [row]).map LevelSummary.change).sum =
          row.supported) ∧
      ((rs.flatMap Record.levels).length < 2 ^ 63 →
        ∀ row ∈ rows,
          row.supported < 2 ^ 63 ∧ -2 ^ 63 < row.change ∧
            row.change < 2 ^ 63) ∧
      ∀ ss ts, rs.Perm ss →
        List.Forall₂ (fun r s => r.levels.Perm s.levels) ss ts →
          summarize ts range = rows := by
  intro rows
  refine ⟨pairwise_level_summarize rs range, exists_row_iff, ?_,
    ?_, ?_, ?_, ?_⟩
  · intro row hRow
    rw [supported_eq_count hRow, List.count_flatMap]
    rfl
  · intro hOnce row hRow
    rw [supported_eq_count hRow,
      count_flatMap_eq_supporters hOnce]
  · intro before row after hRows
    have hSum := sum_changes_withChanges hRows
    rwa [Int.natCast_zero, Int.zero_add] at hSum
  · intro hFew row hRow
    have hCounts :
        ∀ c ∈ tally range rs,
          c.count ≤ (rs.flatMap Record.levels).length := by
      intro c hMember
      rw [(tallies_tally range rs).count_eq hMember]
      exact List.count_le_length.trans
        (List.length_filter_le _ _)
    have hBetween :=
      between_of_mem_withChanges (Nat.zero_le _) hCounts hRow
    omega
  · intro ss ts hRecords hLevels
    exact (summarize_of_perm range
      (perm_flatMap_levels hRecords hLevels)).symm

/- A record with levels only. -/
def levelRecord
    (ls : List Level) : Record where
  codepoints := [0x1F600]
  levels := ls
  version := .one
  notes := ""
  scores := none

/-
  Of three levels one is outside the range. The rows of the
  other two are the same when records and levels change places.
-/
theorem summarize_counts_of_levelRecord :
    let range : LevelRange := ⟨20, 30⟩
    let rs := [levelRecord [19, 21, 22], levelRecord [22]]
    let ss := [levelRecord [22], levelRecord [19, 21, 22]]
    let ts := [levelRecord [22], levelRecord [22, 19, 21]]
    let first : LevelSummary := ⟨21, 1, 1⟩
    let second : LevelSummary := ⟨22, 2, 1⟩
    summarize rs range = [first] ++ second :: [] ∧
      (([first] ++ [second]).map LevelSummary.change).sum =
        second.supported ∧
      (∀ r ∈ rs, r.levels.Nodup) ∧
      second.supported = supporters 22 rs ∧
      (rs.flatMap Record.levels).length < 2 ^ 63 ∧
      second.supported < 2 ^ 63 ∧
      rs.Perm ss ∧
      List.Forall₂ (fun r s => r.levels.Perm s.levels) ss ts ∧
      summarize ts range = summarize rs range := by
  intro range rs ss ts first second
  have hRows : summarize rs range = [first] ++ second :: [] := by
    decide
  have hSecond : second ∈ summarize rs range := by
    rw [hRows]
    exact List.mem_append_right _ List.mem_cons_self
  have hOnce : ∀ r ∈ rs, r.levels.Nodup := by
    decide
  have hFew : (rs.flatMap Record.levels).length < 2 ^ 63 := by
    decide
  have hRecords : rs.Perm ss := by
    decide
  have hLevels :
      List.Forall₂ (fun r s => r.levels.Perm s.levels) ss ts :=
    .cons (.refl _) (.cons (by decide) .nil)
  rcases summarize_counts rs range with
    ⟨_, _, _, hSupporters, hChanges, hFit, hOrder⟩
  exact ⟨hRows, hChanges _ _ _ hRows, hOnce,
    hSupporters hOnce second hSecond, hFew,
    (hFit hFew second hSecond).1, hRecords, hLevels,
    hOrder ss ts hRecords hLevels⟩

end EmojiQuery
