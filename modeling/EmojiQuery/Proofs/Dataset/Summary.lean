import EmojiQuery.Dataset.Summary
import EmojiQuery.Proofs.Query.Integers

/-
  The summary of a dataset and the search for a level count
  the same records. The summary tallies every level that it
  meets; no record meets a level twice, and none is outside
  the range of the dataset.

  Main declarations:
    * `Tallies`
    * `Tallies.bump`
    * `tallies_tally`
    * `Dataset.exists_count_iff`
    * `Dataset.summarize_eq_search`
-/

------------------------------------------------------------
-- Counting One More
------------------------------------------------------------

namespace EmojiQuery

namespace LevelCount

variable {l : Level}
variable {c : LevelCount}
variable {cs : List LevelCount}

/- The levels of counts ascend. -/
def Ascending
    (cs : List LevelCount) : Prop :=
  cs.Pairwise fun b c => b.level < c.level

/- Counting adds no other level than the one that is counted. -/
theorem level_of_mem_bump
    (hMember : c ∈ bump l cs) :
    c.level = l ∨ ∃ b ∈ cs, b.level = c.level := by
  induction cs with
  | nil =>
      rw [bump, List.mem_singleton] at hMember
      exact .inl (by rw [hMember])
  | cons b cs ih =>
      rw [bump] at hMember
      split at hMember
      · rcases List.mem_cons.mp hMember with rfl | hOld
        · exact .inl rfl
        · exact .inr ⟨c, hOld, rfl⟩
      · split at hMember
        · rcases List.mem_cons.mp hMember with rfl | hOld
          · exact .inl rfl
          · exact .inr ⟨c, List.mem_cons_of_mem b hOld, rfl⟩
        · rcases List.mem_cons.mp hMember with rfl | hLater
          · exact .inr ⟨c, List.mem_cons_self, rfl⟩
          · rcases ih hLater with hNew | ⟨a, hOld, hLevel⟩
            · exact .inl hNew
            · exact .inr ⟨a, List.mem_cons_of_mem b hOld, hLevel⟩

theorem Ascending.bump
    (hAscending : Ascending cs)
    (l : Level) :
    Ascending (bump l cs) := by
  induction cs with
  | nil =>
      exact List.pairwise_singleton _ _
  | cons b cs ih =>
      have hSplit := List.pairwise_cons.mp hAscending
      rw [LevelCount.bump]
      split
      · next hBefore =>
          apply List.Pairwise.cons _ hAscending
          intro c hMember
          rcases List.mem_cons.mp hMember with rfl | hLater
          · exact hBefore
          · exact Int64.lt_trans hBefore (hSplit.1 c hLater)
      · next hNotBefore =>
          split
          · next hSame =>
              apply List.Pairwise.cons _ hSplit.2
              intro c hMember
              rw [hSame]
              exact hSplit.1 c hMember
          · next hDiffer =>
              have hAfter : b.level < l :=
                Int64.lt_of_le_of_ne (Int64.not_lt.mp hNotBefore)
                  (Ne.symm hDiffer)
              apply List.Pairwise.cons _ (ih hSplit.2)
              intro c hMember
              rcases level_of_mem_bump hMember with
                hNew | ⟨a, hOld, hLevel⟩
              · rw [hNew]
                exact hAfter
              · rw [← hLevel]
                exact hSplit.1 a hOld

/- The count that is kept for a level. -/
def countOf
    (l : Level) :
    List LevelCount → Nat
| [] => 0
| c :: cs => if c.level = l then c.count else countOf l cs

theorem countOf_eq_zero
    (hNone : ∀ c ∈ cs, c.level ≠ l) :
    countOf l cs = 0 := by
  induction cs with
  | nil =>
      rfl
  | cons c cs ih =>
      rw [List.forall_mem_cons] at hNone
      rw [countOf, if_neg hNone.1, ih hNone.2]

/- One level has one more, and the others have as many as before. -/
theorem countOf_bump
    (hAscending : Ascending cs)
    (k l : Level) :
    countOf k (bump l cs) =
      countOf k cs + if l = k then 1 else 0 := by
  induction cs with
  | nil =>
      simp [LevelCount.bump, countOf]
  | cons c cs ih =>
      have hSplit := List.pairwise_cons.mp hAscending
      rw [LevelCount.bump]
      split
      · next hBefore =>
          -- What follows a new level is above it, so that it was
          -- not counted before.
          have hNone : countOf l (c :: cs) = 0 := by
            apply countOf_eq_zero
            intro b hMember hSame
            rcases List.mem_cons.mp hMember with rfl | hLater
            · exact Int64.ne_of_lt hBefore hSame.symm
            · apply Int64.lt_asymm hBefore
              rw [← hSame]
              exact hSplit.1 b hLater
          rw [countOf]
          by_cases hSame : l = k
          · subst hSame
            rw [if_pos rfl, if_pos rfl, hNone]
          · rw [if_neg hSame, if_neg hSame, Nat.add_zero]
      · split
        · next hSame =>
            simp only [countOf, hSame]
            split <;> rfl
        · next hDiffer =>
            rw [countOf, countOf, ih hSplit.2]
            split
            · next hKept =>
                have hOther : ¬ l = k := by
                  rw [← hKept]
                  exact hDiffer
                rw [if_neg hOther, Nat.add_zero]
            · rfl

/- The counts of an ascending list are those kept for its levels. -/
theorem countOf_level
    (hAscending : Ascending cs)
    (hMember : c ∈ cs) :
    countOf c.level cs = c.count := by
  induction cs with
  | nil =>
      cases hMember
  | cons b cs ih =>
      have hSplit := List.pairwise_cons.mp hAscending
      rcases List.mem_cons.mp hMember with rfl | hLater
      · exact if_pos rfl
      · have hDiffer : b.level ≠ c.level :=
          Int64.ne_of_lt (hSplit.1 c hLater)
        rw [countOf, if_neg hDiffer, ih hSplit.2 hLater]

theorem exists_mem_of_countOf_pos
    (hPositive : 0 < countOf l cs) :
    ∃ c ∈ cs, c.level = l := by
  by_contra hNone
  push Not at hNone
  rw [countOf_eq_zero hNone] at hPositive
  exact Nat.lt_irrefl 0 hPositive

end LevelCount

end EmojiQuery

------------------------------------------------------------
-- Tallies
------------------------------------------------------------

namespace EmojiQuery

open LevelCount

/- Counts of the levels in a list: no level is missing or counted twice. -/
structure Tallies
    (ls : List Level)
    (cs : List LevelCount) : Prop where
  ascending : Ascending cs
  /- A level that is not in the list is not counted. -/
  occurs : ∀ c ∈ cs, c.level ∈ ls
  countOf_eq : ∀ l, countOf l cs = ls.count l

namespace Tallies

variable {ls : List Level}
variable {cs : List LevelCount}

theorem nil :
    Tallies [] [] := by
  refine ⟨.nil, ?_, fun _ => rfl⟩
  intro c hMember
  cases hMember

/- One more level is counted. -/
theorem bump
    (hTallies : Tallies ls cs)
    (l : Level) :
    Tallies (ls ++ [l]) (LevelCount.bump l cs) := by
  refine ⟨hTallies.ascending.bump l, ?_, ?_⟩
  · intro c hMember
    rw [List.mem_append, List.mem_singleton]
    rcases level_of_mem_bump hMember with hNew | ⟨b, hOld, hLevel⟩
    · exact .inr hNew
    · rw [← hLevel]
      exact .inl (hTallies.occurs b hOld)
  · intro k
    rw [countOf_bump hTallies.ascending, hTallies.countOf_eq,
      List.count_append, List.count_singleton]
    simp only [beq_iff_eq]

/- All of the levels are counted, one after the other. -/
theorem foldl_bump
    (hTallies : Tallies ls cs)
    (later : List Level) :
    Tallies (ls ++ later)
      (later.foldl (fun cs l => LevelCount.bump l cs) cs) := by
  induction later generalizing ls cs with
  | nil =>
      rw [List.append_nil]
      exact hTallies
  | cons l later ih =>
      rw [List.foldl_cons, List.append_cons]
      exact ih (hTallies.bump l)

/- A level that occurs is counted, as often as it occurs. -/
theorem exists_level_iff
    (hTallies : Tallies ls cs)
    (l : Level) :
    (∃ c ∈ cs, c.level = l) ↔ l ∈ ls := by
  constructor
  · rintro ⟨c, hMember, rfl⟩
    exact hTallies.occurs c hMember
  · intro hMember
    apply exists_mem_of_countOf_pos
    rw [hTallies.countOf_eq]
    exact List.count_pos_iff.mpr hMember

theorem count_eq
    (hTallies : Tallies ls cs)
    {c : LevelCount}
    (hMember : c ∈ cs) :
    c.count = ls.count c.level := by
  rw [← hTallies.countOf_eq,
    countOf_level hTallies.ascending hMember]

/- The counts are those of the levels that occur. -/
theorem mem_iff
    (hTallies : Tallies ls cs)
    {c : LevelCount} :
    c ∈ cs ↔ c.level ∈ ls ∧ c.count = ls.count c.level := by
  constructor
  · intro hMember
    exact ⟨hTallies.occurs c hMember, hTallies.count_eq hMember⟩
  · rintro ⟨hOccurs, hCount⟩
    rcases (hTallies.exists_level_iff c.level).mpr hOccurs with
      ⟨b, hMember, hLevel⟩
    have hSame : b = c := by
      rw [LevelCount.mk.injEq, hCount, ← hLevel]
      exact ⟨rfl, hTallies.count_eq hMember⟩
    rwa [← hSame]

/- Levels are tallied alike in any order. -/
theorem eq_of_perm
    {ks : List Level}
    {bs : List LevelCount}
    (hLeft : Tallies ls cs)
    (hRight : Tallies ks bs)
    (hPerm : ls.Perm ks) :
    cs = bs := by
  apply eq_of_ascending (r := fun b c => b.level < c.level)
  · intro b c hLess
    exact Int64.lt_asymm hLess
  · exact hLeft.ascending
  · exact hRight.ascending
  · intro c
    rw [hLeft.mem_iff, hRight.mem_iff, hPerm.mem_iff,
      hPerm.count_eq]

end Tallies

/- A summary tallies the levels of the records within its range. -/
theorem tallies_tally
    (range : LevelRange)
    (rs : List Record) :
    Tallies ((rs.flatMap Record.levels).filter range.contains)
      (tally range rs) :=
  Tallies.nil.foldl_bump _

end EmojiQuery

------------------------------------------------------------
-- Rows
------------------------------------------------------------

namespace EmojiQuery

/- The rows have the counts, one for one. -/
theorem map_withChanges
    (before : Nat)
    (cs : List LevelCount) :
    (withChanges before cs).map
        (fun row => LevelCount.mk row.level row.supported) =
      cs := by
  induction cs generalizing before with
  | nil =>
      rfl
  | cons c cs ih =>
      rw [withChanges, List.map_cons, ih]

theorem mem_tally_iff
    (rs : List Record)
    (range : LevelRange)
    {c : LevelCount} :
    c ∈ tally range rs ↔
      ∃ row ∈ summarize rs range,
        LevelCount.mk row.level row.supported = c := by
  have hRows := map_withChanges 0 (tally range rs)
  rw [← hRows, List.mem_map]
  rfl

/- Every row stands below the rows of higher levels. -/
theorem pairwise_level_summarize
    (rs : List Record)
    (range : LevelRange) :
    ((summarize rs range).map LevelSummary.level).Pairwise
      (· < ·) := by
  have hAscending := (tallies_tally range rs).ascending
  rw [LevelCount.Ascending, ← map_withChanges 0 (tally range rs),
    List.pairwise_map] at hAscending
  rw [List.pairwise_map]
  exact hAscending

end EmojiQuery

------------------------------------------------------------
-- Records with a Level
------------------------------------------------------------

namespace EmojiQuery

/- The records that were given a level. -/
def supporters
    (l : Level)
    (rs : List Record) : Nat :=
  rs.countP fun r => decide (l ∈ r.levels)

/- A level occurs once for each record that has it once. -/
theorem count_flatMap_eq_supporters
    {rs : List Record}
    (hOnce : ∀ r ∈ rs, r.levels.Nodup)
    (l : Level) :
    (rs.flatMap Record.levels).count l = supporters l rs := by
  induction rs with
  | nil =>
      rfl
  | cons r rs ih =>
      rw [List.forall_mem_cons] at hOnce
      rw [List.flatMap_cons, List.count_append, ih hOnce.2,
        hOnce.1.count, supporters, supporters, List.countP_cons,
        Nat.add_comm]
      simp only [decide_eq_true_eq]

/- A record in a dataset has each of its levels once. -/
theorem count_levels_eq_supporters
    (l : Level)
    (rs : List Record) :
    ((rs.map Record.normalize).flatMap Record.levels).count l =
      supporters l rs := by
  have hOnce :
      ∀ r ∈ rs.map Record.normalize, r.levels.Nodup := by
    rw [List.forall_mem_map]
    exact fun r _ => r.nodup_levels_normalize
  rw [count_flatMap_eq_supporters hOnce, supporters, supporters,
    List.countP_map]
  simp only [Function.comp_def, Record.mem_levels_normalize_iff]

namespace Dataset

/- No level of a dataset is outside its range. -/
theorem filter_contains_levels
    (rs : List Record) :
    ((ofRecords rs).records.flatMap Record.levels).filter
        (ofRecords rs).range.contains =
      (ofRecords rs).records.flatMap Record.levels := by
  rw [List.filter_eq_self]
  intro l hMember
  rcases List.mem_flatMap.mp hMember with ⟨r, hRecord, hLevel⟩
  exact LevelRange.contains_ofRecords hRecord hLevel

/- The search for a level finds as many records as were given it. -/
theorem exists_search_level
    (rs : List Record)
    (l : Level) :
    ∃ results,
      (ofRecords rs).search ("api:" ++ String.ofList l.text) =
          .ok results ∧
        results.count = supporters l rs := by
  have hWrites :
      IntegerField.support.Writes l (String.ofList l.text) :=
    String.toList_ofList
  have hParse :
      Interval.parse IntegerField.support.read
          (String.ofList l.text) =
        .ok ⟨l, l⟩ := by
    rw [Interval.parse_single hWrites.writesBound,
      Interval.between_of_le _ (Int64.le_refl l)]
  have hWithin :
      (fun r => IntegerField.support.Within ⟨l, l⟩ r) =
        fun r : Record => l ∈ r.levels := by
    funext r
    apply propext
    constructor
    · rintro ⟨k, hLevel, hLower, hUpper⟩
      have hSame : l = k := Int64.le_antisymm hLower hUpper
      rwa [hSame]
    · intro hLevel
      exact ⟨l, hLevel, Int64.le_refl l, Int64.le_refl l⟩
  rcases IntegerField.support.search_of_parse rs
    hWrites.wellFormed_single hParse with
    ⟨results, hSearch, hSelects⟩
  rw [hWithin] at hSelects
  exact ⟨results, hSearch, hSelects.count_eq_countP⟩

/-
  The summary of a dataset has one row for every level of a
  record, and for no other level. Each row counts what the
  search for its level finds.
-/
theorem summarize_eq_search
    (rs : List Record) :
    let d := ofRecords rs
    let rows := summarize d.records d.range
    (rows.map LevelSummary.level).Pairwise (· < ·) ∧
      (∀ r ∈ rs, ∀ l ∈ r.levels, ∃ row ∈ rows, row.level = l) ∧
        ∀ l : Level,
          ∃ results,
            d.search ("api:" ++ String.ofList l.text) =
                .ok results ∧
              ((∃ row ∈ rows, row.level = l) ↔
                0 < results.count) ∧
                ∀ row ∈ rows, row.level = l →
                  row.supported = results.count := by
  intro d rows
  have hTallies :
      Tallies (d.records.flatMap Record.levels)
        (tally d.range d.records) := by
    have hWithin := tallies_tally d.range d.records
    rwa [filter_contains_levels rs] at hWithin
  have hRows :
      ∀ l, (∃ row ∈ rows, row.level = l) ↔
        l ∈ d.records.flatMap Record.levels := by
    intro l
    rw [← hTallies.exists_level_iff]
    constructor
    · rintro ⟨row, hRow, rfl⟩
      exact ⟨_, (mem_tally_iff _ _).mpr ⟨row, hRow, rfl⟩, rfl⟩
    · rintro ⟨c, hMember, rfl⟩
      rcases (mem_tally_iff _ _).mp hMember with ⟨row, hRow, rfl⟩
      exact ⟨row, hRow, rfl⟩
  refine ⟨pairwise_level_summarize _ _, ?_, ?_⟩
  · intro r hRecord l hLevel
    rw [hRows, List.mem_flatMap]
    exact ⟨r.normalize, List.mem_map_of_mem hRecord,
      Record.mem_levels_normalize_iff.mpr hLevel⟩
  · intro l
    rcases exists_search_level rs l with ⟨results, hSearch, hCount⟩
    refine ⟨results, hSearch, ?_, ?_⟩
    · rw [hRows, hCount, ← count_levels_eq_supporters,
        List.count_pos_iff]
      rfl
    · rintro row hRow rfl
      have hMember := (mem_tally_iff _ _).mpr ⟨row, hRow, rfl⟩
      rw [hCount, ← count_levels_eq_supporters]
      exact hTallies.count_eq hMember

end Dataset

end EmojiQuery
