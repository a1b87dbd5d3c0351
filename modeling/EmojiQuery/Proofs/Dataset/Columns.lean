import EmojiQuery.Proofs.Query.Single
import EmojiQuery.Proofs.Record.Normal

/-
  Rows and columns of what a query finds. The range of a
  dataset has every level of its records, and so the clauses
  alone decide which levels of a record that is found are
  columns. If at most one clause chooses columns, a record that
  is found has each column on which it should be seen.

  Main declarations:
    * `Answers.mem_levels_iff_of_found`
    * `Answers.mem_levels_of_not_uses`
    * `Answers.mem_levels_of_range`
    * `Dataset.found_has_columns`
-/

------------------------------------------------------------
-- Clauses That Choose Columns
------------------------------------------------------------

namespace EmojiQuery

namespace Clause

variable {c : Clause}
variable {cs before after : List Clause}
variable {range : Interval Level}

/- A clause that chooses columns has a range of levels. -/
theorem exists_range_of_builds
    (hField : c.field = .support)
    (hBuilds : c.Builds) :
    ∃ range : Interval Level,
      Interval.parse readDecimalBound? c.raw = .ok range := by
  rcases hBuilds with ⟨p, hBuild⟩
  simp only [Predicate.ofClause, hField] at hBuild
  rcases (map_eq_ok_iff _ _ _).mp hBuild with ⟨range, hRange, _⟩
  exact ⟨range, hRange⟩

/- A clause that chooses columns admits the levels of its range. -/
theorem admits_iff_of_range
    (hField : c.field = .support)
    (hRange : Interval.parse readDecimalBound? c.raw = .ok range)
    (l : Level) :
    c.Admits l ↔ l ∈ range := by
  unfold Admits
  constructor
  · intro hAdmits
    rcases hAdmits hField with ⟨other, hOther, hMember⟩
    rw [hRange, Except.ok.injEq] at hOther
    exact hOther ▸ hMember
  · intro hMember _
    exact ⟨range, hRange, hMember⟩

/- Where one clause alone chooses columns, its range decides. -/
theorem forall_admits_iff_of_range
    (hField : c.field = .support)
    (hOther : ¬ Uses (before ++ after) .support)
    (hRange : Interval.parse readDecimalBound? c.raw = .ok range)
    (l : Level) :
    (∀ b ∈ before ++ c :: after, b.Admits l) ↔ l ∈ range := by
  have hRest := forall_admits_of_not_uses hOther l
  rw [List.forall_mem_append] at hRest
  rw [List.forall_mem_append, List.forall_mem_cons,
    admits_iff_of_range hField hRange]
  exact ⟨fun hAll => hAll.2.1,
    fun hMember => ⟨hRest.1, hMember, hRest.2⟩⟩

end Clause

end EmojiQuery

------------------------------------------------------------
-- Levels of Found Records
------------------------------------------------------------

namespace EmojiQuery

namespace Answers

variable {rs : List Record}
variable {cs : List Clause}
variable {results : Results}
variable {m : Match}
variable {l : Level}

/-
  A level of a record that is found, other than the hidden one,
  is a column if every clause admits it: it cannot lie outside
  of the range.
-/
theorem mem_levels_iff_of_found
    (hAnswers : Answers rs cs (.ofRecords rs) results)
    (hFound : m ∈ results.found)
    (hLevel : l ∈ m.record.levels)
    (hShown : l ≠ 20) :
    l ∈ results.levels ↔ ∀ c ∈ cs, c.Admits l := by
  have hPlace := ((hAnswers.mem_found m).mp hFound).1
  have hInside :=
    LevelRange.contains_ofRecords (List.mem_of_getElem? hPlace)
      hLevel
  simp only [LevelRange.contains, Bool.and_eq_true,
    decide_eq_true_eq] at hInside
  rw [hAnswers.mem_levels]
  exact ⟨fun hMember => hMember.2.2.2,
    fun hAdmits => ⟨hInside.1, hInside.2, hShown, hAdmits⟩⟩

/- Each level of a found record is a column if none is left out. -/
theorem mem_levels_of_not_uses
    (hAnswers : Answers rs cs (.ofRecords rs) results)
    (hNone : ¬ Clause.Uses cs .support)
    (hFound : m ∈ results.found)
    (hLevel : l ∈ m.record.levels)
    (hShown : l ≠ 20) :
    l ∈ results.levels := by
  rw [hAnswers.mem_levels_iff_of_found hFound hLevel hShown]
  exact Clause.forall_admits_of_not_uses hNone l

/-
  Where one clause chooses columns, they are levels of its range,
  among them each such level of a found record.
-/
theorem mem_levels_of_range
    {before after : List Clause}
    {c : Clause}
    {range : Interval Level}
    (hAnswers :
      Answers rs (before ++ c :: after) (.ofRecords rs) results)
    (hField : c.field = .support)
    (hOther : ¬ Clause.Uses (before ++ after) .support)
    (hRange : Interval.parse readDecimalBound? c.raw = .ok range) :
    (∀ l ∈ results.levels, l ∈ range) ∧
      ∀ m ∈ results.found, ∀ l ∈ m.record.levels,
        l ≠ 20 → l ∈ range → l ∈ results.levels := by
  have hAdmits :=
    Clause.forall_admits_iff_of_range hField hOther hRange
  constructor
  · intro l hMember
    rw [← hAdmits]
    exact ((hAnswers.mem_levels l).mp hMember).2.2.2
  · intro m hFound l hLevel hShown hInside
    rw [hAnswers.mem_levels_iff_of_found hFound hLevel hShown,
      hAdmits]
    exact hInside

end Answers

end EmojiQuery

------------------------------------------------------------
-- Searches of a Dataset
------------------------------------------------------------

namespace EmojiQuery

namespace Dataset

/-
  Every query that can be understood has results over every
  dataset. If no clause chooses columns, each level of a record
  that is found is a column, the hidden level apart. If one
  clause does, this is so of each level in its range, and there
  are no columns outside of it.
-/
theorem found_has_columns
    (rs : List Record)
    (cs : List Clause)
    (hBuild : ∀ c ∈ cs, c.Builds) :
    ∃ results,
      (ofRecords rs).evaluate cs = .ok results ∧
        (∀ text, Clause.parse text = .ok cs →
          (ofRecords rs).search text = .ok results) ∧
        ((∀ c ∈ cs, c.field ≠ .support) →
          ∀ m ∈ results.found, ∀ l ∈ m.record.levels,
            l ≠ 20 → l ∈ results.levels) ∧
        ∀ before c after,
          cs = before ++ c :: after →
            c.field = .support →
              (∀ b ∈ before ++ after, b.field ≠ .support) →
                ∃ range : Interval Level,
                  Interval.parse readDecimalBound? c.raw =
                      .ok range ∧
                    (∀ l ∈ results.levels, l ∈ range) ∧
                    ∀ m ∈ results.found, ∀ l ∈ m.record.levels,
                      l ≠ 20 → l ∈ range →
                        l ∈ results.levels := by
  rcases exists_answers (ofRecords rs) hBuild with
    ⟨results, hEvaluate, hSearch, hAnswers⟩
  have hUses :
      ∀ bs : List Clause, (∀ b ∈ bs, b.field ≠ .support) →
        ¬ Clause.Uses bs .support := by
    rintro bs hNone ⟨b, hMember, hField⟩
    exact hNone b hMember hField
  refine ⟨results, hEvaluate, hSearch, ?_, ?_⟩
  · intro hNone m hFound l hLevel hShown
    exact hAnswers.mem_levels_of_not_uses (hUses cs hNone) hFound
      hLevel hShown
  · rintro before c after rfl hField hOther
    rcases Clause.exists_range_of_builds hField
      (hBuild c (List.mem_append_cons_self)) with ⟨range, hRange⟩
    exact ⟨range, hRange,
      hAnswers.mem_levels_of_range hField
        (hUses (before ++ after) hOther) hRange⟩

/- A record on two levels, the hidden one between them. -/
def apartRecord : Record :=
  { unscoredRecord with levels := [19, 21] }

/- The levels of the records stand in order already. -/
theorem ofRecords_apartRecord :
    ofRecords [unscoredRecord, apartRecord] =
      ⟨[unscoredRecord, apartRecord], ⟨19, 22⟩⟩ := by
  have hLeft : unscoredRecord.normalize = unscoredRecord :=
    Record.normalize_of_pairwise (by decide)
  have hRight : apartRecord.normalize = apartRecord :=
    Record.normalize_of_pairwise (by decide)
  simp only [ofRecords, List.map_cons, List.map_nil, hLeft, hRight]
  decide

/- Two records and the columns that a clause chooses for them. -/
theorem found_has_columns_of_apartRecord :
    let cs : List Clause :=
      [⟨.notes, "ring"⟩, ⟨.support, "20..21"⟩]
    (∀ c ∈ cs, c.Builds) ∧
      Interval.parse readDecimalBound? "20..21" =
          .ok (⟨20, 21⟩ : Interval Level) ∧
        ∃ results,
          (ofRecords [unscoredRecord, apartRecord]).evaluate cs =
              .ok results ∧
            results = ⟨[21], [⟨1, apartRecord⟩], 1⟩ ∧
              ∀ m ∈ results.found, ∀ l ∈ m.record.levels,
                l ≠ 20 → l ∈ (⟨20, 21⟩ : Interval Level) →
                  l ∈ results.levels := by
  intro cs
  have hBuild : ∀ c ∈ cs, c.Builds := by
    intro c hMember
    simp only [cs, List.mem_cons, List.not_mem_nil,
      or_false] at hMember
    rcases hMember with rfl | rfl
    · exact ⟨_, rfl⟩
    · exact ⟨_, rfl⟩
  have hParse :
      Interval.parse readDecimalBound? "20..21" =
        .ok (⟨20, 21⟩ : Interval Level) := by
    decide +kernel
  rcases found_has_columns [unscoredRecord, apartRecord] cs hBuild
    with ⟨results, hEvaluate, _, _, hChosen⟩
  have hResults : results = ⟨[21], [⟨1, apartRecord⟩], 1⟩ := by
    rw [ofRecords_apartRecord] at hEvaluate
    have hComputed :
        evaluate ⟨[unscoredRecord, apartRecord], ⟨19, 22⟩⟩ cs =
          .ok ⟨[21], [⟨1, apartRecord⟩], 1⟩ := by
      decide +kernel
    exact Except.ok.inj (hEvaluate.symm.trans hComputed)
  rcases hChosen [⟨.notes, "ring"⟩] ⟨.support, "20..21"⟩ [] rfl rfl
    (by decide) with ⟨range, hRange, _, hColumns⟩
  obtain rfl := Except.ok.inj (hRange.symm.trans hParse)
  exact ⟨hBuild, hParse, results, hEvaluate, hResults, hColumns⟩

/- Two clauses that choose columns may leave a record without any. -/
example :
    (ofRecords [unscoredRecord, apartRecord]).evaluate
        [⟨.support, "19"⟩, ⟨.support, "21"⟩] =
      .ok ⟨[], [⟨1, apartRecord⟩], 1⟩ := by
  rw [ofRecords_apartRecord]
  decide +kernel

end Dataset

end EmojiQuery
