import EmojiQuery.Dataset.Basic
import EmojiQuery.Proofs.Query.Combining
import EmojiQuery.Proofs.Query.Faults
import EmojiQuery.Proofs.Query.Writing

/-
  Searches for clauses that are written out, and above all for
  one clause alone: it selects the records of which it holds.

  Main declarations:
    * `Dataset.exists_answers`
    * `Dataset.search_render`
    * `Dataset.search_text`
    * `Results.Selects`
    * `Answers.selects`
    * `Results.Selects.count_eq_countP`
-/

------------------------------------------------------------
-- Written Queries
------------------------------------------------------------

namespace EmojiQuery

namespace Dataset

variable {c b : Clause}

/- Clauses that all build are answered, also as written. -/
theorem exists_answers
    (d : Dataset)
    {cs : List Clause}
    (hBuild : ∀ c ∈ cs, c.Builds) :
    ∃ results,
      d.evaluate cs = .ok results ∧
        (∀ text, Clause.parse text = .ok cs →
          d.search text = .ok results) ∧
        Answers d.records cs d.range results := by
  rcases (Query.exists_ofClauses_eq_ok_iff cs).mpr hBuild with
    ⟨q, hQuery⟩
  refine ⟨q.evaluate d.records d.range, ?_, ?_,
    q.evaluate_answers hQuery d.records d.range⟩
  · exact (map_eq_ok_iff _ _ _).mpr ⟨q, hQuery, rfl⟩
  · intro text hText
    have hParse : Query.parse text = .ok q := by
      rw [Query.parse, hText]
      exact hQuery
    exact (map_eq_ok_iff _ _ _).mpr ⟨q, hParse, rfl⟩

/- Written clauses are evaluated as they are. -/
theorem search_render
    (d : Dataset)
    {cs : List Clause}
    (hFormed : Clause.WellFormed cs) :
    d.search (Clause.render cs) = d.evaluate cs := by
  rw [search, Query.parse, Clause.parse_render hFormed]
  rfl

theorem search_clause
    (d : Dataset)
    (hFormed : Clause.WellFormed [c]) :
    d.search c.text = d.evaluate [c] := by
  have hRender : Clause.render [c] = c.text := by
    simp [Clause.render]
  rw [← hRender, d.search_render hFormed]

/- A clause that stands alone is answered. -/
theorem search_text
    (d : Dataset)
    (hFormed : Clause.WellFormed [c])
    (hBuilds : c.Builds) :
    ∃ results, d.search c.text = .ok results ∧
      Answers d.records [c] d.range results := by
  have hBuild : ∀ b ∈ [c], b.Builds := by
    rw [List.forall_mem_singleton]
    exact hBuilds
  rcases d.exists_answers hBuild with
    ⟨results, hEvaluate, _, hAnswers⟩
  exact ⟨results, (d.search_clause hFormed).trans hEvaluate,
    hAnswers⟩

/- A clause that stands alone is refused for its value. -/
theorem search_text_of_error
    (d : Dataset)
    (hFormed : Clause.WellFormed [c])
    {e : SearchError}
    (hFault : Predicate.ofClause c = .error e) :
    d.search c.text = .error e := by
  rw [d.search_clause hFormed, evaluate, EmojiQuery.evaluate,
    map_eq_error_iff, Query.ofClauses_eq_error_iff]
  exact ⟨[], c, [], rfl, by simp, hFault⟩

/- Clauses that ask for the same test are evaluated alike. -/
theorem search_text_congr
    (d : Dataset)
    (hFormed : Clause.WellFormed [c])
    (hFormed' : Clause.WellFormed [b])
    (hSame : Predicate.ofClause c = Predicate.ofClause b) :
    d.search c.text = d.search b.text := by
  rw [d.search_clause hFormed, d.search_clause hFormed', evaluate,
    evaluate, EmojiQuery.evaluate, EmojiQuery.evaluate,
    Query.ofClauses, Query.ofClauses, List.mapM_cons,
    List.mapM_cons, hSame]

end Dataset

/- A record is found by a clause that stands alone if it holds. -/
theorem Answers.mem_found_singleton
    {rs : List Record}
    {c : Clause}
    {range : LevelRange}
    {results : Results}
    (hAnswers : Answers rs [c] range results)
    {i : Nat}
    {r : Record}
    (hPlace : rs[i]? = some r) :
    ⟨i, r⟩ ∈ results.found ↔ c.Holds results.levels r := by
  rw [hAnswers.mem_found, List.forall_mem_singleton]
  exact and_iff_right hPlace

end EmojiQuery

------------------------------------------------------------
-- Selected Records
------------------------------------------------------------

namespace EmojiQuery

/-
  The results have those of the given records that have a
  property, in their order, and as the dataset stores them.
-/
structure Results.Selects
    (results : Results)
    (d : Dataset)
    (rs : List Record)
    (P : Record → Prop) : Prop where
  /- Each place is found once, and in the order of the records. -/
  found_ascending :
    (results.found.map Match.position).Pairwise (· < ·)
  /- A place is found if its record has the property. -/
  mem_positions :
    ∀ i, i ∈ results.found.map Match.position ↔
      ∃ r, rs[i]? = some r ∧ P r
  /- What is found is a record of the dataset. -/
  stored :
    ∀ m ∈ results.found, d.records[m.position]? = some m.record
  /- The count is the number of records found. -/
  count_eq : results.count = results.found.length

/- A clause that stands alone selects the records of which it holds. -/
theorem Answers.selects
    {d : Dataset}
    {rs : List Record}
    {c : Clause}
    {results : Results}
    {P : Record → Prop}
    (hAnswers : Answers d.records [c] d.range results)
    (hSame :
      ∀ i : Nat, (∃ r, d.records[i]? = some r ∧
          c.Holds results.levels r) ↔
        ∃ r, rs[i]? = some r ∧ P r) :
    results.Selects d rs P := by
  refine ⟨hAnswers.found_ascending, ?_, ?_, hAnswers.count_eq⟩
  · intro i
    rw [← hSame i, List.mem_map]
    constructor
    · rintro ⟨m, hMember, rfl⟩
      have hPlace := ((hAnswers.mem_found m).mp hMember).1
      exact ⟨m.record, hPlace,
        (hAnswers.mem_found_singleton hPlace).mp hMember⟩
    · rintro ⟨r, hPlace, hHolds⟩
      exact ⟨⟨i, r⟩,
        (hAnswers.mem_found_singleton hPlace).mpr hHolds, rfl⟩
  · intro m hMember
    exact ((hAnswers.mem_found m).mp hMember).1

namespace Results.Selects

variable {d : Dataset}
variable {rs : List Record}
variable {results : Results}
variable {P : Record → Prop}

/- As many records are found as have the property. -/
theorem count_eq_countP
    [DecidablePred P]
    (hSelects : results.Selects d rs P) :
    results.count = rs.countP fun r => decide (P r) := by
  let passing : List Match :=
    (Query.candidates rs).filter fun m => decide (P m.record)
  have hPassing :
      (passing.map Match.position).Pairwise (· < ·) :=
    (Query.pairwise_candidates rs).sublist
      (List.filter_sublist.map Match.position)
  have hSame :
      results.found.map Match.position =
        passing.map Match.position := by
    apply eq_of_ascending (r := (· < ·))
    · intro i j hLess
      exact Nat.lt_asymm hLess
    · exact hSelects.found_ascending
    · exact hPassing
    · intro i
      rw [hSelects.mem_positions, List.mem_map]
      simp only [passing, List.mem_filter,
        Query.mem_candidates_iff, decide_eq_true_eq]
      constructor
      · rintro ⟨r, hPlace, hProperty⟩
        exact ⟨⟨i, r⟩, ⟨hPlace, hProperty⟩, rfl⟩
      · rintro ⟨m, ⟨hPlace, hProperty⟩, rfl⟩
        exact ⟨m.record, hPlace, hProperty⟩
  calc results.count
      = (results.found.map Match.position).length := by
        rw [hSelects.count_eq, List.length_map]
    _ = passing.length := by
        rw [hSame, List.length_map]
    _ = ((Query.candidates rs).map Match.record).countP
          fun r => decide (P r) := by
        rw [List.countP_map, List.countP_eq_length_filter]
        rfl
    _ = rs.countP fun r => decide (P r) := by
        rw [Query.map_record_candidates]

end Results.Selects

end EmojiQuery
