import EmojiQuery.Proofs.Query.Scores
import EmojiQuery.Proofs.Record.Level

/-
  Evaluation of queries: what is computed is what the clauses
  say.

  Main declarations:
    * `mem_shownLevels_iff`
    * `Record.any_greatestScore?_iff`
    * `Predicate.accepts_iff_holds`
    * `Query.evaluate_answers`
    * `evaluate_eq_ok_iff_answers`
-/

------------------------------------------------------------
-- Shown Levels
------------------------------------------------------------

namespace EmojiQuery

/- The levels of a range that are shown ascend. -/
theorem pairwise_shownLevels
    (range : LevelRange)
    (ps : List Predicate) :
    (shownLevels range ps).Pairwise (· < ·) :=
  (range.pairwise_levels.filter _).filter _

/- Predicates admit a level if those that have a say do. -/
theorem admitsLevel_iff
    (ps : List Predicate)
    (l : Level) :
    admitsLevel ps l = true ↔
      ∀ p ∈ ps, ∀ range, p = .support range →
        l ∈ range := by
  simp only [admitsLevel, List.all_eq_true,
    List.mem_filterMap, id_eq]
  constructor
  · rintro hAll p hMember range rfl
    rw [← Interval.contains_iff]
    exact hAll _ ⟨_, hMember, rfl⟩
  · rintro hAll admitted ⟨p, hMember, hSay⟩
    cases p with
    | support range =>
        obtain rfl := Option.some.inj hSay
        exact (Interval.contains_iff range l).mpr
          (hAll _ hMember range rfl)
    | codepoints | version | introduced | notes | scores =>
        cases hSay

/- The levels of a range that are shown. -/
theorem mem_shownLevels_iff
    (range : LevelRange)
    (ps : List Predicate)
    (l : Level) :
    l ∈ shownLevels range ps ↔
      range.lowest ≤ l ∧ l ≤ range.highest ∧
        l ≠ hiddenLevel ∧
          ∀ p ∈ ps, ∀ range, p = .support range →
            l ∈ range := by
  simp only [shownLevels, List.mem_filter,
    LevelRange.mem_levels_iff, admitsLevel_iff,
    decide_eq_true_eq, and_assoc]

end EmojiQuery

------------------------------------------------------------
-- Scores Between Shown Levels
------------------------------------------------------------

namespace EmojiQuery

/- Below the last level, each level has a key. -/
theorem scoreKey?_of_lt
    {l m : Level}
    (hLess : l < m) :
    scoreKey? l = some (stepKey l) := by
  rw [scoreKey?_eq_some_iff]
  refine ⟨?_, rfl⟩
  rintro rfl
  exact Int.not_le.mpr (Int64.lt_iff_toInt_lt.mp hLess) m.toInt_le

/- The keys that are looked up while some levels are shown. -/
theorem mem_scoreKeys_iff
    {shown : List Level}
    (hAscending : shown.Pairwise (· < ·))
    (key : String) :
    key ∈ scoreKeys shown ↔
      ∃ l ∈ shown.dropLast, stepKey l = key := by
  simp only [scoreKeys, List.mem_filterMap]
  apply exists_congr
  intro l
  apply and_congr_right
  intro hMember
  rcases exists_above_of_mem_dropLast hAscending hMember with
    ⟨m, _, hLess⟩
  rw [scoreKey?_of_lt hLess, Option.some.injEq]

namespace Record

/- The scores that are found under these keys. -/
theorem mem_filterMap_score?_iff
    {shown : List Level}
    (hAscending : shown.Pairwise (· < ·))
    (r : Record)
    (x : Binary64) :
    x ∈ (scoreKeys shown).filterMap r.score? ↔
      r.StoresScore shown x := by
  simp only [List.mem_filterMap, mem_scoreKeys_iff hAscending,
    score?, Option.bind_eq_some_iff, Scores.get?_eq_some_iff,
    StoresScore]
  constructor
  · rintro ⟨_, ⟨l, hMember, rfl⟩, scores, hScores, hEntry⟩
    exact ⟨scores, hScores, l, hMember, hEntry⟩
  · rintro ⟨scores, hScores, l, hMember, hEntry⟩
    exact ⟨_, ⟨l, hMember, rfl⟩, scores, hScores, hEntry⟩

/- The greatest score lies in a range just when one is computed there. -/
theorem any_greatestScore?_iff
    {shown : List Level}
    (hAscending : shown.Pairwise (· < ·))
    (r : Record)
    (range : Interval Binary64) :
    (r.greatestScore? (scoreKeys shown)).any
        range.contains = true ↔
      ∃ x, Binary64.IsGreatest (r.StoresScore shown) x ∧
        x ∈ range := by
  have hAccepts :=
    Predicate.accepts_scores_iff range (scoreKeys shown) r
  simp only [← List.mem_filterMap,
    r.mem_filterMap_score?_iff hAscending] at hAccepts
  exact hAccepts

end Record

end EmojiQuery

------------------------------------------------------------
-- Predicates
------------------------------------------------------------

namespace EmojiQuery

namespace Predicate

/- Code points keep their number when they are tested. -/
theorem toInt_pointNumber
    (point : UInt32) :
    (pointNumber point).toInt = point.toNat := by
  have := point.toNat_lt
  exact Int64.toInt_ofNat_of_lt (by omega)

/- A code point lies in a range if its number does. -/
theorem pointNumber_mem_iff
    (range : Interval Int64)
    (point : UInt32) :
    pointNumber point ∈ range ↔
      range.lower.toInt ≤ point.toNat ∧
        point.toNat ≤ range.upper.toInt := by
  rw [Interval.mem_def, Int64.le_iff_toInt_le,
    Int64.le_iff_toInt_le, toInt_pointNumber]

/- The predicate of a clause accepts the records of which it holds. -/
theorem accepts_iff_holds
    {shown : List Level}
    (hAscending : shown.Pairwise (· < ·))
    {c : Clause}
    {p : Predicate}
    (hBuild : ofClause c = .ok p)
    (r : Record) :
    p.accepts (scoreKeys shown) r = true ↔
      c.Holds shown r := by
  unfold ofClause at hBuild
  unfold Clause.Holds
  cases hField : c.field with
  | codepoints =>
      simp only [hField] at hBuild ⊢
      rcases (map_eq_ok_iff _ _ _).mp hBuild with
        ⟨range, hRead, rfl⟩
      rw [exists_ok_and_iff hRead]
      simp only [accepts, List.any_eq_true,
        Interval.contains_iff, pointNumber_mem_iff]
  | version =>
      simp only [hField] at hBuild ⊢
      rcases (map_eq_ok_iff _ _ _).mp hBuild with
        ⟨range, hRead, rfl⟩
      rw [exists_ok_and_iff hRead]
      simp only [accepts, Interval.contains_iff]
      -- A NaN is not at most anything.
      exact ⟨fun hMember => ⟨hMember.1.2.1, hMember⟩,
        fun hMember => hMember.2⟩
  | support =>
      simp only [hField] at hBuild ⊢
      rcases (map_eq_ok_iff _ _ _).mp hBuild with
        ⟨range, hRead, rfl⟩
      rw [exists_ok_and_iff hRead]
      simp only [accepts, List.any_eq_true,
        Interval.contains_iff]
  | introduced =>
      simp only [hField] at hBuild ⊢
      rcases (map_eq_ok_iff _ _ _).mp hBuild with
        ⟨range, hRead, rfl⟩
      rw [exists_ok_and_iff hRead]
      simp only [accepts, Record.introduced?,
        Option.any_eq_true, Interval.contains_iff]
  | notes =>
      simp only [hField] at hBuild ⊢
      rcases (map_eq_ok_iff _ _ _).mp hBuild with
        ⟨test, hRead, rfl⟩
      rw [exists_ok_and_iff hRead]
      rfl
  | scores =>
      simp only [hField] at hBuild ⊢
      rcases (map_eq_ok_iff _ _ _).mp hBuild with
        ⟨range, hRead, rfl⟩
      rw [exists_ok_and_iff hRead]
      exact r.any_greatestScore?_iff hAscending range

/- A clause admits the levels that its predicate admits. -/
theorem admits_iff
    {c : Clause}
    {p : Predicate}
    (hBuild : ofClause c = .ok p)
    (l : Level) :
    c.Admits l ↔
      ∀ range, p = .support range → l ∈ range := by
  unfold ofClause at hBuild
  unfold Clause.Admits
  cases hField : c.field with
  | support =>
      simp only [hField] at hBuild
      rcases (map_eq_ok_iff _ _ _).mp hBuild with
        ⟨range, hRead, rfl⟩
      rw [exists_ok_and_iff hRead]
      simp
  | codepoints | version | introduced | notes | scores =>
      simp only [hField] at hBuild
      rcases (map_eq_ok_iff _ _ _).mp hBuild with
        ⟨_, _, rfl⟩
      simp

end Predicate

end EmojiQuery

------------------------------------------------------------
-- Whole Queries
------------------------------------------------------------

namespace EmojiQuery

/- Clauses that all build make a query of their predicates. -/
theorem Query.ofClauses_eq_ok_iff
    (cs : List Clause)
    (q : Query) :
    ofClauses cs = .ok q ↔
      ∃ ps,
        List.Forall₂
            (fun c p => Predicate.ofClause c = .ok p) cs ps ∧
          q = ⟨ps, .ofList (ps.map Predicate.field)⟩ := by
  simp only [ofClauses, ← mapM_eq_ok_iff]
  cases cs.mapM Predicate.ofClause with
  | error e =>
      simp [bind, Except.bind]
  | ok ps =>
      simp [bind, Except.bind, pure, Except.pure, eq_comm]

namespace Query

/- Clauses make a query if each of them builds. -/
theorem exists_ofClauses_eq_ok_iff
    (cs : List Clause) :
    (∃ q, ofClauses cs = .ok q) ↔ ∀ c ∈ cs, c.Builds := by
  have hRead := exists_mapM_eq_ok_iff Predicate.ofClause cs
  simp only [mapM_eq_ok_iff] at hRead
  simp only [ofClauses_eq_ok_iff]
  refine Iff.trans ?_ hRead
  constructor
  · rintro ⟨_, ps, hPairs, rfl⟩
    exact ⟨ps, hPairs⟩
  · rintro ⟨ps, hPairs⟩
    exact ⟨_, ps, hPairs, rfl⟩

/- A candidate is a record at its place. -/
theorem mem_candidates_iff
    (rs : List Record)
    (m : Match) :
    m ∈ candidates rs ↔ rs[m.position]? = some m.record := by
  simp only [candidates, List.mem_map,
    List.mem_zipIdx_iff_getElem?]
  constructor
  · rintro ⟨⟨r, i⟩, hPlace, rfl⟩
    exact hPlace
  · intro hPlace
    exact ⟨(m.record, m.position), hPlace, rfl⟩

/- Candidates stand in the order of their places. -/
theorem pairwise_candidates
    (rs : List Record) :
    ((candidates rs).map Match.position).Pairwise (· < ·) := by
  have hPlaces :
      (candidates rs).map Match.position =
        List.range' 0 rs.length := by
    rw [candidates, List.map_map]
    exact List.zipIdx_map_snd 0 rs
  rw [hPlaces]
  exact List.pairwise_lt_range'

@[simp] theorem map_record_candidates
    (rs : List Record) :
    (candidates rs).map Match.record = rs := by
  rw [candidates, List.map_map]
  exact List.zipIdx_map_fst 0 rs

/-
  The records found are the candidates that pass, also when
  there is nothing to pass.
-/
theorem found_evaluate
    (q : Query)
    (rs : List Record)
    (range : LevelRange) :
    (q.evaluate rs range).found =
      (candidates rs).filter fun m =>
        q.accepts (scoreKeys (q.evaluate rs range).levels)
          m.record := by
  simp only [evaluate]
  split
  · next hEmpty =>
      have hNone : q.predicates = [] := by
        simpa [isEmpty] using hEmpty
      simp [accepts, hNone]
  · rfl

/- A query gives the answer that its clauses ask for. -/
theorem evaluate_answers
    {cs : List Clause}
    (q : Query)
    (hBuild : ofClauses cs = .ok q)
    (rs : List Record)
    (range : LevelRange) :
    Answers rs cs range (q.evaluate rs range) := by
  rcases (ofClauses_eq_ok_iff cs q).mp hBuild with
    ⟨ps, hRead, rfl⟩
  have hAscending := pairwise_shownLevels range ps
  refine ⟨hAscending, ?_, ?_, ?_, rfl⟩
  · intro l
    have hAdmits :
        (∀ c ∈ cs, c.Admits l) ↔
          ∀ p ∈ ps, ∀ range, p = .support range →
            l ∈ range :=
      forall_mem_iff_of_forall₂ hRead
        fun c p hOne => Predicate.admits_iff hOne l
    change l ∈ shownLevels range ps ↔ _
    rw [mem_shownLevels_iff, hAdmits]
    rfl
  · rw [found_evaluate]
    exact (pairwise_candidates rs).sublist
      (List.filter_sublist.map Match.position)
  · intro m
    have hHolds :
        (∀ c ∈ cs, c.Holds (shownLevels range ps) m.record) ↔
          ∀ p ∈ ps,
            p.accepts (scoreKeys (shownLevels range ps))
              m.record = true :=
      forall_mem_iff_of_forall₂ hRead fun c p hOne =>
        (Predicate.accepts_iff_holds hAscending hOne
          m.record).symm
    rw [found_evaluate, List.mem_filter, mem_candidates_iff]
    change _ ↔ _ ∧ ∀ c ∈ cs, c.Holds (shownLevels range ps) _
    rw [hHolds, accepts, List.all_eq_true]
    rfl

end Query

/-
  Clauses that all build have an answer, and what is computed
  is the answer. Without clauses all records are found.
-/
theorem evaluate_eq_ok_iff_answers
    (rs : List Record)
    (cs : List Clause)
    (range : LevelRange)
    (hBuild : ∀ c ∈ cs, c.Builds) :
    (∃ results, evaluate rs cs range = .ok results) ∧
      (∀ results,
        evaluate rs cs range = .ok results ↔
          Answers rs cs range results) ∧
      (cs = [] →
        ∀ results, evaluate rs cs range = .ok results →
          results.found.map Match.record = rs) := by
  have hSome : ∃ q, Query.ofClauses cs = .ok q := by
    rcases (exists_mapM_eq_ok_iff _ cs).mpr hBuild with
      ⟨ps, hRead⟩
    exact ⟨_, (Query.ofClauses_eq_ok_iff cs _).mpr
      ⟨ps, (mapM_eq_ok_iff _ _ _).mp hRead, rfl⟩⟩
  rcases hSome with ⟨q, hQuery⟩
  have hAnswers := q.evaluate_answers hQuery rs range
  have hResult :
      evaluate rs cs range = .ok (q.evaluate rs range) := by
    simp [evaluate, hQuery, Except.map]
  refine ⟨⟨_, hResult⟩, ?_, ?_⟩
  · intro results
    rw [hResult, Except.ok.injEq]
    constructor
    · rintro rfl
      exact hAnswers
    · exact hAnswers.unique
  · rintro rfl results hEvaluate
    rw [hResult, Except.ok.injEq] at hEvaluate
    rcases (Query.ofClauses_eq_ok_iff [] q).mp hQuery with
      ⟨ps, hRead, rfl⟩
    obtain rfl := List.forall₂_nil_left_iff.mp hRead
    rw [← hEvaluate, Query.found_evaluate]
    simp [Query.accepts]

/- A record without a version that was scored after two levels. -/
def scoredRecord : Record where
  codepoints := [0x1F600]
  levels := [23, 21]
  version := .nan
  notes := "grinning face"
  scores := some
    ⟨[("21_22", ⟨0x3FE6666666666666⟩), ("22_23", .one)],
      by decide⟩

/- A record whose only score is no number. -/
def unscoredRecord : Record where
  codepoints := [0x1F48D]
  levels := [22]
  version := .one
  notes := "ring"
  scores := some ⟨[("21_22", .nan)], by decide⟩

/- Columns that clauses choose decide which scores count. -/
theorem evaluate_answers_levels_and_scores :
    let rs := [scoredRecord, unscoredRecord]
    let cs : List Clause :=
      [⟨.support, "21..22"⟩, ⟨.scores, "0.5"⟩]
    let results : Results :=
      ⟨[21, 22], [⟨0, scoredRecord⟩], 1⟩
    (∀ c ∈ cs, c.Builds) ∧
      evaluate rs cs ⟨19, 30⟩ = .ok results ∧
        Answers rs cs ⟨19, 30⟩ results := by
  intro rs cs results
  have hScores :
      Interval.parseFrom readRealBound? .one "0.5" =
        .ok ⟨⟨0x3FE0000000000000⟩, .one⟩ := by
    decide +kernel
  have hBuild : ∀ c ∈ cs, c.Builds := by
    intro c hMember
    simp only [cs, List.mem_cons, List.not_mem_nil,
      or_false] at hMember
    rcases hMember with rfl | rfl
    · exact ⟨_, rfl⟩
    · exact ⟨_, (map_eq_ok_iff _ _ _).mpr
        ⟨_, hScores, rfl⟩⟩
  have hResult : evaluate rs cs ⟨19, 30⟩ = .ok results := by
    decide +kernel
  have hAnswers :=
    (evaluate_eq_ok_iff_answers rs cs ⟨19, 30⟩ hBuild).2.1
  exact ⟨hBuild, hResult, (hAnswers results).mp hResult⟩

end EmojiQuery
