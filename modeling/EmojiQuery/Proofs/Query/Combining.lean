import EmojiQuery.Proofs.Query.Evaluation

/-
  Queries that are combined. A query is the set of its clauses:
  order and repetition do not matter. Two queries together
  find what each of them finds, unless one of them chooses the
  columns between which the other compares scores.

  Main declarations:
    * `FieldSet.ofList_eq_of_mem_iff`
    * `Clause.holds_congr`
    * `Clause.Independent`
    * `Answers.of_same_clauses`
    * `Answers.mem_found_append_iff`
    * `Answers.found_subset_of_insert`
    * `Query.evaluate_of_same_clauses`
    * `Query.evaluate_append_and_insert`
-/

------------------------------------------------------------
-- Fields
------------------------------------------------------------

namespace EmojiQuery

namespace FieldSet

/- The bit of a field is set at its place only. -/
theorem getLsbD_bit
    (f : Field)
    {i : Nat}
    (hi : i < 8) :
    f.bit.toBitVec.getLsbD i = decide (f.index = i) := by
  have hPlaces :
      ∀ i : Fin 8,
        f.bit.toBitVec.getLsbD i = decide (f.index = i) := by
    cases f <;> decide
  exact hPlaces ⟨i, hi⟩

/- A bit of a set is set if it is that of a member. -/
theorem getLsbD_ofList
    (fs : List Field)
    {i : Nat}
    (hi : i < 8) :
    (ofList fs).bits.toBitVec.getLsbD i = true ↔
      ∃ f ∈ fs, f.index = i := by
  have hFold :
      ∀ (fs : List Field) (s : FieldSet),
        (fs.foldl insert s).bits.toBitVec.getLsbD i = true ↔
          s.bits.toBitVec.getLsbD i = true ∨
            ∃ f ∈ fs, f.index = i := by
    intro fs
    induction fs with
    | nil =>
        simp
    | cons f fs ih =>
        intro s
        rw [List.foldl_cons, ih]
        simp only [insert, UInt8.toBitVec_or,
          BitVec.getLsbD_or, Bool.or_eq_true,
          getLsbD_bit f hi, decide_eq_true_eq, or_assoc,
          List.exists_mem_cons_iff]
  have hEmpty :
      (empty.bits.toBitVec.getLsbD i = true) = False := by
    simp [empty]
  rw [ofList, hFold, hEmpty, false_or]

/- Lists with the same fields make the same set. -/
theorem ofList_eq_of_mem_iff
    {fs gs : List Field}
    (hSame : ∀ f, f ∈ fs ↔ f ∈ gs) :
    ofList fs = ofList gs := by
  have hBits :
      (ofList fs).bits.toBitVec = (ofList gs).bits.toBitVec := by
    apply BitVec.eq_of_getLsbD_eq
    intro i hi
    rw [Bool.eq_iff_iff, getLsbD_ofList fs hi,
      getLsbD_ofList gs hi]
    simp only [hSame]
  have hEqual := UInt8.toBitVec_inj.mp hBits
  cases hLeft : ofList fs
  cases hRight : ofList gs
  rw [hLeft, hRight] at hEqual
  exact congrArg mk hEqual

end FieldSet

/- A predicate tests the field that its clause names. -/
theorem Predicate.field_of_ofClause
    {c : Clause}
    {p : Predicate}
    (hBuild : ofClause c = .ok p) :
    p.field = c.field := by
  unfold ofClause at hBuild
  cases hField : c.field with
  | codepoints | version | support | introduced | notes |
      scores =>
      simp only [hField] at hBuild
      rcases (map_eq_ok_iff _ _ _).mp hBuild with ⟨_, _, rfl⟩
      rfl

/- Predicates test the fields that their clauses name. -/
theorem Predicate.map_field_of_forall₂
    {cs : List Clause}
    {ps : List Predicate}
    (hRead :
      List.Forall₂ (fun c p => ofClause c = .ok p) cs ps) :
    ps.map field = cs.map Clause.field := by
  induction hRead with
  | nil =>
      rfl
  | cons hHead _ ih =>
      rw [List.map_cons, List.map_cons, ih,
        field_of_ofClause hHead]

/- The fields of a query are those that its clauses name. -/
theorem Query.fields_of_ofClauses
    {cs : List Clause}
    {q : Query}
    (hQuery : ofClauses cs = .ok q) :
    q.fields = .ofList (cs.map Clause.field) := by
  rcases (ofClauses_eq_ok_iff cs q).mp hQuery with
    ⟨ps, hRead, rfl⟩
  rw [Predicate.map_field_of_forall₂ hRead]

end EmojiQuery

------------------------------------------------------------
-- Clauses and Columns
------------------------------------------------------------

namespace EmojiQuery

namespace Clause

/- Some clause names a field. -/
def Uses
    (cs : List Clause)
    (f : Field) : Prop :=
  ∃ c ∈ cs, c.field = f

/-
  Neither of two queries chooses the columns between which the
  other compares scores.
-/
def Independent
    (cs ds : List Clause) : Prop :=
  (Uses cs .scores → ¬ Uses ds .support) ∧
    (Uses ds .scores → ¬ Uses cs .support)

/- Clauses that do not choose columns admit every level. -/
theorem forall_admits_of_not_uses
    {cs : List Clause}
    (hNone : ¬ Uses cs .support)
    (l : Level) :
    ∀ c ∈ cs, c.Admits l := by
  intro c hMember hField
  exact absurd ⟨c, hMember, hField⟩ hNone

/- Only clauses that compare scores depend on the columns. -/
theorem holds_congr
    {c : Clause}
    {shown shown' : List Level}
    (hShown : c.field = .scores → shown = shown')
    (r : Record) :
    c.Holds shown r ↔ c.Holds shown' r := by
  by_cases hScores : c.field = .scores
  · rw [hShown hScores]
  · unfold Holds
    cases hField : c.field with
    | codepoints | version | support | introduced | notes =>
        exact Iff.rfl
    | scores =>
        exact absurd hField hScores

/- Clauses hold together while different columns are shown. -/
theorem forall_holds_congr
    {cs : List Clause}
    {shown shown' : List Level}
    (hShown : Uses cs .scores → shown = shown')
    (r : Record) :
    (∀ c ∈ cs, c.Holds shown r) ↔
      ∀ c ∈ cs, c.Holds shown' r := by
  apply forall₂_congr
  intro c hMember
  apply holds_congr
  intro hScores
  exact hShown ⟨c, hMember, hScores⟩

end Clause

end EmojiQuery

------------------------------------------------------------
-- Answers
------------------------------------------------------------

namespace EmojiQuery

namespace Answers

variable {rs : List Record}
variable {cs ds : List Clause}
variable {range : LevelRange}
variable {left right both : Results}

/- The columns are those that every clause admits. -/
theorem levels_eq
    (hLeft : Answers rs cs range left)
    (hRight : Answers rs ds range right)
    (hAdmits :
      ∀ l, (∀ c ∈ cs, c.Admits l) ↔ ∀ d ∈ ds, d.Admits l) :
    left.levels = right.levels := by
  apply eq_of_ascending (r := (· < ·))
  · intro a b hLess
    exact Int64.lt_asymm hLess
  · exact hLeft.levels_ascending
  · exact hRight.levels_ascending
  · intro l
    rw [hLeft.mem_levels, hRight.mem_levels, hAdmits]

/- Lists with the same clauses ask for the same. -/
theorem of_same_clauses
    (hSame : ∀ c, c ∈ cs ↔ c ∈ ds)
    (hAnswers : Answers rs cs range left) :
    Answers rs ds range left := by
  refine ⟨hAnswers.levels_ascending, ?_,
    hAnswers.found_ascending, ?_, hAnswers.count_eq⟩
  · intro l
    simp only [hAnswers.mem_levels, hSame]
  · intro m
    simp only [hAnswers.mem_found, hSame]

/- A column of two queries together is one of each. -/
theorem mem_levels_append_iff
    (hLeft : Answers rs cs range left)
    (hRight : Answers rs ds range right)
    (hBoth : Answers rs (cs ++ ds) range both)
    (l : Level) :
    l ∈ both.levels ↔ l ∈ left.levels ∧ l ∈ right.levels := by
  rw [hBoth.mem_levels, hLeft.mem_levels, hRight.mem_levels,
    List.forall_mem_append]
  tauto

/- Clauses that do not choose columns leave those of others. -/
theorem levels_append_of_not_uses
    (hLeft : Answers rs cs range left)
    (hBoth : Answers rs (cs ++ ds) range both)
    (hNone : ¬ Clause.Uses ds .support) :
    both.levels = left.levels := by
  apply hBoth.levels_eq hLeft
  intro l
  rw [List.forall_mem_append]
  exact and_iff_left (Clause.forall_admits_of_not_uses hNone l)

/-
  Clauses hold as they did alone if no columns are chosen for
  the scores that they compare.
-/
theorem forall_holds_append_iff
    (hLeft : Answers rs cs range left)
    (hBoth : Answers rs (cs ++ ds) range both)
    (hKeep : Clause.Uses cs .scores → ¬ Clause.Uses ds .support)
    (r : Record) :
    (∀ c ∈ cs, c.Holds both.levels r) ↔
      ∀ c ∈ cs, c.Holds left.levels r := by
  apply Clause.forall_holds_congr
  intro hScores
  exact hLeft.levels_append_of_not_uses hBoth (hKeep hScores)

/- A record is found by independent queries if each finds it. -/
theorem mem_found_append_iff
    (hLeft : Answers rs cs range left)
    (hRight : Answers rs ds range right)
    (hBoth : Answers rs (cs ++ ds) range both)
    (hIndependent : Clause.Independent cs ds)
    (m : Match) :
    m ∈ both.found ↔ m ∈ left.found ∧ m ∈ right.found := by
  have hSwapped : Answers rs (ds ++ cs) range both := by
    apply hBoth.of_same_clauses
    intro c
    rw [List.mem_append, List.mem_append, or_comm]
  have hHoldsLeft :=
    hLeft.forall_holds_append_iff hBoth hIndependent.1 m.record
  have hHoldsRight :=
    hRight.forall_holds_append_iff hSwapped hIndependent.2
      m.record
  rw [hBoth.mem_found, hLeft.mem_found, hRight.mem_found,
    List.forall_mem_append, hHoldsLeft, hHoldsRight]
  tauto

/- One more clause shows no more columns. -/
theorem mem_levels_of_append
    {c : Clause}
    (hLess : Answers rs cs range left)
    (hMore : Answers rs (cs ++ [c]) range both)
    {l : Level}
    (hMember : l ∈ both.levels) :
    l ∈ left.levels := by
  rw [hMore.mem_levels, List.forall_mem_append] at hMember
  rcases hMember with ⟨hLower, hUpper, hHidden, hAdmits, _⟩
  rw [hLess.mem_levels]
  exact ⟨hLower, hUpper, hHidden, hAdmits⟩

/-
  One more clause finds no more records, unless it chooses the
  columns for scores that are compared.
-/
theorem mem_found_of_append
    {c : Clause}
    (hLess : Answers rs cs range left)
    (hMore : Answers rs (cs ++ [c]) range both)
    (hKeep : c.field ≠ .support ∨ ¬ Clause.Uses cs .scores)
    {m : Match}
    (hMember : m ∈ both.found) :
    m ∈ left.found := by
  have hChooses :
      Clause.Uses cs .scores → ¬ Clause.Uses [c] .support := by
    rintro hScores ⟨d, hOnly, hSupport⟩
    rw [List.mem_singleton] at hOnly
    subst hOnly
    exact hKeep.elim (fun hOther => hOther hSupport)
      (fun hNone => hNone hScores)
  rw [hMore.mem_found, List.forall_mem_append] at hMember
  rcases hMember with ⟨hPlace, hHolds, _⟩
  rw [hLess.mem_found]
  exact ⟨hPlace, (hLess.forall_holds_append_iff hMore hChooses
    m.record).mp hHolds⟩

end Answers

end EmojiQuery

------------------------------------------------------------
-- Queries
------------------------------------------------------------

namespace EmojiQuery

namespace Query

/-
  Lists with the same clauses, in any order and however often,
  make queries with the same fields, which are those that the
  clauses name, and the queries find the same everywhere.
-/
theorem evaluate_of_same_clauses
    {cs ds : List Clause}
    (hSame : ∀ c, c ∈ cs ↔ c ∈ ds) :
    ((∃ q, ofClauses cs = .ok q) ↔
        ∃ p, ofClauses ds = .ok p) ∧
      ∀ q p,
        ofClauses cs = .ok q →
          ofClauses ds = .ok p →
            q.fields = p.fields ∧
              (∀ f, q.fields.contains f = true ↔
                ∃ c ∈ cs, c.field = f) ∧
              ∀ rs range,
                q.evaluate rs range = p.evaluate rs range := by
  constructor
  · rw [exists_ofClauses_eq_ok_iff, exists_ofClauses_eq_ok_iff]
    simp only [hSame]
  · intro q p hLeft hRight
    have hFields := fields_of_ofClauses hLeft
    refine ⟨?_, ?_, ?_⟩
    · rw [hFields, fields_of_ofClauses hRight]
      apply FieldSet.ofList_eq_of_mem_iff
      intro f
      simp only [List.mem_map, hSame]
    · intro f
      rw [hFields, FieldSet.mem_ofList, List.mem_map]
    · intro rs range
      have hAnswers := q.evaluate_answers hLeft rs range
      exact (hAnswers.of_same_clauses hSame).unique
        (p.evaluate_answers hRight rs range)

/- A value of scores that starts in the middle. -/
theorem builds_scores_half :
    Clause.Builds ⟨.scores, "0.5"⟩ := by
  have hRead :
      Interval.parseFrom readRealBound? .one "0.5" =
        .ok ⟨⟨0x3FE0000000000000⟩, .one⟩ := by
    decide +kernel
  exact ⟨_, (map_eq_ok_iff _ _ _).mpr ⟨_, hRead, rfl⟩⟩

/- A clause that is written twice, around one that chooses columns. -/
theorem evaluate_of_repeated_clause :
    let cs : List Clause :=
      [⟨.support, "21..22"⟩, ⟨.scores, "0.5"⟩]
    let ds : List Clause :=
      [⟨.scores, "0.5"⟩, ⟨.support, "21..22"⟩, ⟨.scores, "0.5"⟩]
    (∀ c, c ∈ cs ↔ c ∈ ds) ∧
      ∃ q p, ofClauses cs = .ok q ∧ ofClauses ds = .ok p ∧
        q.fields = p.fields ∧
          q.evaluate [scoredRecord, unscoredRecord] ⟨19, 30⟩ =
            p.evaluate [scoredRecord, unscoredRecord]
              ⟨19, 30⟩ := by
  intro cs ds
  have hSame : ∀ c, c ∈ cs ↔ c ∈ ds := by
    intro c
    simp only [cs, ds, List.mem_cons, List.not_mem_nil, or_false]
    tauto
  have hBuild : ∀ c ∈ cs, c.Builds := by
    intro c hMember
    simp only [cs, List.mem_cons, List.not_mem_nil,
      or_false] at hMember
    rcases hMember with rfl | rfl
    · exact ⟨_, rfl⟩
    · exact builds_scores_half
  rcases (exists_ofClauses_eq_ok_iff cs).mpr hBuild with
    ⟨q, hLeft⟩
  have hTheorem := evaluate_of_same_clauses hSame
  rcases hTheorem.1.mp ⟨q, hLeft⟩ with ⟨p, hRight⟩
  rcases hTheorem.2 q p hLeft hRight with
    ⟨hFields, _, hResults⟩
  exact ⟨hSame, q, p, hLeft, hRight, hFields, hResults _ _⟩

/-
  The clauses of two queries together show the columns of
  both, and find the records of both if neither chooses the
  columns between which the other compares scores. One more
  clause anywhere never shows another column, and finds
  another record only if it chooses such columns.
-/
theorem evaluate_append_and_insert :
    (∀ cs ds left right,
      ofClauses cs = .ok left →
        ofClauses ds = .ok right →
          ∃ both, ofClauses (cs ++ ds) = .ok both ∧
            ∀ rs range,
              (both.evaluate rs range).levels.Pairwise (· < ·) ∧
                (∀ l,
                  l ∈ (both.evaluate rs range).levels ↔
                    l ∈ (left.evaluate rs range).levels ∧
                      l ∈ (right.evaluate rs range).levels) ∧
                ((both.evaluate rs range).found.map
                    Match.position).Pairwise (· < ·) ∧
                (Clause.Independent cs ds →
                  ∀ m,
                    m ∈ (both.evaluate rs range).found ↔
                      m ∈ (left.evaluate rs range).found ∧
                        m ∈ (right.evaluate rs range).found)) ∧
      ∀ before after c less,
        ofClauses (before ++ after) = .ok less →
          c.Builds →
            ∃ more, ofClauses (before ++ c :: after) = .ok more ∧
              ∀ rs range,
                (∀ l ∈ (more.evaluate rs range).levels,
                    l ∈ (less.evaluate rs range).levels) ∧
                  (c.field ≠ .support ∨
                      ¬ Clause.Uses (before ++ after) .scores →
                    ∀ m ∈ (more.evaluate rs range).found,
                      m ∈ (less.evaluate rs range).found) := by
  constructor
  · intro cs ds left right hLeft hRight
    have hBuild : ∀ c ∈ cs ++ ds, c.Builds := by
      rw [List.forall_mem_append]
      exact ⟨(exists_ofClauses_eq_ok_iff cs).mp ⟨left, hLeft⟩,
        (exists_ofClauses_eq_ok_iff ds).mp ⟨right, hRight⟩⟩
    rcases (exists_ofClauses_eq_ok_iff _).mpr hBuild with
      ⟨both, hBoth⟩
    refine ⟨both, hBoth, ?_⟩
    intro rs range
    have hLeft := left.evaluate_answers hLeft rs range
    have hRight := right.evaluate_answers hRight rs range
    have hBoth := both.evaluate_answers hBoth rs range
    exact ⟨hBoth.levels_ascending,
      hLeft.mem_levels_append_iff hRight hBoth,
      hBoth.found_ascending,
      hLeft.mem_found_append_iff hRight hBoth⟩
  · intro before after c less hLess hBuilds
    have hSame :
        ∀ d, d ∈ before ++ c :: after ↔
          d ∈ (before ++ after) ++ [c] := by
      intro d
      simp only [List.mem_append, List.mem_cons,
        List.not_mem_nil, or_false]
      tauto
    have hBuild : ∀ d ∈ before ++ c :: after, d.Builds := by
      intro d hMember
      rw [hSame, List.mem_append, List.mem_singleton] at hMember
      rcases hMember with hOld | rfl
      · exact (exists_ofClauses_eq_ok_iff _).mp ⟨less, hLess⟩
          d hOld
      · exact hBuilds
    rcases (exists_ofClauses_eq_ok_iff _).mpr hBuild with
      ⟨more, hMore⟩
    refine ⟨more, hMore, ?_⟩
    intro rs range
    have hLess := less.evaluate_answers hLess rs range
    have hMore :=
      (more.evaluate_answers hMore rs range).of_same_clauses
        hSame
    constructor
    · intro l hMember
      exact hLess.mem_levels_of_append hMore hMember
    · intro hKeep m hMember
      exact hLess.mem_found_of_append hMore hKeep hMember

/-
  Scores and levels of introduction are independent, so that
  either clause narrows what the other finds.
-/
theorem evaluate_scores_and_introduction :
    let cs : List Clause := [⟨.scores, "0.5"⟩]
    let ds : List Clause := [⟨.introduced, "22..23"⟩]
    let rs := [scoredRecord, unscoredRecord]
    ∃ left right both,
      ofClauses cs = .ok left ∧ ofClauses ds = .ok right ∧
        Clause.Independent cs ds ∧
          ofClauses (cs ++ ds) = .ok both ∧
            (∀ m,
              m ∈ (both.evaluate rs ⟨19, 30⟩).found ↔
                m ∈ (left.evaluate rs ⟨19, 30⟩).found ∧
                  m ∈ (right.evaluate rs ⟨19, 30⟩).found) ∧
            ∀ m ∈ (both.evaluate rs ⟨19, 30⟩).found,
              m ∈ (left.evaluate rs ⟨19, 30⟩).found := by
  intro cs ds rs
  have hIntroduced : Clause.Builds ⟨.introduced, "22..23"⟩ :=
    ⟨_, rfl⟩
  have hLeftBuilds : ∀ c ∈ cs, c.Builds := by
    intro c hMember
    rw [List.mem_singleton.mp hMember]
    exact builds_scores_half
  have hRightBuilds : ∀ c ∈ ds, c.Builds := by
    intro c hMember
    rw [List.mem_singleton.mp hMember]
    exact hIntroduced
  have hIndependent : Clause.Independent cs ds := by
    simp [Clause.Independent, Clause.Uses, cs, ds]
  rcases (exists_ofClauses_eq_ok_iff cs).mpr hLeftBuilds with
    ⟨left, hLeft⟩
  rcases (exists_ofClauses_eq_ok_iff ds).mpr hRightBuilds with
    ⟨right, hRight⟩
  rcases evaluate_append_and_insert.1 cs ds left right
      hLeft hRight with
    ⟨both, hBoth, hMeet⟩
  rcases evaluate_append_and_insert.2 cs [] _ left
      (by simpa [cs] using hLeft) hIntroduced with
    ⟨more, hMore, hNarrow⟩
  obtain rfl : both = more := by
    exact Except.ok.inj (hBoth.symm.trans hMore)
  refine ⟨left, right, both, hLeft, hRight, hIndependent, hBoth,
    (hMeet rs ⟨19, 30⟩).2.2.2 hIndependent, ?_⟩
  exact (hNarrow rs ⟨19, 30⟩).2 (.inl (by simp))

/-
  Each of two clauses finds a record that they do not find
  together, since one chooses the columns for the other.
-/
example :
    let positions (cs : List Clause) :
        Except SearchError (List Nat) :=
      (EmojiQuery.evaluate [scoredRecord] cs ⟨19, 30⟩).map
        fun results => results.found.map Match.position
    positions [⟨.scores, "1"⟩] = .ok [0] ∧
      positions [⟨.support, "21..22"⟩] = .ok [0] ∧
        positions [⟨.scores, "1"⟩, ⟨.support, "21..22"⟩] =
          .ok [] := by
  decide +kernel

end Query

end EmojiQuery
