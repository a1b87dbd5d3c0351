import EmojiQuery.Proofs.Query.Integers

/-
  The scores at which a query looks: those of the steps from
  each shown level to the number after it. Shown levels that
  stand next to each other are such numbers, unless the hidden
  level is left out between them. Other scores can change
  without effect on what is found.

  Main declarations:
    * `pairKey_inj`
    * `succ_or_around_hidden_of_next`
    * `StepKey`
    * `mem_scoreKeys_shownLevels_iff`
    * `Record.AgreeOn`
    * `Results.SamePlaces`
    * `Query.samePlaces_of_agreeOn`
    * `Query.scores_between_columns`
-/

------------------------------------------------------------
-- Keys of Two Levels
------------------------------------------------------------

namespace EmojiQuery

/- The key of the score from one level to another. -/
def pairKey
    (l m : Level) : String :=
  String.ofList (l.text ++ '_' :: m.text)

/- The text of a level tells which level it is. -/
theorem text_inj
    {l m : Level}
    (hText : l.text = m.text) :
    l = m := by
  have hRead := congrArg (Numeral.readInt64? 10) hText
  unfold Level.text at hRead
  rw [Numeral.readInt64?_writeInt, Numeral.readInt64?_writeInt]
    at hRead
  exact Option.some.inj hRead

/- The first of two levels in a key ends at the separator. -/
theorem cut_pairKey
    (l m : Level) :
    (pairKey l m).toList.takeWhile (· ≠ '_') = l.text ∧
      (pairKey l m).toList.dropWhile (· ≠ '_') =
        '_' :: m.text := by
  rw [takeWhile_dropWhile_iff]
  refine ⟨String.toList_ofList, ?_, ?_⟩
  · intro c hMember
    rw [decide_eq_true_eq]
    rintro rfl
    have hFigures := IntegerField.toNat_of_mem_text hMember
    revert hFigures
    decide
  · intro c hHead
    obtain rfl := Option.some.inj hHead
    decide

/- A key tells with which levels it was written. -/
theorem pairKey_inj
    {l l' m m' : Level}
    (hKey : pairKey l m = pairKey l' m') :
    l = l' ∧ m = m' := by
  have hLeft := cut_pairKey l m
  have hRight := cut_pairKey l' m'
  rw [hKey] at hLeft
  constructor
  · exact text_inj (hLeft.1.symm.trans hRight.1)
  · exact text_inj
      (List.cons.inj (hLeft.2.symm.trans hRight.2)).2

/- The step from a level leads to the number after it. -/
theorem stepKey_of_toInt_eq
    {l m : Level}
    (hNext : m.toInt = l.toInt + 1) :
    stepKey l = pairKey l m := by
  rw [stepKey, pairKey, Level.text, Level.text, hNext]

end EmojiQuery

------------------------------------------------------------
-- Levels Next to Each Other
------------------------------------------------------------

namespace EmojiQuery

/- A member of a list is not the last if another comes after it. -/
theorem mem_dropLast_iff_exists_next
    {α : Type}
    (xs : List α)
    (a : α) :
    a ∈ xs.dropLast ↔ ∃ b, [a, b] <:+: xs := by
  induction xs with
  | nil =>
      simp
  | cons x xs ih =>
      cases xs with
      | nil =>
          simp [List.infix_cons_iff]
      | cons y ys =>
          rw [List.dropLast_cons_cons, List.mem_cons, ih]
          simp only [List.infix_cons_iff (a := x),
            List.cons_prefix_cons, exists_or]
          simp

/- Nothing in an ascending list comes between neighbours. -/
theorem le_of_next_of_lt
    {ls : List Level}
    (hAscending : ls.Pairwise (· < ·))
    {k l m : Level}
    (hNext : [l, m] <:+: ls)
    (hMember : k ∈ ls)
    (hLower : l < k) :
    m ≤ k := by
  rcases hNext with ⟨before, after, rfl⟩
  simp only [List.append_assoc, List.cons_append,
    List.nil_append, List.pairwise_append,
    List.pairwise_cons] at hAscending
  rcases hAscending with ⟨_, ⟨_, hAfter, _⟩, hBefore⟩
  simp only [List.append_assoc, List.cons_append,
    List.nil_append, List.mem_append, List.mem_cons] at hMember
  rcases hMember with hFront | rfl | rfl | hBack
  · have hLess := hBefore k hFront l List.mem_cons_self
    exact absurd hLower (Int64.lt_asymm hLess)
  · exact absurd hLower Int64.lt_irrefl
  · exact Int64.le_refl _
  · exact Int64.le_of_lt (hAfter k hBack)

/- What lies between two shown levels is shown, or hidden. -/
theorem mem_shownLevels_of_between
    {range : LevelRange}
    {ps : List Predicate}
    {k l m : Level}
    (hLeft : l ∈ shownLevels range ps)
    (hRight : m ∈ shownLevels range ps)
    (hLower : l ≤ k)
    (hUpper : k ≤ m)
    (hShown : k ≠ 20) :
    k ∈ shownLevels range ps := by
  rw [mem_shownLevels_iff] at hLeft hRight ⊢
  refine ⟨Int64.le_trans hLeft.1 hLower,
    Int64.le_trans hUpper hRight.2.1, hShown, ?_⟩
  intro p hMember interval hSupport
  rw [Interval.mem_def]
  exact ⟨Int64.le_trans (hLeft.2.2.2 p hMember _ hSupport).1 hLower,
    Int64.le_trans hUpper (hRight.2.2.2 p hMember _ hSupport).2⟩

/-
  Levels that are shown next to each other follow each other as
  numbers, unless they are those around the hidden level.
-/
theorem succ_or_around_hidden_of_next
    {range : LevelRange}
    {ps : List Predicate}
    {l m : Level}
    (hNext : [l, m] <:+: shownLevels range ps) :
    m.toInt = l.toInt + 1 ∨ l = 19 ∧ m = 21 := by
  have hAscending := pairwise_shownLevels range ps
  have hLeft : l ∈ shownLevels range ps :=
    hNext.subset List.mem_cons_self
  have hRight : m ∈ shownLevels range ps :=
    hNext.subset (List.mem_cons_of_mem _ List.mem_cons_self)
  have hLess : l < m := by
    have hPair := hAscending.sublist hNext.sublist
    exact List.rel_of_pairwise_cons hPair List.mem_cons_self
  -- A number strictly between the two can only be the hidden one.
  have hHidden :
      ∀ i : Int, l.toInt < i → i < m.toInt → i = 20 := by
    intro i hLower hUpper
    have hLevel : (Int64.ofInt i).toInt = i :=
      LevelRange.toInt_ofInt_of_between
        (Int.le_of_lt hLower) (Int.le_of_lt hUpper)
    by_contra hOther
    have hMember : Int64.ofInt i ∈ shownLevels range ps := by
      apply mem_shownLevels_of_between hLeft hRight
      · rw [Int64.le_iff_toInt_le, hLevel]
        exact Int.le_of_lt hLower
      · rw [Int64.le_iff_toInt_le, hLevel]
        exact Int.le_of_lt hUpper
      · intro hEqual
        rw [hEqual] at hLevel
        exact hOther hLevel.symm
    have hBeyond := le_of_next_of_lt hAscending hNext hMember
      (by rw [Int64.lt_iff_toInt_lt, hLevel]; exact hLower)
    rw [Int64.le_iff_toInt_le, hLevel] at hBeyond
    omega
  rw [Int64.lt_iff_toInt_lt] at hLess
  by_cases hSucc : m.toInt = l.toInt + 1
  · exact .inl hSucc
  · right
    have hFirst := hHidden (l.toInt + 1) (by omega) (by omega)
    have hLast := hHidden (m.toInt - 1) (by omega) (by omega)
    have hNumbers : l.toInt = 19 ∧ m.toInt = 21 := by omega
    exact ⟨Int64.toInt_inj.mp hNumbers.1,
      Int64.toInt_inj.mp hNumbers.2⟩

end EmojiQuery

------------------------------------------------------------
-- Keys of Steps
------------------------------------------------------------

namespace EmojiQuery

/-
  The keys for two levels that are shown next to each other. If
  the hidden level is left out between them, the key is the one
  from the first of them to the hidden level.
-/
inductive StepKey
    (shown : List Level) :
    String → Prop where
| adjacent
    {l m : Level}
    (hNext : [l, m] <:+: shown)
    (hPlain : ¬ (l = 19 ∧ m = 21)) :
    StepKey shown (pairKey l m)
| aroundHidden
    (hNext : [19, 21] <:+: shown) :
    StepKey shown (pairKey 19 20)

/- The keys at which a test of scores looks. -/
theorem mem_scoreKeys_shownLevels_iff
    (range : LevelRange)
    (ps : List Predicate)
    (key : String) :
    key ∈ scoreKeys (shownLevels range ps) ↔
      StepKey (shownLevels range ps) key := by
  rw [mem_scoreKeys_iff (pairwise_shownLevels range ps)]
  constructor
  · rintro ⟨l, hMember, rfl⟩
    rcases (mem_dropLast_iff_exists_next _ l).mp hMember with
      ⟨m, hNext⟩
    rcases succ_or_around_hidden_of_next hNext with
      hSucc | ⟨rfl, rfl⟩
    · rw [stepKey_of_toInt_eq hSucc]
      refine .adjacent hNext ?_
      rintro ⟨rfl, rfl⟩
      revert hSucc
      decide
    · rw [stepKey_of_toInt_eq (m := 20) (by decide)]
      exact .aroundHidden hNext
  · intro hKey
    cases hKey with
    | @adjacent l m hNext hPlain =>
        have hSucc :=
          (succ_or_around_hidden_of_next hNext).resolve_right
            hPlain
        exact ⟨l, (mem_dropLast_iff_exists_next _ l).mpr
          ⟨m, hNext⟩, stepKey_of_toInt_eq hSucc⟩
    | aroundHidden hNext =>
        exact ⟨19, (mem_dropLast_iff_exists_next _ 19).mpr
          ⟨21, hNext⟩, stepKey_of_toInt_eq (by decide)⟩

/- A key names a level that is not shown. -/
def NamesUnshown
    (shown : List Level)
    (key : String) : Prop :=
  ∃ l m, key = pairKey l m ∧ (l ∉ shown ∨ m ∉ shown)

/-
  A step has a key of two shown levels, unless it is the one
  that leads to the hidden level.
-/
theorem StepKey.not_namesUnshown_or
    {shown : List Level}
    {key : String}
    (hKey : StepKey shown key) :
    ¬ NamesUnshown shown key ∨
      key = pairKey 19 20 ∧ 19 ∈ shown ∧ 21 ∈ shown := by
  cases hKey with
  | @adjacent l m hNext _ =>
      left
      rintro ⟨l', m', hSame, hUnshown⟩
      rcases pairKey_inj hSame with ⟨rfl, rfl⟩
      rcases hUnshown with hFirst | hSecond
      · exact hFirst (hNext.subset (by simp))
      · exact hSecond (hNext.subset (by simp))
  | aroundHidden hNext =>
      right
      exact ⟨rfl, hNext.subset (by simp), hNext.subset (by simp)⟩

end EmojiQuery

------------------------------------------------------------
-- Records That Agree
------------------------------------------------------------

namespace EmojiQuery

namespace Record

/-
  Records that are the same but for their scores, and have the
  same scores under some of the keys.
-/
structure AgreeOn
    (keys : String → Prop)
    (r s : Record) : Prop where
  /- Only the scores may differ. -/
  rest_eq : { r with scores := none } = { s with scores := none }
  /- Under the keys, the scores are the same. -/
  score?_eq : ∀ key, keys key → r.score? key = s.score? key

namespace AgreeOn

variable {keys keys' : String → Prop}
variable {r s : Record}

/- Records agree on fewer keys. -/
theorem mono
    (hFewer : ∀ key, keys' key → keys key)
    (hAgree : AgreeOn keys r s) :
    AgreeOn keys' r s :=
  ⟨hAgree.rest_eq,
    fun key hKey => hAgree.score?_eq key (hFewer key hKey)⟩

/- Where scores agree, the greatest of them does. -/
theorem greatestScore?_eq
    {looked : List String}
    (hAgree : AgreeOn (· ∈ looked) r s) :
    r.greatestScore? looked = s.greatestScore? looked := by
  unfold greatestScore?
  rw [List.filterMap_congr hAgree.score?_eq]

/- A test accepts records alike that agree where it looks. -/
theorem accepts_eq
    {looked : List String}
    (hAgree : AgreeOn (· ∈ looked) r s)
    (p : Predicate) :
    p.accepts looked r = p.accepts looked s := by
  have hRest := hAgree.rest_eq
  rw [Record.mk.injEq] at hRest
  rcases hRest with ⟨hPoints, hLevels, hVersion, hNotes, _⟩
  cases p with
  | codepoints range =>
      simp only [Predicate.accepts, hPoints]
  | version range =>
      simp only [Predicate.accepts, hVersion]
  | support range =>
      simp only [Predicate.accepts, hLevels]
  | introduced range =>
      simp only [Predicate.accepts, introduced?, hLevels]
  | notes test =>
      simp only [Predicate.accepts, hNotes]
  | scores range =>
      simp only [Predicate.accepts, hAgree.greatestScore?_eq]

end AgreeOn

end Record

end EmojiQuery

------------------------------------------------------------
-- Queries over Records That Agree
------------------------------------------------------------

namespace EmojiQuery

/- Results with the same columns and the same places found. -/
structure Results.SamePlaces
    (results others : Results) : Prop where
  levels_eq : results.levels = others.levels
  positions_eq :
    results.found.map Match.position =
      others.found.map Match.position
  count_eq : results.count = others.count

namespace Query

/- Candidates that pass alike are found at the same places. -/
theorem map_position_filter_congr
    {passes passes' : Record → Bool}
    {rs ss : List Record}
    (hPass :
      List.Forall₂ (fun r s => passes r = passes' s) rs ss) :
    ((candidates rs).filter fun m => passes m.record).map
        Match.position =
      ((candidates ss).filter fun m => passes' m.record).map
        Match.position := by
  unfold candidates
  -- Places are counted from any number, for the induction.
  generalize 0 = n
  induction hPass generalizing n with
  | nil =>
      rfl
  | @cons r s rs ss hHead _ ih =>
      simp only [List.zipIdx_cons, List.map_cons,
        List.filter_cons, hHead]
      split
      · rw [List.map_cons, List.map_cons, ih]
      · exact ih (n + 1)

/- Records that agree where a query looks are found alike. -/
theorem samePlaces_of_agreeOn
    (q : Query)
    (range : LevelRange)
    {rs ss : List Record}
    (hAgree :
      List.Forall₂
        (Record.AgreeOn
          (StepKey (shownLevels range q.predicates))) rs ss) :
    (q.evaluate rs range).SamePlaces (q.evaluate ss range) := by
  have hPositions :
      (q.evaluate rs range).found.map Match.position =
        (q.evaluate ss range).found.map Match.position := by
    rw [found_evaluate, found_evaluate]
    apply map_position_filter_congr
    apply hAgree.imp
    intro r s hRecords
    have hLooked := hRecords.mono fun key =>
      (mem_scoreKeys_shownLevels_iff range q.predicates key).mp
    unfold accepts
    congr 1
    funext p
    exact hLooked.accepts_eq p
  refine ⟨rfl, hPositions, ?_⟩
  have hCounts := congrArg List.length hPositions
  rw [List.length_map, List.length_map] at hCounts
  exact hCounts

/-
  A test of scores looks at the steps between levels that are
  shown next to each other, and at nothing else: its answer is
  that of the greatest score under their keys, and no query
  depends on other scores. So no query depends on a score that
  names a level that is not shown, apart from the one that leads
  to the hidden level while both its neighbours are shown.
-/
theorem scores_between_columns
    (q : Query)
    (range : LevelRange) :
    let shown := shownLevels range q.predicates
    (∀ rs, (q.evaluate rs range).levels = shown) ∧
      (∀ l m, [l, m] <:+: shown →
        m.toInt = l.toInt + 1 ∨ l = 19 ∧ m = 21) ∧
      (∀ key, key ∈ scoreKeys shown ↔ StepKey shown key) ∧
      (∀ interval r,
        (Predicate.scores interval).accepts (scoreKeys shown) r =
            true ↔
          ∃ x,
            Binary64.IsGreatest
                (fun y => ∃ key, StepKey shown key ∧
                  r.score? key = some y) x ∧
              x ∈ interval) ∧
      (∀ rs ss,
        List.Forall₂ (Record.AgreeOn (StepKey shown)) rs ss →
          (q.evaluate rs range).SamePlaces
            (q.evaluate ss range)) ∧
      ∀ rs ss,
        List.Forall₂
            (Record.AgreeOn fun key =>
              ¬ NamesUnshown shown key ∨
                key = pairKey 19 20 ∧ 19 ∈ shown ∧ 21 ∈ shown)
            rs ss →
          (q.evaluate rs range).SamePlaces
            (q.evaluate ss range) := by
  intro shown
  refine ⟨fun _ => rfl,
    fun l m => succ_or_around_hidden_of_next,
    mem_scoreKeys_shownLevels_iff range q.predicates, ?_, ?_, ?_⟩
  · intro interval r
    have hAscending := pairwise_shownLevels range q.predicates
    have hStored :
        r.StoresScore shown =
          fun y => ∃ key, StepKey shown key ∧
            r.score? key = some y := by
      funext y
      rw [← Record.mem_filterMap_score?_iff hAscending,
        List.mem_filterMap]
      simp only [mem_scoreKeys_shownLevels_iff]
      rfl
    rw [← hStored]
    exact r.any_greatestScore?_iff hAscending interval
  · intro rs ss hAgree
    exact q.samePlaces_of_agreeOn range hAgree
  · intro rs ss hAgree
    apply q.samePlaces_of_agreeOn range
    apply hAgree.imp
    intro r s hRecords
    exact hRecords.mono fun key hKey => hKey.not_namesUnshown_or

/- A record with one score, if any, around the hidden level. -/
def keyedRecord
    (scores : Option Scores) : Record :=
  ⟨[0x1F600], [19, 21], .one, "grinning face", scores⟩

/- One score of three quarters. -/
def oneScore
    (key : String) : Scores :=
  ⟨[(key, ⟨0x3FE8000000000000⟩)], by simp⟩

/- A score makes no difference under other keys. -/
theorem agreeOn_oneScore
    {keys : String → Prop}
    {key : String}
    (hOther : ¬ keys key) :
    Record.AgreeOn keys (keyedRecord (some (oneScore key)))
      (keyedRecord none) := by
  refine ⟨rfl, ?_⟩
  intro other hKey
  have hDiffer : (other == key) = false := by
    rw [beq_eq_false_iff_ne]
    rintro rfl
    exact hOther hKey
  change (oneScore key).entries.lookup other = none
  rw [oneScore, List.lookup_cons, hDiffer]
  rfl

/- The query that asks for at least one half. -/
def halfQuery : Query :=
  ⟨[.scores ⟨⟨0x3FE0000000000000⟩, .one⟩], .ofList [.scores]⟩

/- A score after the hidden level makes no difference. -/
theorem scores_between_columns_of_keyedRecord :
    let shown := shownLevels ⟨19, 21⟩ halfQuery.predicates
    let rs := [keyedRecord (some (oneScore "20_21"))]
    let ss := [keyedRecord none]
    shown = [19, 21] ∧
      List.Forall₂
          (Record.AgreeOn fun key =>
            ¬ NamesUnshown shown key ∨
              key = pairKey 19 20 ∧ 19 ∈ shown ∧ 21 ∈ shown)
          rs ss ∧
        (halfQuery.evaluate rs ⟨19, 21⟩).SamePlaces
          (halfQuery.evaluate ss ⟨19, 21⟩) := by
  intro shown rs ss
  have hShown : shown = [19, 21] := by
    decide +kernel
  have hAgree :
      List.Forall₂
        (Record.AgreeOn fun key =>
          ¬ NamesUnshown shown key ∨
            key = pairKey 19 20 ∧ 19 ∈ shown ∧ 21 ∈ shown)
        rs ss := by
    refine .cons (agreeOn_oneScore ?_) .nil
    rintro (hNames | ⟨hSame, _⟩)
    · refine hNames ⟨20, 21, by decide +kernel, .inl ?_⟩
      rw [hShown]
      decide
    · revert hSame
      decide +kernel
  exact ⟨hShown, hAgree,
    (scores_between_columns halfQuery ⟨19, 21⟩).2.2.2.2.2 rs ss
      hAgree⟩

/-
  Around the hidden level, the key is not that of the two levels
  that are shown, and a score that names the hidden level counts.
-/
theorem hidden_level_scored :
    let shown := shownLevels ⟨19, 21⟩ halfQuery.predicates
    shown = [19, 21] ∧
      ¬ (∀ key, key ∈ scoreKeys shown ↔
          ∃ l m, [l, m] <:+: shown ∧ key = pairKey l m) ∧
        ¬ (∀ rs ss,
            List.Forall₂
                (Record.AgreeOn fun key =>
                  ∃ l m, [l, m] <:+: shown ∧ key = pairKey l m)
                rs ss →
              (halfQuery.evaluate rs ⟨19, 21⟩).SamePlaces
                (halfQuery.evaluate ss ⟨19, 21⟩)) ∧
          ¬ (∀ rs ss,
              List.Forall₂
                  (Record.AgreeOn fun key =>
                    ¬ NamesUnshown shown key)
                  rs ss →
                (halfQuery.evaluate rs ⟨19, 21⟩).SamePlaces
                  (halfQuery.evaluate ss ⟨19, 21⟩)) := by
  intro shown
  have hShown : shown = [19, 21] := by
    decide +kernel
  have hKey :
      ¬ ∃ l m, [l, m] <:+: shown ∧ "19_20" = pairKey l m := by
    rintro ⟨l, m, hNext, hSame⟩
    rw [hShown] at hNext
    have hPair := hNext.eq_of_length rfl
    simp only [List.cons.injEq] at hPair
    rcases hPair with ⟨rfl, rfl, _⟩
    revert hSame
    decide +kernel
  have hNames : NamesUnshown shown "19_20" := by
    refine ⟨19, 20, by decide +kernel, .inr ?_⟩
    rw [hShown]
    decide
  -- The query finds the record with the score, but not without it.
  have hDiffer :
      ¬ (halfQuery.evaluate
          [keyedRecord (some (oneScore "19_20"))]
          ⟨19, 21⟩).SamePlaces
        (halfQuery.evaluate [keyedRecord none] ⟨19, 21⟩) := by
    intro hPlaces
    have hCount := hPlaces.count_eq
    revert hCount
    decide +kernel
  refine ⟨hShown, ?_, ?_, ?_⟩
  · intro hKeys
    apply hKey
    rw [← hKeys, hShown]
    decide +kernel
  · intro hSame
    exact hDiffer
      (hSame _ _ (.cons (agreeOn_oneScore hKey) .nil))
  · intro hSame
    exact hDiffer
      (hSame _ _ (.cons (agreeOn_oneScore (not_not.mpr hNames))
        .nil))

end Query

end EmojiQuery
