import EmojiQuery.Proofs.Record.Normal
import EmojiQuery.Proofs.Record.Loading
import EmojiQuery.Proofs.Query.Bounds
import EmojiQuery.Proofs.Query.Single
import EmojiQuery.Proofs.Query.Values

/-
  Numbers that stand in a dataset and are typed in a query.
  A query reads a literal as the nearest number to it; the
  dataset was read with more steps that round. A record is
  found by its own literal if both readings agree, and they
  agree if the steps round at most once.

  Main declarations:
    * `Literal.parse_text`
    * `Literal.parseFrom_rangeText`
    * `Dataset.search_literal_of_read`
-/

------------------------------------------------------------
-- Literals Without Separators
------------------------------------------------------------

namespace EmojiQuery

/- A single point before digits separates nothing. -/
theorem Undivided.point
    (ds : Digits)
    (hDigits : Undivided ds.chars) :
    Undivided ('.' :: ds.chars) := by
  apply Undivided.cons _ hDigits
  intro u hPrefix
  rcases ds.exists_eq_cons with ⟨c, cs, hChars, hDigit⟩
  rw [hChars, List.cons_append, List.cons_prefix_cons,
    List.cons_prefix_cons] at hPrefix
  rw [← hPrefix.2.1] at hDigit
  exact absurd hDigit (by decide)

namespace Literal

theorem undivided_digits
    (ds : Digits) :
    Undivided ds.chars := by
  apply Undivided.of_not_mem
  intro hMember
  exact absurd (ds.isDigit_of_mem _ hMember) (by decide)

theorem Power.undivided_chars
    (p : Power) :
    Undivided p.chars := by
  have hMark : Undivided [p.mark] := by
    apply Undivided.of_not_mem
    rcases p.mark_eq with hCase | hCase
    all_goals
      rw [hCase]
      decide
  have hSign : Undivided p.sign.chars := by
    apply Undivided.of_not_mem
    cases p.sign with
    | none | plus | minus =>
        decide
  exact hMark.append (hSign.append (undivided_digits p.digits))

/- A literal has at most one point, and does not end in it. -/
theorem undivided_chars
    (T : Literal) :
    Undivided T.chars := by
  have hPoint : Undivided T.pointChars := by
    cases hFraction : T.fraction with
    | none =>
        rw [pointChars_of_none hFraction]
        exact .nil
    | some ds =>
        rw [pointChars_of_some hFraction]
        exact .point ds (undivided_digits ds)
  have hPower : Undivided T.powerChars := by
    cases hCase : T.power with
    | none =>
        rw [powerChars_of_none hCase]
        exact .nil
    | some p =>
        rw [powerChars_of_some hCase]
        exact p.undivided_chars
  have hBody : Undivided T.body :=
    (undivided_digits T.whole).append (hPoint.append hPower)
  unfold chars
  split
  · have hMinus : Undivided ['-'] := .of_not_mem (by decide)
    exact hMinus.append hBody
  · exact hBody

end Literal

end EmojiQuery

------------------------------------------------------------
-- Literals as Ranges
------------------------------------------------------------

namespace EmojiQuery

namespace Literal

variable (T : Literal)

/- The range between a literal and itself, as a text. -/
def rangeText : String :=
  T.text ++ ".." ++ T.text

/- The range of a literal has one number. -/
def range : Interval Binary64 :=
  ⟨T.nearest, T.nearest⟩

theorem chars_ne_nil :
    T.chars ≠ [] := by
  rcases Json.exists_chars_eq_cons T with ⟨c, cs, hChars, _⟩
  rw [hChars]
  exact List.cons_ne_nil c cs

/- A literal is a bound, and read as the nearest number to it. -/
theorem writesBound_text :
    Interval.WritesBound readRealBound? T.text T.nearest := by
  have hText : T.text.toList = T.chars := String.toList_ofList
  constructor
  · rw [hText]
    exact T.undivided_chars
  · rw [hText]
    exact T.chars_ne_nil
  · rw [hText]
    exact T.readRealBound?_chars

/- A number is not below itself. -/
theorem between_nearest
    (raw : String) :
    Interval.between raw T.nearest T.nearest = .ok T.range := by
  have hOrder : ¬ T.nearest < T.nearest := by
    intro hLess
    exact Int.lt_irrefl _ hLess.2.2
  rw [Interval.between, if_neg hOrder]
  rfl

/- A literal is read as the range of the nearest number to it. -/
theorem parse_text :
    Interval.parse readRealBound? T.text = .ok T.range := by
  rw [Interval.parse_single T.writesBound_text,
    T.between_nearest]

theorem parseFrom_rangeText
    (upper : Binary64) :
    Interval.parseFrom readRealBound? upper T.rangeText =
      .ok T.range := by
  rw [rangeText, Interval.parseFrom_pair upper T.writesBound_text
    T.writesBound_text, T.between_nearest]

/- A text of literals and points is read as one value. -/
theorem isPlain_of_literalChars
    {s : List Char}
    (hNonempty : s ≠ [])
    (hChars : ∀ c ∈ s, isLiteralChar c = true) :
    Clause.Span.IsPlain s := by
  apply Clause.Span.isPlain_of_graphic hNonempty
  intro c hMember
  have hBounds := toNat_of_isLiteralChar (hChars c hMember)
  omega

theorem isPlain_text :
    Clause.Span.IsPlain T.text.toList := by
  rw [text, String.toList_ofList]
  apply isPlain_of_literalChars T.chars_ne_nil
  intro c hMember
  exact T.isLiteralChar_of_mem hMember

theorem isPlain_rangeText :
    Clause.Span.IsPlain T.rangeText.toList := by
  have hText :
      T.rangeText.toList = T.chars ++ '.' :: '.' :: T.chars := by
    simp [rangeText, text]
  rw [hText]
  apply isPlain_of_literalChars
  · simp
  · intro c hMember
    simp only [List.mem_append, List.mem_cons] at hMember
    rcases hMember with hLeft | rfl | rfl | hRight
    · exact T.isLiteralChar_of_mem hLeft
    · decide
    · decide
    · exact T.isLiteralChar_of_mem hRight

end Literal

end EmojiQuery

------------------------------------------------------------
-- Numbers Found by Their Literals
------------------------------------------------------------

namespace EmojiQuery

variable {T : Literal}
variable {shown : List Level}
variable {r : Record}
variable {x : Binary64}

/- A literal finds the versions that equal the nearest number to it. -/
theorem Clause.holds_version_literal :
    Clause.Holds shown r ⟨.version, T.text⟩ ↔
      r.version ∈ T.range := by
  unfold Clause.Holds
  simp only [exists_ok_and_iff T.parse_text]
  constructor
  · rintro ⟨_, hMember⟩
    exact hMember
  · intro hMember
    exact ⟨hMember.1.2.1, hMember⟩

/- A record stores a score under one key, and no other score. -/
def Record.HasOnlyScore
    (r : Record)
    (key : String)
    (x : Binary64) : Prop :=
  ∃ scores, r.scores = some scores ∧ scores.entries = [(key, x)]

/- A score that is the only one of its record is the greatest. -/
theorem Record.HasOnlyScore.isGreatest_iff
    {l : Level}
    (hOnly : r.HasOnlyScore (stepKey l) x)
    (hMember : l ∈ shown.dropLast)
    (y : Binary64) :
    Binary64.IsGreatest (r.StoresScore shown) y ↔
      y = x ∧ x.isNaN = false := by
  rcases hOnly with ⟨scores, hScores, hSingle⟩
  have hStores : ∀ z, r.StoresScore shown z ↔ z = x := by
    intro z
    unfold Record.StoresScore
    constructor
    · rintro ⟨_, hSome, k, _, hEntry⟩
      obtain rfl := Option.some.inj (hScores.symm.trans hSome)
      rw [hSingle, List.mem_singleton, Prod.mk.injEq] at hEntry
      exact hEntry.2
    · intro hEqual
      refine ⟨scores, hScores, l, hMember, ?_⟩
      rw [hSingle, hEqual]
      exact List.mem_singleton_self _
  unfold Binary64.IsGreatest
  simp only [hStores]
  constructor
  · rintro ⟨rfl, hNumber, _⟩
    exact ⟨rfl, hNumber⟩
  · rintro ⟨rfl, hNumber⟩
    refine ⟨rfl, hNumber, ?_⟩
    intro z hEqual _
    rw [hEqual]
    exact Binary64.le_refl_of_number hNumber

/- A range of a literal finds the scores that equal the nearest number. -/
theorem Clause.holds_score_literal
    {l : Level}
    (hMember : l ∈ shown.dropLast)
    (hOnly : r.HasOnlyScore (stepKey l) x) :
    Clause.Holds shown r ⟨.scores, T.rangeText⟩ ↔
      x ∈ T.range := by
  unfold Clause.Holds
  simp only [exists_ok_and_iff (T.parseFrom_rangeText _),
    hOnly.isGreatest_iff hMember]
  constructor
  · rintro ⟨_, ⟨rfl, _⟩, hRange⟩
    exact hRange
  · intro hRange
    exact ⟨x, ⟨rfl, hRange.1.2.1⟩, hRange⟩

/- A literal that rounds once is read as the number of its range. -/
theorem Literal.Loads.mem_range
    (hLoads : T.Loads x)
    (hOnce : T.RoundsOnce) :
    x ∈ T.range := by
  rw [hLoads.eq_nearest hOnce]
  have hSelf := Binary64.le_refl_of_number T.isNaN_nearest
  exact ⟨hSelf, hSelf⟩

/- A level is below the one with the next number. -/
theorem lt_of_toInt_eq_add_one
    {l m : Level}
    (hNext : m.toInt = l.toInt + 1) :
    l < m := by
  rw [Int64.lt_iff_toInt_lt, hNext]
  omega

/- The clause that asks for a version finds it if both readings agree. -/
theorem Dataset.search_version_literal
    (d : Dataset)
    (T : Literal) :
    ∃ results, d.search ("emoji:" ++ T.text) = .ok results ∧
      ∀ i r,
        d.records[i]? = some r →
          T.Loads r.version →
            (⟨i, r⟩ ∈ results.found ↔ r.version ∈ T.range) ∧
              (T.RoundsOnce → ⟨i, r⟩ ∈ results.found) := by
  have hBuilds : Clause.Builds ⟨.version, T.text⟩ :=
    ⟨_, (map_eq_ok_iff _ _ _).mpr ⟨_, T.parse_text, rfl⟩⟩
  rcases d.search_text (c := ⟨.version, T.text⟩)
    (.plain T.isPlain_text .nil) hBuilds with ⟨results, hSearch, hAnswers⟩
  refine ⟨results, hSearch, ?_⟩
  intro i r hPlace hLoads
  have hFound :
      ⟨i, r⟩ ∈ results.found ↔ r.version ∈ T.range := by
    rw [hAnswers.mem_found_singleton hPlace]
    exact Clause.holds_version_literal
  refine ⟨hFound, ?_⟩
  intro hOnce
  exact hFound.mpr (hLoads.mem_range hOnce)

/- So does the clause that asks for a score between two columns. -/
theorem Dataset.search_score_literal
    (d : Dataset)
    (T : Literal) :
    ∃ results, d.search ("diff:" ++ T.rangeText) = .ok results ∧
      ∀ l ∈ results.levels, ∀ m ∈ results.levels,
        m.toInt = l.toInt + 1 →
          ∀ i r x,
            d.records[i]? = some r →
              r.HasOnlyScore (stepKey l) x →
                T.Loads x →
                  (⟨i, r⟩ ∈ results.found ↔ x ∈ T.range) ∧
                    (T.RoundsOnce →
                      ⟨i, r⟩ ∈ results.found) := by
  have hBuilds : Clause.Builds ⟨.scores, T.rangeText⟩ :=
    ⟨_, (map_eq_ok_iff _ _ _).mpr
      ⟨_, T.parseFrom_rangeText _, rfl⟩⟩
  rcases d.search_text (c := ⟨.scores, T.rangeText⟩)
    (.plain T.isPlain_rangeText .nil) hBuilds with
    ⟨results, hSearch, hAnswers⟩
  refine ⟨results, hSearch, ?_⟩
  intro l hLevel m hAbove hNext i r x hPlace hOnly hLoads
  have hMember : l ∈ results.levels.dropLast := by
    apply mem_dropLast_of_below _ hAnswers.levels_ascending
      hLevel hAbove (lt_of_toInt_eq_add_one hNext)
    intro a b
    exact Int64.lt_asymm
  have hFound : ⟨i, r⟩ ∈ results.found ↔ x ∈ T.range := by
    rw [hAnswers.mem_found_singleton hPlace]
    exact Clause.holds_score_literal hMember hOnly
  refine ⟨hFound, ?_⟩
  intro hOnce
  exact hFound.mpr (hLoads.mem_range hOnce)

/-
  Every version and every score of a dataset was read from a
  literal that stands in its text. The query with a literal is
  answered, and finds a record whose version or only score was
  read from the literal just when the dataset holds the number
  nearest to the literal. It does so if the steps of reading
  the dataset round the literal at most once.
-/
theorem Dataset.search_literal_of_read
    {text : List UInt8}
    {d : Dataset}
    (hRead : Dataset.read text = .ok d) :
    (∀ r ∈ d.records, r.NumbersWritten text) ∧
      ∀ T : Literal,
        (∃ results,
          d.search ("emoji:" ++ T.text) = .ok results ∧
            ∀ i r,
              d.records[i]? = some r →
                T.Loads r.version →
                  (⟨i, r⟩ ∈ results.found ↔
                      r.version ∈ T.range) ∧
                    (T.RoundsOnce →
                      ⟨i, r⟩ ∈ results.found)) ∧
        ∃ results,
          d.search ("diff:" ++ T.rangeText) = .ok results ∧
            ∀ l ∈ results.levels, ∀ m ∈ results.levels,
              m.toInt = l.toInt + 1 →
                ∀ i r x,
                  d.records[i]? = some r →
                    r.HasOnlyScore (stepKey l) x →
                      T.Loads x →
                        (⟨i, r⟩ ∈ results.found ↔
                            x ∈ T.range) ∧
                          (T.RoundsOnce →
                            ⟨i, r⟩ ∈ results.found) := by
  constructor
  · intro r hMember
    exact Dataset.numbersWritten_of_read hRead hMember
  · intro T
    exact ⟨d.search_version_literal T, d.search_score_literal T⟩

/- A record with one number, as its version and as its score. -/
def numberedRecord
    (x : Binary64) : Record where
  codepoints := [0x1F600]
  levels := [21, 22]
  version := x
  notes := ""
  scores := some ⟨[("21_22", x)], by simp⟩

/- The dataset of one such record. -/
def numberedDataset
    (x : Binary64) : Dataset :=
  ⟨[numberedRecord x], ⟨21, 22⟩⟩

/- The text of a dataset with one such record. -/
def numberedText
    (number : String) : String :=
  "[\x7b\"codepoints\":[128512],\"api_support\":[21,22]," ++
    "\"emoji_level\":" ++ number ++
      ",\"diffs\":\x7b\"21_22\":" ++ number ++ "\x7d\x7d]"

/- Levels that ascend are not changed when the text is read. -/
theorem readText_numberedText
    {number : String}
    {x : Binary64}
    (hRead :
      Json.whole (Json.list Record.reader)
          (utf8 (numberedText number)) =
        .ok [numberedRecord x]) :
    Dataset.readText (numberedText number) =
      .ok (numberedDataset x) := by
  have hAscending :
      (numberedRecord x).levels.Pairwise (· < ·) := by
    change ([21, 22] : List Level).Pairwise (· < ·)
    decide
  rw [Dataset.readText, Dataset.read, hRead]
  change Except.ok (Dataset.ofRecords _) = _
  rw [Dataset.ofRecords, List.map_singleton,
    Record.normalize_of_pairwise hAscending]
  rfl

/- The literal `0.30`. -/
def threeTenths : Literal where
  negative := false
  whole := ⟨['0'], by decide, by decide⟩
  fraction := some ⟨['3', '0'], by decide, by decide⟩
  power := none
  eq_zero_of_head := by decide

/- The literal `1e-23`. -/
def smallPower : Literal where
  negative := false
  whole := ⟨['1'], by decide, by decide⟩
  fraction := none
  power := some
    ⟨false, .minus, ⟨['2', '3'], by decide, by decide⟩⟩
  eq_zero_of_head := by decide

/- A number of a dataset is found as it is written there. -/
theorem search_literal_of_fraction :
    let T := threeTenths
    let x : Binary64 := ⟨0x3FD3333333333333⟩
    let d := numberedDataset x
    let r := numberedRecord x
    Dataset.readText (numberedText "0.30") = .ok d ∧
      T.text = "0.30" ∧ T.Loads x ∧ T.RoundsOnce ∧
      d.records[0]? = some r ∧ r.version = x ∧
      r.HasOnlyScore (stepKey 21) x ∧
      (∃ results, d.search ("emoji:" ++ T.text) = .ok results ∧
        ⟨0, r⟩ ∈ results.found) ∧
      ∃ results, d.search ("diff:" ++ T.rangeText) = .ok results ∧
        21 ∈ results.levels ∧ 22 ∈ results.levels ∧
          ⟨0, r⟩ ∈ results.found := by
  intro T x d r
  have hText :
      Dataset.readText (numberedText "0.30") = .ok d := by
    apply readText_numberedText
    decide +kernel
  have hLoads : T.Loads x := by
    refine ⟨[], [], by simp, T.ends_nil, ?_⟩
    decide +kernel
  have hOnly : r.HasOnlyScore (stepKey 21) x :=
    ⟨_, rfl, by decide +kernel⟩
  have hOnce : T.RoundsOnce := by
    refine ⟨by decide, .inr (.inr ⟨?_, by decide⟩)⟩
    exact ⟨30, 0, by decide, by decide⟩
  have hScore :
      d.search ("diff:" ++ T.rangeText) =
        .ok ⟨[21, 22], [⟨0, r⟩], 1⟩ := by
    decide +kernel
  rcases (Dataset.search_literal_of_read hText).2 T with
    ⟨⟨versions, hVersions, hByVersion⟩, scores, hScores,
      hByScore⟩
  obtain rfl := Except.ok.inj (hScore.symm.trans hScores)
  refine ⟨hText, by decide, hLoads, hOnce, rfl, rfl, hOnly,
    ⟨versions, hVersions, ?_⟩,
    ⟨_, hScore, by decide, by decide, ?_⟩⟩
  · exact (hByVersion 0 r rfl hLoads).2 hOnce
  · exact (hByScore 21 (by decide) 22 (by decide) (by decide)
      0 r x rfl hOnly hLoads).2 hOnce

/-
  The literal `1e-23` loads, but as the double precision number
  above the nearest one, so that no query with it finds it.
-/
theorem search_misses_small_power :
    let T := smallPower
    let x : Binary64 := ⟨0x3B282DB34012B252⟩
    let d := numberedDataset x
    let r := numberedRecord x
    Dataset.readText (numberedText "1e-23") = .ok d ∧
      T.text = "1e-23" ∧ T.Loads x ∧
      d.records[0]? = some r ∧ r.version = x ∧
      r.HasOnlyScore (stepKey 21) x ∧
      d.search ("emoji:" ++ T.text) = .ok ⟨[21, 22], [], 0⟩ ∧
        d.search ("diff:" ++ T.rangeText) =
          .ok ⟨[21, 22], [], 0⟩ := by
  intro T x d r
  have hText :
      Dataset.readText (numberedText "1e-23") = .ok d := by
    apply readText_numberedText
    decide +kernel
  have hLoads : T.Loads x := by
    refine ⟨[], [], by simp, T.ends_nil, ?_⟩
    decide +kernel
  have hOnly : r.HasOnlyScore (stepKey 21) x :=
    ⟨_, rfl, by decide +kernel⟩
  refine ⟨hText, by decide, hLoads, rfl, rfl, hOnly, ?_, ?_⟩
  · decide +kernel
  · decide +kernel

end EmojiQuery
