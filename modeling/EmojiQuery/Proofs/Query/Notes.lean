import EmojiQuery.Proofs.Query.NoteValues
import EmojiQuery.Proofs.Query.Single

/-
  Searches for a text in the notes. Quotes around the text do
  not belong to it, and only let it have blanks. The text is
  looked for among characters, although bytes are compared.

  Main declarations:
    * `NoteTest.parse_congr`
    * `Clause.holds_quotedNote`
    * `Dataset.search_quoted_note`
-/

------------------------------------------------------------
-- Contents of Values
------------------------------------------------------------

namespace EmojiQuery

namespace NoteTest

variable {raw raw' : String}
variable {content : List Char}

/- Quotes are taken off a text that has none itself. -/
theorem isContent_of_quoted
    (hNonempty : content ≠ [])
    (hQuote : '"' ∉ content) :
    IsContent ('"' :: (content ++ ['"'])) content :=
  .inl ⟨hNonempty, hQuote, rfl⟩

/- A text without quotes is all content. -/
theorem isContent_of_unquoted
    (hQuote : '"' ∉ content) :
    IsContent content content := by
  refine .inr ⟨?_, rfl⟩
  rintro inner ⟨_, _, hText⟩
  rw [hText] at hQuote
  exact hQuote List.mem_cons_self

/- Values with the same content describe the same test. -/
theorem parse_congr
    (hContent : IsContent raw.toList content)
    (hContent' : IsContent raw'.toList content) :
    parse raw = parse raw' := by
  unfold parse
  rw [(isContent_iff _ _).mp hContent,
    (isContent_iff _ _).mp hContent']

end NoteTest

end EmojiQuery

------------------------------------------------------------
-- Texts in Notes
------------------------------------------------------------

namespace EmojiQuery

namespace Clause

variable {t : String}

/- The clause that looks for a text in quotes. -/
def quotedNote
    (t : String) : Clause :=
  ⟨.notes, "\"" ++ t ++ "\""⟩

theorem toList_raw_quotedNote
    (t : String) :
    (quotedNote t).raw.toList = '"' :: (t.toList ++ ['"']) := by
  simp [quotedNote]

theorem text_quotedNote
    (t : String) :
    (quotedNote t).text = "note:\"" ++ t ++ "\"" := by
  apply String.toList_inj.mp
  simp [text, quotedNote, Field.name]

theorem toList_ne_nil
    (hNonempty : t ≠ "") :
    t.toList ≠ [] := by
  intro hNil
  exact hNonempty (String.toList_eq_nil_iff.mp hNil)

/- Quotes make one value of any text that has none itself. -/
theorem wellFormed_quotedNote
    (hQuote : '"' ∉ t.toList) :
    WellFormed [quotedNote t] :=
  .enclosed ⟨t.toList, hQuote, toList_raw_quotedNote t⟩ .nil

theorem isContent_quotedNote
    (hNonempty : t ≠ "")
    (hQuote : '"' ∉ t.toList) :
    NoteTest.IsContent (quotedNote t).raw.toList t.toList := by
  rw [toList_raw_quotedNote]
  exact NoteTest.isContent_of_quoted (toList_ne_nil hNonempty)
    hQuote

/- A clause with a text holds of notes in which the text stands. -/
theorem holds_quotedNote
    {shown : List Level}
    {r : Record}
    (hParse :
      NoteTest.parse (quotedNote t).raw = .ok (.holds t)) :
    Holds shown r (quotedNote t) ↔
      t.toList <:+: r.notes.toList := by
  change (∃ test : NoteTest,
    NoteTest.parse (quotedNote t).raw = .ok test ∧
      test.accepts r.notes = true) ↔ _
  rw [exists_ok_and_iff hParse, NoteTest.accepts, occursIn_utf8_iff]

end Clause

namespace Dataset

variable {t : String}

/-
  A text that is no pattern is found in the notes that have it
  as a part. The columns are those of the query without clauses.
-/
theorem search_quotedNote_of_text
    (d : Dataset)
    (hNonempty : t ≠ "")
    (hQuote : '"' ∉ t.toList)
    (hLiteral :
      ∀ pattern, ¬ NoteTest.IsBetween '/' pattern t.toList) :
    ∃ results all,
      d.search ("note:\"" ++ t ++ "\"") = .ok results ∧
        results.Selects d d.records
          (fun r => t.toList <:+: r.notes.toList) ∧
          d.search "" = .ok all ∧
            results.levels = all.levels := by
  have hParse :
      NoteTest.parse (Clause.quotedNote t).raw =
        .ok (.holds t) :=
    (NoteTest.parse_eq_holds_iff _ t).mpr
      ⟨Clause.isContent_quotedNote hNonempty hQuote, hLiteral⟩
  have hBuilds : (Clause.quotedNote t).Builds :=
    ⟨_, (map_eq_ok_iff _ _ _).mpr ⟨_, hParse, rfl⟩⟩
  rcases d.search_text (Clause.wellFormed_quotedNote hQuote)
    hBuilds with ⟨results, hSearch, hAnswers⟩
  have hNone : Clause.WellFormed [] := .nil
  have hNoClauses : d.search "" = d.evaluate [] :=
    d.search_render hNone
  have hAll :
      Answers d.records [] d.range
        (Query.empty.evaluate d.records d.range) :=
    Query.empty.evaluate_answers rfl d.records d.range
  refine ⟨results, _, ?_, ?_, hNoClauses, ?_⟩
  · rw [← Clause.text_quotedNote]
    exact hSearch
  · apply hAnswers.selects
    intro i
    simp only [Clause.holds_quotedNote hParse]
  · apply hAnswers.levels_eq hAll
    intro l
    -- Notes choose no columns, and neither does no clause.
    simp [Clause.Admits, Clause.quotedNote]

/-
  A text in quotes that is no pattern is found in the notes
  which have it as a part, whatever it consists of. A text
  without blanks may as well stand without the quotes, also
  if it is a pattern.
-/
theorem search_quoted_note :
    (∀ (d : Dataset) (t : String),
      t ≠ "" → '"' ∉ t.toList →
        (∀ pattern,
          ¬ NoteTest.IsBetween '/' pattern t.toList) →
          ∃ results all,
            d.search ("note:\"" ++ t ++ "\"") = .ok results ∧
              results.Selects d d.records
                (fun r => t.toList <:+: r.notes.toList) ∧
                d.search "" = .ok all ∧
                  results.levels = all.levels) ∧
      ∀ (d : Dataset) (t : String),
        t ≠ "" → '"' ∉ t.toList →
          (∀ c ∈ t.toList, Unicode.isBlank c = false) →
            d.search ("note:" ++ t) =
              d.search ("note:\"" ++ t ++ "\"") := by
  constructor
  · intro d t hNonempty hQuote hLiteral
    exact d.search_quotedNote_of_text hNonempty hQuote hLiteral
  · intro d t hNonempty hQuote hRun
    have hPlain : Clause.Span.IsPlain t.toList := by
      refine ⟨Clause.toList_ne_nil hNonempty, hRun, ?_⟩
      intro hHead
      exact hQuote (List.mem_of_head? hHead)
    have hSame :
        NoteTest.parse t =
          NoteTest.parse (Clause.quotedNote t).raw :=
      NoteTest.parse_congr (NoteTest.isContent_of_unquoted hQuote)
        (Clause.isContent_quotedNote hNonempty hQuote)
    have hTest :
        Predicate.ofClause ⟨.notes, t⟩ =
          Predicate.ofClause (Clause.quotedNote t) :=
      congrArg (Except.map Predicate.notes) hSame
    have hBare : Clause.WellFormed [⟨.notes, t⟩] :=
      .plain hPlain .nil
    rw [← Clause.text_quotedNote,
      ← d.search_text_congr hBare
        (Clause.wellFormed_quotedNote hQuote) hTest]
    rfl

end Dataset

/- Records with notes only. -/
def notedRecord
    (notes : String) : Record where
  codepoints := [0x1F48D]
  levels := [19]
  version := .one
  notes := notes
  scores := none

/-
  A text with blanks, a colon and a letter of two bytes is
  found, and not where its bytes are those of other letters. A
  pattern is the same with quotes and without them.
-/
theorem search_quoted_note_with_clause :
    let d := Dataset.ofRecords
      [notedRecord "ã api:\n9", notedRecord "né api:\n9!"]
    let t := "é api:\n9"
    let p := "/n.*9/"
    (t ≠ "" ∧ '"' ∉ t.toList ∧
      (∀ pattern,
        ¬ NoteTest.IsBetween '/' pattern t.toList) ∧
      ∃ results all,
        d.search ("note:\"" ++ t ++ "\"") = .ok results ∧
          results.Selects d d.records
            (fun r => t.toList <:+: r.notes.toList) ∧
            d.search "" = .ok all ∧
              results.levels = all.levels) ∧
      p ≠ "" ∧ '"' ∉ p.toList ∧
        (∀ c ∈ p.toList, Unicode.isBlank c = false) ∧
          d.search ("note:" ++ p) =
            d.search ("note:\"" ++ p ++ "\"") := by
  intro d t p
  have hLiteral :
      ∀ pattern, ¬ NoteTest.IsBetween '/' pattern t.toList := by
    rintro pattern ⟨_, _, hText⟩
    have hHead : t.toList.head? = some '/' := by
      rw [hText, List.head?_cons]
    exact absurd hHead (by decide)
  have hRun : ∀ c ∈ p.toList, Unicode.isBlank c = false := by
    have hAll : p.toList.all (fun c => !Unicode.isBlank c) = true := by
      decide
    intro c hMember
    simpa using List.all_eq_true.mp hAll c hMember
  have hText : t ≠ "" ∧ '"' ∉ t.toList := by
    decide
  have hPattern : p ≠ "" ∧ '"' ∉ p.toList := by
    decide
  exact
    ⟨⟨hText.1, hText.2, hLiteral,
        Dataset.search_quoted_note.1 d t hText.1 hText.2
          hLiteral⟩,
      hPattern.1, hPattern.2, hRun,
      Dataset.search_quoted_note.2 d p hPattern.1 hPattern.2
        hRun⟩

/- The text stands in the second of these notes only. -/
example :
    (Dataset.ofRecords
        [notedRecord "ã api:\n9", notedRecord "né api:\n9!"]).search
      "note:\"é api:\n9\"" =
      .ok ⟨[19], [⟨1, notedRecord "né api:\n9!"⟩], 1⟩ := by
  decide +kernel

end EmojiQuery
