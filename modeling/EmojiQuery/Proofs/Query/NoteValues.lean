import EmojiQuery.Proofs.Query.Values
import EmojiQuery.Proofs.Text.Utf8

/-
  What the value of a clause on notes asks for. Quotes around it
  are taken off, if there is a text between them that has none
  itself. What then stands between slashes is a pattern, and
  everything else is a text to be found in the notes.

  Main declarations:
    * `NoteTest.existsUnique_isContent`
    * `NoteTest.parse_eq_holds_iff`
    * `NoteTest.parse_eq_matching_iff`
    * `NoteTest.parse_classifies`
-/

namespace EmojiQuery

namespace NoteTest

/- Every value has one content. -/
theorem existsUnique_isContent
    (raw : List Char) :
    ∃! content, IsContent raw content := by
  simp only [isContent_iff]
  exact existsUnique_eq'

/- Nothing is taken off a text that stands between no delimiters. -/
theorem enclosed?_eq_none_iff
    (delimiter : Char)
    (s : List Char) :
    enclosed? delimiter s = none ↔
      ∀ inner, ¬ IsBetween delimiter inner s := by
  simp only [Option.eq_none_iff_forall_ne_some, ne_eq,
    enclosed?_eq_some_iff]

/- A content that is not between slashes is a text to be found. -/
theorem parse_eq_holds_iff
    (raw t : String) :
    parse raw = .ok (.holds t) ↔
      IsContent raw.toList t.toList ∧
        ∀ pattern, ¬ IsBetween '/' pattern t.toList := by
  simp only [parse, isContent_iff, ← enclosed?_eq_none_iff]
  generalize (enclosed? '"' raw.toList).getD raw.toList = content
  constructor
  · intro hRead
    split at hRead
    · next hLiteral =>
        have hText : String.ofList content = t := by
          simpa using hRead
        rw [← hText, String.toList_ofList]
        exact ⟨rfl, hLiteral⟩
    · split at hRead <;> cases hRead
  · rintro ⟨rfl, hLiteral⟩
    simp only [hLiteral, String.ofList_toList]

/- A content between slashes that is a pattern is looked for as one. -/
theorem parse_eq_matching_iff
    (raw : String)
    (p : Pattern) :
    parse raw = .ok (.matching p) ↔
      ∃ text, IsPattern raw text ∧
        Pattern.compile? text = some p := by
  simp only [parse, IsPattern, isContent_iff,
    exists_eq_left', ← enclosed?_eq_some_iff]
  constructor
  · intro hRead
    split at hRead
    · cases hRead
    · next inner hInner =>
        split at hRead
        · next p' hCompile =>
            have hSame : p' = p := by
              simpa using hRead
            refine ⟨String.ofList inner, ?_, hSame ▸ hCompile⟩
            rw [hInner, String.toList_ofList]
        · cases hRead
  · rintro ⟨text, hText, hCompile⟩
    simp only [hText, String.ofList_toList, hCompile]

/-
  A value has one content, which decides what it asks for. If it
  is a pattern between slashes, the notes are searched for the
  pattern, or the value is refused with it. Otherwise they are
  searched for the content, which they hold if its characters
  stand in them one after the other.
-/
theorem parse_classifies
    (raw : String) :
    (∃! content, IsContent raw.toList content) ∧
      (∀ p, parse raw = .ok (.matching p) ↔
        ∃ text, IsPattern raw text ∧
          Pattern.compile? text = some p) ∧
      (∀ e, parse raw = .error e ↔
        ∃ text, IsPattern raw text ∧
          Pattern.compile? text = none ∧
            e = .malformedPattern text) ∧
      (∀ t, parse raw = .ok (.holds t) ↔
        IsContent raw.toList t.toList ∧
          ∀ pattern, ¬ IsBetween '/' pattern t.toList) ∧
      ∀ t notes, accepts notes (.holds t) = true ↔
        t.toList <:+: notes.toList :=
  ⟨existsUnique_isContent raw.toList, parse_eq_matching_iff raw,
    parse_eq_error_iff raw, parse_eq_holds_iff raw,
    fun t notes => occursIn_utf8_iff t notes⟩

/- Quotes with nothing between them are a text to be found. -/
example :
    parse "\"\"" = .ok (.holds "\"\"") := by
  rfl

end NoteTest

end EmojiQuery
