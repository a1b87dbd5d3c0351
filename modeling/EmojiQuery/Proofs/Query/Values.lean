import EmojiQuery.Proofs.Lists
import EmojiQuery.Query.Predicate

/-
  The values of clauses: which of them are refused, and what
  the error shows of them.

  Main declarations:
    * `Interval.exists_fault_of_parse`
    * `NoteTest.IsPattern`
    * `NoteTest.parse_eq_error_iff`
    * `Clause.Blames`
    * `Clause.blames_of_ofClause`
-/

------------------------------------------------------------
-- Ranges
------------------------------------------------------------

namespace EmojiQuery

namespace Interval

variable {α : Type}
variable {raw : String}
variable {e : SearchError}

/- A bound is refused with a fault of the whole range. -/
theorem exists_fault_of_readBound
    {read : List Char → Option α}
    {part : List Char}
    (hRead : readBound read raw part = .error e) :
    ∃ fault, e = .malformedRange raw fault := by
  unfold readBound at hRead
  split at hRead
  · exact ⟨_, (Except.error.inj hRead).symm⟩
  · split at hRead
    · cases hRead
    · exact ⟨_, (Except.error.inj hRead).symm⟩

variable [LT α] [DecidableLT α]

/- Bounds are refused together if they are reversed. -/
theorem exists_fault_of_between
    {lower upper : α}
    (hBetween : between raw lower upper = .error e) :
    ∃ fault, e = .malformedRange raw fault := by
  unfold between at hBetween
  split at hBetween
  · exact ⟨_, (Except.error.inj hBetween).symm⟩
  · cases hBetween

/- A range is refused with the whole of its value. -/
theorem exists_fault_of_parse
    {read : List Char → Option α}
    (hRead : parse read raw = .error e) :
    ∃ fault, e = .malformedRange raw fault := by
  unfold parse at hRead
  rcases (bind_eq_error_iff _ _ _).mp hRead with
    hLower | ⟨lower, _, hRest⟩
  · exact exists_fault_of_readBound hLower
  · rcases (bind_eq_error_iff _ _ _).mp hRest with
      hUpper | ⟨upper, _, hOrder⟩
    · exact exists_fault_of_readBound hUpper
    · exact exists_fault_of_between hOrder

theorem exists_fault_of_parseFrom
    {read : List Char → Option α}
    {upper : α}
    (hRead : parseFrom read upper raw = .error e) :
    ∃ fault, e = .malformedRange raw fault := by
  unfold parseFrom at hRead
  split at hRead
  · exact exists_fault_of_parse hRead
  · rcases (bind_eq_error_iff _ _ _).mp hRead with
      hLower | ⟨lower, _, hOrder⟩
    · exact exists_fault_of_readBound hLower
    · exact exists_fault_of_between hOrder

end Interval

end EmojiQuery

------------------------------------------------------------
-- Notes
------------------------------------------------------------

namespace EmojiQuery

namespace NoteTest

/- A text stands between two delimiters, and has none itself. -/
def IsBetween
    (delimiter : Char)
    (inner s : List Char) : Prop :=
  inner ≠ [] ∧ delimiter ∉ inner ∧
    s = delimiter :: (inner ++ [delimiter])

/-
  The content of a value is what stands between its quotes, or
  the whole of it if nothing does.
-/
def IsContent
    (raw content : List Char) : Prop :=
  IsBetween '"' content raw ∨
    (∀ inner, ¬ IsBetween '"' inner raw) ∧ content = raw

/- The pattern of a value stands between slashes in its content. -/
def IsPattern
    (raw pattern : String) : Prop :=
  ∃ content, IsContent raw.toList content ∧
    IsBetween '/' pattern.toList content

/- The delimiters are taken off a text that stands between them. -/
theorem enclosed?_eq_some_iff
    (delimiter : Char)
    (s inner : List Char) :
    enclosed? delimiter s = some inner ↔
      IsBetween delimiter inner s := by
  cases s with
  | nil =>
      simp [enclosed?, IsBetween]
  | cons c t =>
      simp only [enclosed?, Option.ite_none_right_eq_some,
        Bool.and_eq_true, Bool.not_eq_true', decide_eq_true_eq,
        List.isEmpty_eq_false_iff, Option.some.injEq]
      constructor
      · rintro ⟨⟨⟨rfl, hNonempty⟩, hDrop⟩, rfl⟩
        refine ⟨hNonempty, ?_, ?_⟩
        · intro hMember
          simpa using List.mem_takeWhile_imp hMember
        · rw [← hDrop, List.prefix_iff_eq_append.mp
            (List.takeWhile_prefix _)]
      · rintro ⟨hNonempty, hNone, hText⟩
        rw [List.cons.injEq] at hText
        rcases hText with ⟨rfl, rfl⟩
        have hTake :
            (inner ++ [c]).takeWhile (· ≠ c) = inner := by
          refine ((takeWhile_dropWhile_iff _ _ _ [c]).mpr
            ⟨rfl, ?_, ?_⟩).1
          · intro a hMember
            simp only [decide_eq_true_eq]
            rintro rfl
            exact hNone hMember
          · simp
        rw [hTake, List.drop_left]
        exact ⟨⟨⟨rfl, hNonempty⟩, rfl⟩, rfl⟩

/- The content of a value is found by looking for its quotes. -/
theorem isContent_iff
    (raw content : List Char) :
    IsContent raw content ↔
      (enclosed? '"' raw).getD raw = content := by
  simp only [IsContent, ← enclosed?_eq_some_iff]
  cases enclosed? '"' raw with
  | none =>
      simp [eq_comm]
  | some inner =>
      simp

/- A value is refused if it writes a pattern that is none. -/
theorem parse_eq_error_iff
    (raw : String)
    (e : SearchError) :
    parse raw = .error e ↔
      ∃ pattern, IsPattern raw pattern ∧
        Pattern.compile? pattern = none ∧
          e = .malformedPattern pattern := by
  simp only [parse, IsPattern, isContent_iff,
    exists_eq_left', ← enclosed?_eq_some_iff]
  constructor
  · intro hRead
    split at hRead
    · cases hRead
    · next text hText =>
        split at hRead
        · cases hRead
        · next hNone =>
            refine ⟨String.ofList text, ?_, hNone,
              (Except.error.inj hRead).symm⟩
            rw [hText, String.toList_ofList]
  · rintro ⟨pattern, hText, hNone, rfl⟩
    simp only [hText, String.ofList_toList, hNone]

end NoteTest

end EmojiQuery

------------------------------------------------------------
-- Clauses
------------------------------------------------------------

namespace EmojiQuery

namespace Clause

/-
  An error shows the value of a clause: the whole of it where
  a range was expected, and its pattern where notes are.
-/
def Blames
    (c : Clause) :
    SearchError → Prop
| .malformedRange raw _ => c.field ≠ .notes ∧ raw = c.raw
| .malformedPattern pattern =>
    c.field = .notes ∧ NoteTest.IsPattern c.raw pattern ∧
      Pattern.compile? pattern = none
| _ => False

/- A clause is refused with an error that shows its value. -/
theorem blames_of_ofClause
    {c : Clause}
    {e : SearchError}
    (hFault : Predicate.ofClause c = .error e) :
    c.Blames e := by
  have hRange :
      c.field ≠ .notes →
        (∃ fault, e = .malformedRange c.raw fault) →
          c.Blames e := by
    rintro hField ⟨fault, rfl⟩
    exact ⟨hField, rfl⟩
  unfold Predicate.ofClause at hFault
  cases hField : c.field with
  | codepoints | version | support | introduced =>
      simp only [hField, map_eq_error_iff] at hFault
      exact hRange (by simp [hField])
        (Interval.exists_fault_of_parse hFault)
  | notes =>
      simp only [hField, map_eq_error_iff,
        NoteTest.parse_eq_error_iff] at hFault
      rcases hFault with ⟨pattern, hPattern, hNone, rfl⟩
      exact ⟨hField, hPattern, hNone⟩
  | scores =>
      simp only [hField, map_eq_error_iff] at hFault
      exact hRange (by simp [hField])
        (Interval.exists_fault_of_parseFrom hFault)

end Clause

end EmojiQuery
