import EmojiQuery.Proofs.Lists
import EmojiQuery.Query.Clause

/-
  The grammar of queries: where a clause stands in a text, and
  which clauses a text has.

  Main declarations:
    * `Clause.Span.IsValue`
    * `Clause.Span.IsClause`
    * `Clause.Tokenizes`
    * `Clause.Span.take?_eq_some_iff`
    * `Clause.Tokenizes.unique`
    * `Clause.exists_tokenizes_scan`
    * `Clause.parse_eq_ok_iff_tokenizes`
-/

------------------------------------------------------------
-- Values and Names
------------------------------------------------------------

namespace EmojiQuery

namespace Clause

namespace Span

/- A letter or a digit of ASCII, or the underscore. -/
def IsWordChar
    (c : Char) : Prop :=
  ('A' ≤ c ∧ c ≤ 'Z') ∨ ('a' ≤ c ∧ c ≤ 'z') ∨
    ('0' ≤ c ∧ c ≤ '9') ∨ c = '_'

/- A quote opens the text, and another follows anywhere. -/
def OpensQuoted
    (s : List Char) : Prop :=
  ∃ t, s = '"' :: t ∧ '"' ∈ t

/- The value reaches from the opening quote through the next. -/
def IsQuoted
    (s value rest : List Char) : Prop :=
  ∃ inner, '"' ∉ inner ∧
    value = '"' :: (inner ++ ['"']) ∧
      s = '"' :: (inner ++ '"' :: rest)

/- The value is everything up to the next blank. -/
def IsRun
    (s value rest : List Char) : Prop :=
  value ≠ [] ∧ s = value ++ rest ∧
    (∀ c ∈ value, Unicode.isBlank c = false) ∧
      ∀ c, rest.head? = some c → Unicode.isBlank c = true

/-
  A text starts with a value, and the rest follows. The value
  is quoted if it can be.
-/
def IsValue
    (s value rest : List Char) : Prop :=
  (OpensQuoted s ∧ IsQuoted s value rest) ∨
    (¬ OpensQuoted s ∧ IsRun s value rest)

/-
  A text starts with a clause, and the rest follows: a name of
  word characters, a colon and a value.
-/
def IsClause
    (s : List Char)
    (span : Span)
    (rest : List Char) : Prop :=
  span.name ≠ [] ∧ (∀ c ∈ span.name, IsWordChar c) ∧
    ∃ t, s = span.name ++ ':' :: t ∧
      IsValue t span.value rest

end Span

end Clause

end EmojiQuery

------------------------------------------------------------
-- Clauses of a Text
------------------------------------------------------------

namespace EmojiQuery

namespace Clause

/- A clause and the place in a text at which it starts. -/
structure Place where
  start : Nat
  span : Span

namespace Place

/- The place at which the clause ends. -/
def stop
    (p : Place) : Nat :=
  p.start + (p.span.name.length + 1 + p.span.value.length)

/- A clause starts at its place in a text. -/
def StandsIn
    (text : List Char)
    (p : Place) : Prop :=
  ∃ rest, Span.IsClause (text.drop p.start) p.span rest

end Place

/-
  The clauses of a text from a place on. The first starts as
  far left as any clause can, and the others are found from
  its end on.
-/
inductive Tokenizes
    (text : List Char) : Nat → List Place → Prop where
| done
    {i : Nat}
    (hNone :
      ∀ q : Place, i ≤ q.start → ¬ q.StandsIn text) :
    Tokenizes text i []
| next
    {i : Nat}
    {p : Place}
    {ps : List Place}
    (hFrom : i ≤ p.start)
    (hStands : p.StandsIn text)
    (hLeftmost :
      ∀ q : Place, i ≤ q.start → q.start < p.start →
        ¬ q.StandsIn text)
    (hRest : Tokenizes text p.stop ps) :
    Tokenizes text i (p :: ps)

/- A clause has the name and the value that stand at a place. -/
def IsReadAt
    (p : Place)
    (c : Clause) : Prop :=
  c.field.name.toList = p.span.name ∧
    c.raw.toList = p.span.value

end Clause

end EmojiQuery

------------------------------------------------------------
-- Taking a Clause
------------------------------------------------------------

namespace EmojiQuery

namespace Clause

namespace Span

/- Names are made of word characters. -/
theorem isNameChar_iff
    (c : Char) :
    isNameChar c = true ↔ IsWordChar c := by
  have hAlphanum :
      c.isAlphanum =
        (decide ('A' ≤ c ∧ c ≤ 'Z') ||
          decide ('a' ≤ c) && decide (c ≤ 'z') ||
            decide ('0' ≤ c) && decide (c ≤ '9')) :=
    rfl
  simp only [isNameChar, IsWordChar, hAlphanum,
    Bool.or_eq_true, Bool.and_eq_true, decide_eq_true_eq,
    or_assoc]

/- A value without quotes is left at the first blank. -/
theorem takeRun?_eq_some_iff
    (s value rest : List Char) :
    takeRun? s = some (value, rest) ↔ IsRun s value rest := by
  have hCut :=
    takeWhile_dropWhile_iff isValueChar s value rest
  simp only [isValueChar, Bool.not_eq_true',
    Bool.not_eq_false'] at hCut
  rw [IsRun, ← hCut]
  simp only [takeRun?]
  split
  · next hEmpty =>
      simp only [List.isEmpty_iff] at hEmpty
      simp only [reduceCtorEq, hEmpty, false_iff, not_and]
      intro hNonempty hValue
      exact absurd hValue.symm hNonempty
  · next hNonempty =>
      simp only [List.isEmpty_iff] at hNonempty
      simp only [Option.some.injEq, Prod.mk.injEq]
      constructor
      · rintro ⟨rfl, rfl⟩
        exact ⟨hNonempty, rfl, rfl⟩
      · exact And.right

/- Behind an opening quote, a text is cut at the next quote. -/
theorem isQuoted_iff
    {t : List Char}
    (hQuote : '"' ∈ t)
    (value rest : List Char) :
    IsQuoted ('"' :: t) value rest ↔
      '"' :: (t.takeWhile (· ≠ '"') ++ ['"']) = value ∧
        (t.dropWhile (· ≠ '"')).tail = rest := by
  constructor
  · rintro ⟨inner, hInner, rfl, hText⟩
    have hCut :
        t.takeWhile (· ≠ '"') = inner ∧
          t.dropWhile (· ≠ '"') = '"' :: rest := by
      rw [takeWhile_dropWhile_iff]
      refine ⟨List.tail_eq_of_cons_eq hText, ?_, ?_⟩
      · intro c hMember
        simp only [ne_eq, decide_eq_true_eq]
        rintro rfl
        exact hInner hMember
      · intro c hHead
        simp [Option.some.inj hHead.symm]
    rw [hCut.1, hCut.2]
    exact ⟨rfl, rfl⟩
  · rintro ⟨rfl, rfl⟩
    rcases (takeWhile_dropWhile_iff (· ≠ '"') t _ _).mp
        ⟨rfl, rfl⟩ with
      ⟨hText, hFront, hStop⟩
    have hInner : '"' ∉ t.takeWhile (· ≠ '"') := by
      intro hMember
      simpa using hFront '"' hMember
    cases hRest : t.dropWhile (· ≠ '"') with
    | nil =>
        rw [hRest, List.append_nil] at hText
        exact absurd (hText ▸ hQuote) hInner
    | cons c rest =>
        rw [hRest] at hText hStop
        obtain rfl : c = '"' := by
          simpa using hStop c rfl
        exact ⟨_, hInner, rfl, congrArg ('"' :: ·) hText⟩

/- A value is taken as the grammar says. -/
theorem takeValue?_eq_some_iff
    (s value rest : List Char) :
    takeValue? s = some (value, rest) ↔
      IsValue s value rest := by
  unfold takeValue? IsValue
  split
  · next t =>
      have hOpens : OpensQuoted ('"' :: t) ↔ '"' ∈ t := by
        simp [OpensQuoted]
      split
      · next hContains =>
          have hQuote : '"' ∈ t := by
            simpa using hContains
          simp only [hOpens, hQuote, true_and, not_true,
            false_and, or_false, isQuoted_iff hQuote,
            Option.some.injEq, Prod.mk.injEq]
          rfl
      · next hContains =>
          have hNoQuote : '"' ∉ t := by
            simpa using hContains
          simp only [hOpens, hNoQuote, false_and, not_false_eq_true,
            true_and, false_or, takeRun?_eq_some_iff]
  · next hOther =>
      have hOpens : ¬ OpensQuoted s := by
        rintro ⟨t, rfl, _⟩
        exact hOther t rfl
      simp only [hOpens, false_and, not_false_eq_true, true_and,
        false_or, takeRun?_eq_some_iff]

/- A clause is taken as the grammar says. -/
theorem take?_eq_some_iff
    (s : List Char)
    (span : Span)
    (rest : List Char) :
    take? s = some (span, rest) ↔ IsClause s span rest := by
  have hCut :=
    takeWhile_dropWhile_iff isNameChar s span.name
  simp only [isNameChar_iff] at hCut
  simp only [IsClause, take?]
  constructor
  · intro hTake
    split at hTake
    · cases hTake
    · next hNonempty =>
        split at hTake
        · next t hDrop =>
            simp only [Option.map_eq_some_iff,
              Prod.mk.injEq] at hTake
            rcases hTake with ⟨⟨v, r⟩, hValue, rfl, rfl⟩
            rcases (hCut (':' :: t)).mp ⟨rfl, hDrop⟩ with
              ⟨hText, hName, _⟩
            exact ⟨by simpa using hNonempty, hName, t, hText,
              (takeValue?_eq_some_iff t v r).mp hValue⟩
        · cases hTake
  · rintro ⟨hNonempty, hName, t, hText, hValue⟩
    have hStop :
        ∀ c, (':' :: t).head? = some c →
          isNameChar c = false := by
      intro c hHead
      obtain rfl := Option.some.inj hHead
      decide
    rcases (hCut (':' :: t)).mpr ⟨hText, hName, hStop⟩ with
      ⟨hTaken, hDropped⟩
    simp [hTaken, hDropped, hNonempty,
      (takeValue?_eq_some_iff t span.value rest).mpr hValue]

end Span

end Clause

end EmojiQuery

------------------------------------------------------------
-- Finding All Clauses
------------------------------------------------------------

namespace EmojiQuery

namespace Clause

namespace Span

/- The scan takes a clause where one starts. -/
theorem scan_of_take?_eq_some
    {s rest : List Char}
    {span : Span}
    (hTake : take? s = some (span, rest)) :
    scan s = span :: scan rest := by
  cases s with
  | nil =>
      simp [take?] at hTake
  | cons c cs =>
      rw [scan]
      split
      · next hOther =>
          rw [hTake, Option.some.injEq, Prod.mk.injEq] at hOther
          rw [hOther.1, hOther.2]
      · next hNone =>
          rw [hTake] at hNone
          cases hNone

/- The scan passes over a character at which no clause starts. -/
theorem scan_cons_of_take?_eq_none
    {c : Char}
    {cs : List Char}
    (hTake : take? (c :: cs) = none) :
    scan (c :: cs) = scan cs := by
  rw [scan]
  split
  · next hSome =>
      rw [hTake] at hSome
      cases hSome
  · rfl

/- A text that starts with a clause has at most one there. -/
theorem IsClause.unique
    {s rest rest' : List Char}
    {span span' : Span}
    (hLeft : IsClause s span rest)
    (hRight : IsClause s span' rest') :
    span = span' ∧ rest = rest' := by
  rw [← take?_eq_some_iff] at hLeft hRight
  rw [hLeft, Option.some.injEq, Prod.mk.injEq] at hRight
  exact hRight

/- The text is made up of the value and the rest. -/
theorem IsValue.eq_append
    {s value rest : List Char}
    (hValue : IsValue s value rest) :
    s = value ++ rest := by
  rcases hValue with ⟨_, inner, _, hQuoted, rfl⟩ | ⟨_, hRun⟩
  · simp [hQuoted]
  · exact hRun.2.1

/- The text is made up of the clause and the rest. -/
theorem IsClause.eq_append
    {s rest : List Char}
    {span : Span}
    (hClause : IsClause s span rest) :
    s = (span.name ++ ':' :: span.value) ++ rest := by
  rcases hClause with ⟨_, _, t, rfl, hValue⟩
  simp [hValue.eq_append]

end Span

namespace Place

/- What follows a clause is the text from its end on. -/
theorem drop_stop
    {text : List Char}
    {p : Place}
    {rest : List Char}
    (hClause : Span.IsClause (text.drop p.start) p.span rest) :
    text.drop p.stop = rest := by
  have hLength :
      p.span.name.length + 1 + p.span.value.length =
        (p.span.name ++ ':' :: p.span.value).length := by
    simp only [List.length_append, List.length_cons]
    omega
  rw [stop, ← List.drop_drop, hClause.eq_append, hLength,
    List.drop_left]

/- One clause at most stands at each place. -/
theorem StandsIn.unique
    {text : List Char}
    {p q : Place}
    (hLeft : p.StandsIn text)
    (hRight : q.StandsIn text)
    (hStart : p.start = q.start) :
    p = q := by
  rcases hLeft with ⟨_, hLeft⟩
  rcases hRight with ⟨_, hRight⟩
  rw [hStart] at hLeft
  have hSpan := (hLeft.unique hRight).1
  cases p
  cases q
  simp only [mk.injEq]
  exact ⟨hStart, hSpan⟩

end Place

namespace Tokenizes

/- A text has one sequence of clauses. -/
theorem unique
    {text : List Char}
    {i : Nat}
    {ps qs : List Place}
    (hLeft : Tokenizes text i ps)
    (hRight : Tokenizes text i qs) :
    ps = qs := by
  induction hLeft generalizing qs with
  | done hNone =>
      cases hRight with
      | done =>
          rfl
      | next hFrom hStands =>
          exact absurd hStands (hNone _ hFrom)
  | @next i p ps hFrom hStands hLeftmost hRest ih =>
      cases hRight with
      | done hNone =>
          exact absurd hStands (hNone _ hFrom)
      | @next _ q qs hFrom' hStands' hLeftmost' hRest' =>
          have hStart : p.start = q.start := by
            rcases Nat.lt_trichotomy p.start q.start with
              hLess | hEqual | hGreater
            · exact absurd hStands (hLeftmost' p hFrom hLess)
            · exact hEqual
            · exact absurd hStands'
                (hLeftmost q hFrom' hGreater)
          obtain rfl := hStands.unique hStands' hStart
          rw [ih hRest']

/- A place at which no clause starts can be passed over. -/
theorem skip
    {text : List Char}
    {i : Nat}
    {ps : List Place}
    (hNone :
      ∀ q : Place, q.start = i → ¬ q.StandsIn text)
    (hRest : Tokenizes text (i + 1) ps) :
    Tokenizes text i ps := by
  cases hRest with
  | done hLater =>
      apply Tokenizes.done
      intro q hFrom
      rcases Nat.eq_or_lt_of_le hFrom with hHere | hAfter
      · exact hNone q hHere.symm
      · exact hLater q hAfter
  | next hFrom hStands hLeftmost hRest =>
      refine Tokenizes.next (by omega) hStands ?_ hRest
      intro q hFrom' hBefore
      rcases Nat.eq_or_lt_of_le hFrom' with hHere | hAfter
      · exact hNone q hHere.symm
      · exact hLeftmost q hAfter hBefore

end Tokenizes

/- Nothing stands behind the end of a text. -/
theorem Place.not_standsIn_of_drop_eq_nil
    {text : List Char}
    {p : Place}
    (hEnd : text.drop p.start = []) :
    ¬ p.StandsIn text := by
  rintro ⟨rest, hClause⟩
  rw [hEnd] at hClause
  simpa using hClause.eq_append

/- The scan finds the clauses of a text. -/
theorem exists_tokenizes_scan
    (text : List Char)
    (i : Nat) :
    ∃ ps, Tokenizes text i ps ∧
      ps.map Place.span = Span.scan (text.drop i) := by
  -- The scan goes on behind a clause, or one character later.
  induction hText : text.drop i using Span.scan.induct
    generalizing i with
  | case1 =>
      refine ⟨[], Tokenizes.done ?_, by simp [Span.scan]⟩
      intro q hFrom
      apply Place.not_standsIn_of_drop_eq_nil
      rw [List.drop_eq_nil_iff] at hText ⊢
      omega
  | case2 c cs span rest hTake ih =>
      let p : Place := ⟨i, span⟩
      have hClause :
          Span.IsClause (text.drop p.start) p.span rest := by
        rw [← Span.take?_eq_some_iff, hText]
        exact hTake
      rcases ih p.stop (Place.drop_stop hClause) with
        ⟨ps, hRest, hSpans⟩
      refine ⟨p :: ps, ?_, ?_⟩
      · apply Tokenizes.next (Nat.le_refl i) ⟨rest, hClause⟩
        · intro q hFrom hBefore
          exact absurd hBefore (Nat.not_lt.mpr hFrom)
        · exact hRest
      · rw [Span.scan_of_take?_eq_some hTake, List.map_cons,
          hSpans]
  | case3 c cs hTake ih =>
      have hNext : text.drop (i + 1) = cs := by
        rw [← List.drop_drop, hText]
        rfl
      rcases ih (i + 1) hNext with ⟨ps, hRest, hSpans⟩
      refine ⟨ps, Tokenizes.skip ?_ hRest, ?_⟩
      · rintro q rfl ⟨rest, hClause⟩
        rw [hText, ← Span.take?_eq_some_iff, hTake] at hClause
        cases hClause
      · rw [Span.scan_cons_of_take?_eq_none hTake, hSpans]

/- A span is read as the clause with its name and value. -/
theorem ofSpan_eq_ok_iff
    (span : Span)
    (c : Clause) :
    ofSpan span = .ok c ↔
      c.field.name.toList = span.name ∧
        c.raw.toList = span.value := by
  simp only [ofSpan]
  constructor
  · intro hRead
    split at hRead
    · next f hName =>
        obtain rfl := Except.ok.inj hRead
        rw [Field.name_of_ofName? hName]
        exact ⟨String.toList_ofList, String.toList_ofList⟩
    · cases hRead
  · rintro ⟨hName, hValue⟩
    rw [← hName, ← hValue, String.ofList_toList,
      String.ofList_toList, Field.ofName?_name]

/- A span can be read if its name is that of a field. -/
theorem exists_ofSpan_eq_ok_iff
    (span : Span) :
    (∃ c, ofSpan span = .ok c) ↔
      ∃ f : Field, f.name.toList = span.name := by
  simp only [ofSpan_eq_ok_iff]
  constructor
  · rintro ⟨c, hName, _⟩
    exact ⟨c.field, hName⟩
  · rintro ⟨f, hName⟩
    exact ⟨⟨f, String.ofList span.value⟩, hName,
      String.toList_ofList⟩

/-
  Every text has one sequence of clauses. A query can be read
  from it if all names are those of fields, and then consists
  of these clauses, with the values as they were written.
-/
theorem parse_eq_ok_iff_tokenizes
    (query : String) :
    ∃ places,
      (∀ ps, Tokenizes query.toList 0 ps ↔ ps = places) ∧
        (∀ cs, parse query = .ok cs ↔
          List.Forall₂ IsReadAt places cs) ∧
        ((∃ cs, parse query = .ok cs) ↔
          ∀ p ∈ places, ∃ f : Field,
            f.name.toList = p.span.name) := by
  rcases exists_tokenizes_scan query.toList 0 with
    ⟨places, hPlaces, hSpans⟩
  rw [List.drop_zero] at hSpans
  refine ⟨places, ?_, ?_, ?_⟩
  · intro ps
    constructor
    · intro hOther
      exact hOther.unique hPlaces
    · rintro rfl
      exact hPlaces
  · intro cs
    rw [parse, ← hSpans, mapM_eq_ok_iff,
      List.forall₂_map_left_iff]
    simp only [ofSpan_eq_ok_iff]
    rfl
  · rw [parse, ← hSpans, exists_mapM_eq_ok_iff]
    simp only [exists_ofSpan_eq_ok_iff, List.forall_mem_map]

end Clause

end EmojiQuery
