import EmojiQuery.Proofs.Query.Joining

/-
  Clauses that are written back as a text. Which lists of
  clauses can be read at all depends on their quotes: a quote
  that is never closed is kept only if no other follows.

  Main declarations:
    * `Clause.render`
    * `Clause.Span.AreValues`
    * `Clause.WellFormed`
    * `Clause.Span.areValues_scan`
    * `Clause.scan_render`
    * `Clause.parse_render_and_wellFormed`
-/

------------------------------------------------------------
-- Written Clauses
------------------------------------------------------------

namespace EmojiQuery

namespace Clause

/- The text of a clause. -/
def text
    (c : Clause) : String :=
  c.field.name ++ ":" ++ c.raw

/- The text of several clauses, joined by single spaces. -/
def render
    (cs : List Clause) : String :=
  " ".intercalate (cs.map text)

namespace Span

/- A text between two quotes. -/
def IsEnclosed
    (value : List Char) : Prop :=
  ∃ inner, '"' ∉ inner ∧ value = '"' :: (inner ++ ['"'])

/- A text without blanks that no quote opens. -/
def IsPlain
    (value : List Char) : Prop :=
  value ≠ [] ∧
    (∀ c ∈ value, Unicode.isBlank c = false) ∧
      value.head? ≠ some '"'

/- A quote, and a text without blanks that does not close it. -/
def IsUnclosed
    (value : List Char) : Prop :=
  ∃ inner, '"' ∉ inner ∧
    (∀ c ∈ inner, Unicode.isBlank c = false) ∧
      value = '"' :: inner

/-
  Values that can follow each other in a text. A quote that is
  not closed allows no quote in the values that follow.
-/
inductive AreValues :
    List (List Char) → Prop where
| nil :
    AreValues []
| enclosed
    {value : List Char}
    {values : List (List Char)}
    (hValue : IsEnclosed value)
    (hRest : AreValues values) :
    AreValues (value :: values)
| plain
    {value : List Char}
    {values : List (List Char)}
    (hValue : IsPlain value)
    (hRest : AreValues values) :
    AreValues (value :: values)
| unclosed
    {value : List Char}
    {values : List (List Char)}
    (hValue : IsUnclosed value)
    (hLater : ∀ later ∈ values, '"' ∉ later)
    (hRest : AreValues values) :
    AreValues (value :: values)

end Span

/- The values of the clauses can follow each other. -/
def WellFormed
    (cs : List Clause) : Prop :=
  Span.AreValues (cs.map fun c => c.raw.toList)

end Clause

end EmojiQuery

------------------------------------------------------------
-- Values That Are Read
------------------------------------------------------------

namespace EmojiQuery

namespace Clause

namespace Span

/- Whatever is read stands in the text. -/
theorem mem_of_mem_scan
    {s : List Char}
    {span : Span}
    {c : Char}
    (hSpan : span ∈ scan s)
    (hMember : c ∈ span.value) :
    c ∈ s := by
  induction s using scan.induct with
  | case1 =>
      simp [scan] at hSpan
  | case2 a s first rest hTake ih =>
      rw [((take?_eq_some_iff _ _ _).mp hTake).eq_append]
      rw [scan_of_take?_eq_some hTake, List.mem_cons] at hSpan
      rcases hSpan with rfl | hLater
      · simp [hMember]
      · exact List.mem_append_right _ (ih hLater)
  | case3 a s hTake ih =>
      rw [scan_cons_of_take?_eq_none hTake] at hSpan
      exact List.mem_cons_of_mem a (ih hSpan)

/-
  A value that is read is enclosed, plain or unclosed; if it
  is unclosed then no quote follows.
-/
theorem IsValue.cases
    {s value rest : List Char}
    (hValue : IsValue s value rest) :
    IsEnclosed value ∨ IsPlain value ∨
      (IsUnclosed value ∧ '"' ∉ rest) := by
  rcases hValue with ⟨_, inner, hInner, hEnclosed, _⟩ |
    ⟨hOpens, hNonempty, rfl, hRun, _⟩
  · exact .inl ⟨inner, hInner, hEnclosed⟩
  · by_cases hQuoted : value.head? = some '"'
    · rcases List.head?_eq_some_iff.mp hQuoted with
        ⟨inner, rfl⟩
      have hAlone : '"' ∉ inner ++ rest := by
        intro hMember
        exact hOpens ⟨inner ++ rest, rfl, hMember⟩
      rw [List.mem_append, not_or] at hAlone
      refine .inr (.inr ⟨⟨inner, hAlone.1, ?_, rfl⟩, hAlone.2⟩)
      intro c hMember
      exact hRun c (List.mem_cons_of_mem _ hMember)
    · exact .inr (.inl ⟨hNonempty, hRun, hQuoted⟩)

/- The values of a text can follow each other. -/
theorem areValues_scan
    (s : List Char) :
    AreValues ((scan s).map Span.value) := by
  induction s using scan.induct with
  | case1 =>
      rw [scan]
      exact .nil
  | case2 a s span rest hTake ih =>
      rw [scan_of_take?_eq_some hTake, List.map_cons]
      rcases (take?_eq_some_iff _ _ _).mp hTake with
        ⟨_, _, t, _, hValue⟩
      rcases hValue.cases with
        hEnclosed | hPlain | ⟨hUnclosed, hNoQuote⟩
      · exact .enclosed hEnclosed ih
      · exact .plain hPlain ih
      · refine .unclosed hUnclosed ?_ ih
        rw [List.forall_mem_map]
        intro later hLater hMember
        exact hNoQuote (mem_of_mem_scan hLater hMember)
  | case3 a s hTake ih =>
      rw [scan_cons_of_take?_eq_none hTake]
      exact ih

end Span

------------------------------------------------------------
-- Values That Are Written
------------------------------------------------------------

namespace Span

variable {value rest : List Char}

/- An enclosed value is read from whatever it is followed by. -/
theorem IsEnclosed.isValue
    (hValue : IsEnclosed value) :
    IsValue (value ++ rest) value rest := by
  rcases hValue with ⟨inner, hInner, rfl⟩
  refine .inl ⟨⟨inner ++ '"' :: rest, ?_, ?_⟩,
    inner, hInner, rfl, ?_⟩
  · simp
  · simp
  · simp

/- A plain value is read if a blank follows. -/
theorem IsPlain.isValue
    (hValue : IsPlain value)
    (hBlank :
      ∀ c, rest.head? = some c → Unicode.isBlank c = true) :
    IsValue (value ++ rest) value rest := by
  rcases hValue with ⟨hNonempty, hRun, hUnquoted⟩
  refine .inr ⟨?_, hNonempty, rfl, hRun, hBlank⟩
  rintro ⟨t, hText, _⟩
  apply hUnquoted
  rw [← List.head?_append_of_ne_nil value hNonempty, hText]
  rfl

/- An unclosed value is read if a blank and no quote follows. -/
theorem IsUnclosed.isValue
    (hValue : IsUnclosed value)
    (hNoQuote : '"' ∉ rest)
    (hBlank :
      ∀ c, rest.head? = some c → Unicode.isBlank c = true) :
    IsValue (value ++ rest) value rest := by
  rcases hValue with ⟨inner, hInner, hRun, rfl⟩
  refine .inr ⟨?_, List.cons_ne_nil _ _, rfl, ?_, hBlank⟩
  · rintro ⟨t, hText, hMember⟩
    rw [List.cons_append, List.cons.injEq] at hText
    rw [← hText.2, List.mem_append] at hMember
    exact hMember.elim hInner hNoQuote
  · intro c hMember
    rcases List.mem_cons.mp hMember with rfl | hInside
    · decide
    · exact hRun c hInside

end Span

/- The name and the value of a clause. -/
def span
    (c : Clause) : Span :=
  ⟨c.field.name.toList, c.raw.toList⟩

/- A clause is read if its value is. -/
theorem isClause_text
    {c : Clause}
    {rest : List Char}
    (hValue :
      Span.IsValue (c.raw.toList ++ rest) c.raw.toList rest) :
    Span.IsClause (c.text.toList ++ rest) c.span rest := by
  have hNonempty : c.field.name.toList ≠ [] := by
    cases c.field <;> decide
  have hName : c.field.name.toList.all Span.isNameChar = true := by
    cases c.field <;> decide
  refine ⟨hNonempty, ?_, c.raw.toList ++ rest, ?_, hValue⟩
  · intro a hMember
    rw [← Span.isNameChar_iff]
    exact List.all_eq_true.mp hName a hMember
  · simp [text, span]

/- Written clauses have the quotes of their values. -/
theorem hasQuote_render
    (cs : List Clause) :
    hasQuote (render cs) = cs.any fun c => hasQuote c.raw := by
  have hText : ∀ c : Clause, hasQuote c.text = hasQuote c.raw := by
    intro c
    have hName : hasQuote (c.field.name ++ ":") = false := by
      cases c.field <;> decide
    rw [text, hasQuote_append, hName, Bool.false_or]
  rw [render, hasQuote_intercalate, List.any_map]
  exact congrArg cs.any (funext hText)

/-
  Behind the first of several written clauses stands nothing,
  or a blank and the others.
-/
theorem exists_toList_render_cons
    (c : Clause)
    (cs : List Clause) :
    ∃ rest,
      (render (c :: cs)).toList = c.text.toList ++ rest ∧
        Span.scan rest = Span.scan (render cs).toList ∧
          (∀ a, rest.head? = some a →
            Unicode.isBlank a = true) ∧
            ('"' ∈ rest → hasQuote (render cs) = true) := by
  cases cs with
  | nil =>
      refine ⟨[], ?_, rfl, ?_, ?_⟩
      · simp [render]
      · intro a hHead
        cases hHead
      · intro hMember
        cases hMember
  | cons d cs =>
      refine ⟨' ' :: (render (d :: cs)).toList, ?_, ?_, ?_, ?_⟩
      · rw [render, List.map_cons, List.map_cons,
          String.intercalate_cons_cons]
        simp [render]
      · exact Span.scan_cons_of_isBlank rfl
      · intro a hHead
        obtain rfl := Option.some.inj hHead
        decide
      · intro hMember
        simpa [hasQuote] using hMember

/- Well-formed clauses are found again when they are written. -/
theorem scan_render
    {cs : List Clause}
    (hFormed : WellFormed cs) :
    Span.scan (render cs).toList = cs.map span := by
  induction cs with
  | nil =>
      simp [render, Span.scan]
  | cons c cs ih =>
      rcases exists_toList_render_cons c cs with
        ⟨rest, hText, hScan, hBlank, hQuote⟩
      have hRead :
          WellFormed cs ∧
            Span.IsValue (c.raw.toList ++ rest)
              c.raw.toList rest := by
        cases hFormed with
        | enclosed hValue hRest =>
            exact ⟨hRest, hValue.isValue⟩
        | plain hValue hRest =>
            exact ⟨hRest, hValue.isValue hBlank⟩
        | unclosed hValue hLater hRest =>
            refine ⟨hRest, hValue.isValue ?_ hBlank⟩
            intro hMember
            have hSome := hQuote hMember
            rw [hasQuote_render, List.any_eq_true] at hSome
            rcases hSome with ⟨d, hIn, hRaw⟩
            refine hLater d.raw.toList ?_ (by
              simpa [hasQuote] using hRaw)
            exact List.mem_map_of_mem hIn
      have hTake := (Span.take?_eq_some_iff _ _ _).mpr
        (isClause_text hRead.2)
      rw [hText, Span.scan_of_take?_eq_some hTake, hScan,
        ih hRead.1, List.map_cons]

end Clause

end EmojiQuery

------------------------------------------------------------
-- Reading What Was Written
------------------------------------------------------------

namespace EmojiQuery

namespace Clause

/- A span is read as the clause that it is the span of. -/
theorem ofSpan_eq_ok_iff_eq_span
    (s : Span)
    (c : Clause) :
    ofSpan s = .ok c ↔ s = c.span := by
  rw [ofSpan_eq_ok_iff]
  cases s
  simp [span, eq_comm]

/- A query is read as the clauses with the spans of its text. -/
theorem parse_eq_ok_iff_scan
    (query : String)
    (cs : List Clause) :
    parse query = .ok cs ↔
      Span.scan query.toList = cs.map span := by
  simp only [parse, mapM_eq_ok_iff, ofSpan_eq_ok_iff_eq_span]
  rw [← List.forall₂_map_right_iff (R := Eq),
    List.forall₂_eq_eq_eq]

/- Well-formed clauses are read as they were written. -/
theorem parse_render
    {cs : List Clause}
    (hFormed : WellFormed cs) :
    parse (render cs) = .ok cs :=
  (parse_eq_ok_iff_scan _ _).mpr (scan_render hFormed)

/- The clauses of a query are well-formed. -/
theorem wellFormed_of_parse
    {query : String}
    {cs : List Clause}
    (hParse : parse query = .ok cs) :
    WellFormed cs := by
  have hValues := Span.areValues_scan query.toList
  rw [(parse_eq_ok_iff_scan _ _).mp hParse,
    List.map_map] at hValues
  exact hValues

/-
  Well-formed clauses can be written and read again, and all
  clauses that are read are well-formed. So a query that was
  read can be written anew without a change.
-/
theorem parse_render_and_wellFormed :
    (∀ cs, WellFormed cs → parse (render cs) = .ok cs) ∧
      (∀ query cs, parse query = .ok cs → WellFormed cs) ∧
        ∀ query cs,
          parse query = .ok cs →
            parse (render cs) = parse query := by
  refine ⟨fun _ => parse_render,
    fun _ _ => wellFormed_of_parse, ?_⟩
  intro query cs hParse
  rw [hParse, parse_render (wellFormed_of_parse hParse)]

/- A quote that is not closed is kept behind one that is. -/
theorem parse_render_unclosed_last :
    let cs : List Clause :=
      [⟨.notes, "\"a \n:\""⟩, ⟨.support, "2\"..:3"⟩,
        ⟨.notes, "\"/b"⟩, ⟨.scores, "1"⟩]
    WellFormed cs ∧ parse (render cs) = .ok cs := by
  intro cs
  -- Decided as it stands, this might try all characters.
  have hRun :
      ∀ word : List Char,
        word.all (fun c => !Unicode.isBlank c) = true →
          ∀ c ∈ word, Unicode.isBlank c = false := by
    intro word hAll c hMember
    simpa using List.all_eq_true.mp hAll c hMember
  have hFormed : WellFormed cs := by
    refine .enclosed ⟨"a \n:".toList, ?_, ?_⟩
      (.plain ⟨?_, hRun _ ?_, ?_⟩
        (.unclosed ⟨"/b".toList, ?_, hRun _ ?_, ?_⟩ ?_
          (.plain ⟨?_, hRun _ ?_, ?_⟩ .nil)))
    all_goals decide
  exact ⟨hFormed, parse_render_and_wellFormed.1 cs hFormed⟩

/- A quote that follows closes it, and the value is another. -/
example :
    parse (render [⟨.notes, "\"a"⟩, ⟨.notes, "b\"c"⟩]) =
      .ok [⟨.notes, "\"a note:b\""⟩] := by
  decide +kernel

end Clause

end EmojiQuery
