import EmojiQuery.Dataset.Basic
import EmojiQuery.Proofs.Query.Evaluation
import EmojiQuery.Proofs.Query.Grammar
import EmojiQuery.Proofs.Query.Values

/-
  Queries that fail. All names are looked up before any value
  is looked at, so an unknown name is reported even where a
  value before it is malformed. Among faults of one kind the
  first in the text is reported, whatever is searched.

  Main declarations:
    * `Clause.Place.NamesField`
    * `Clause.Refuses`
    * `Clause.parse_eq_error_iff`
    * `Query.parse_eq_error_iff`
    * `Dataset.search_eq_error_iff_refuses`
-/

------------------------------------------------------------
-- What a Query Is Refused For
------------------------------------------------------------

namespace EmojiQuery

namespace Clause

/- The name that stands at a place is that of a field. -/
def Place.NamesField
    (p : Place) : Prop :=
  ∃ f : Field, f.name.toList = p.span.name

/-
  The error with which a query is refused that has its clauses
  at certain places.
-/
inductive Refuses
    (places : List Place) : SearchError → Prop where
/- The first name that is unknown, with its value. -/
| unknownField
    {before after : List Place}
    {p : Place}
    (hPlaces : places = before ++ p :: after)
    (hBefore : ∀ q ∈ before, q.NamesField)
    (hUnknown : ¬ p.NamesField) :
    Refuses places
      (.unknownField (String.ofList p.span.name)
        (String.ofList p.span.value))
/- All names are known: the first value that is malformed. -/
| malformed
    {before after : List Clause}
    {c : Clause}
    {e : SearchError}
    (hRead :
      List.Forall₂ IsReadAt places (before ++ c :: after))
    (hBefore : ∀ b ∈ before, b.Builds)
    (hFault : Predicate.ofClause c = .error e)
    (hBlames : c.Blames e) :
    Refuses places e

/- A query is refused only for what its text says. -/
theorem Refuses.isQueryError
    {places : List Place}
    {e : SearchError}
    (hRefuses : Refuses places e) :
    e.isQueryError = true := by
  cases hRefuses with
  | unknownField =>
      rfl
  | malformed _ _ _ hBlames =>
      cases e with
      | unknownField | malformedRange | malformedPattern =>
          rfl
      | unreadable | pathNotFound | json | noCodepoints |
          noDataset =>
          exact hBlames.elim

end Clause

end EmojiQuery

------------------------------------------------------------
-- Names
------------------------------------------------------------

namespace EmojiQuery

namespace Clause

/- A span is refused if its name is unknown. -/
theorem ofSpan_eq_error_iff
    (span : Span)
    (e : SearchError) :
    ofSpan span = .error e ↔
      (¬ ∃ f : Field, f.name.toList = span.name) ∧
        e = .unknownField (String.ofList span.name)
          (String.ofList span.value) := by
  rw [← exists_ofSpan_eq_ok_iff]
  simp only [ofSpan]
  split
  · simp
  · simp [eq_comm]

variable {text : List Char}
variable {places : List Place}

/- The clauses that are read are those at the places. -/
theorem mapM_ofSpan_eq_ok_iff
    (cs : List Clause) :
    (places.map Place.span).mapM ofSpan = .ok cs ↔
      List.Forall₂ IsReadAt places cs := by
  rw [mapM_eq_ok_iff, List.forall₂_map_left_iff]
  simp only [ofSpan_eq_ok_iff]
  rfl

/- Reading fails at the first place with an unknown name. -/
theorem mapM_ofSpan_eq_error_iff
    (e : SearchError) :
    (places.map Place.span).mapM ofSpan = .error e ↔
      ∃ before p after, places = before ++ p :: after ∧
        (∀ q ∈ before, q.NamesField) ∧ ¬ p.NamesField ∧
          e = .unknownField (String.ofList p.span.name)
            (String.ofList p.span.value) := by
  rw [mapM_eq_error_iff]
  simp only [exists_ofSpan_eq_ok_iff, ofSpan_eq_error_iff]
  constructor
  · rintro ⟨_, _, _, hSpans, hBefore, hUnknown, rfl⟩
    rcases List.map_eq_append_iff.mp hSpans with
      ⟨before, later, rfl, rfl, hLater⟩
    rcases List.map_eq_cons_iff.mp hLater with
      ⟨p, after, rfl, rfl, rfl⟩
    rw [List.forall_mem_map] at hBefore
    exact ⟨before, p, after, rfl, hBefore, hUnknown, rfl⟩
  · rintro ⟨before, p, after, rfl, hBefore, hUnknown, rfl⟩
    refine ⟨before.map Place.span, p.span,
      after.map Place.span, ?_, ?_, hUnknown, rfl⟩
    · rw [List.map_append, List.map_cons]
    · rw [List.forall_mem_map]
      exact hBefore

end Clause

end EmojiQuery

------------------------------------------------------------
-- Values
------------------------------------------------------------

namespace EmojiQuery

/- Clauses are refused with the error of the first that is. -/
theorem Query.ofClauses_eq_error_iff
    (cs : List Clause)
    (e : SearchError) :
    ofClauses cs = .error e ↔
      ∃ before c after, cs = before ++ c :: after ∧
        (∀ b ∈ before, b.Builds) ∧
          Predicate.ofClause c = .error e := by
  have hOnly :
      ofClauses cs = .error e ↔
        cs.mapM Predicate.ofClause = .error e := by
    unfold ofClauses
    rw [bind_eq_error_iff]
    constructor
    · rintro (hRead | ⟨ps, _, hNever⟩)
      · exact hRead
      · cases hNever
    · exact Or.inl
  rw [hOnly, mapM_eq_error_iff]
  rfl

/- A query is refused for its first unknown name, or else value. -/
theorem Query.parse_eq_error_iff
    {text : String}
    {places : List Clause.Place}
    (hPlaces :
      places.map Clause.Place.span =
        Clause.Span.scan text.toList)
    (e : SearchError) :
    Query.parse text = .error e ↔ Clause.Refuses places e := by
  unfold Query.parse Clause.parse
  rw [bind_eq_error_iff, ← hPlaces,
    Clause.mapM_ofSpan_eq_error_iff]
  simp only [Clause.mapM_ofSpan_eq_ok_iff,
    ofClauses_eq_error_iff]
  constructor
  · rintro (⟨before, p, after, hSplit, hBefore, hUnknown, rfl⟩ |
      ⟨_, hRead, before, c, after, rfl, hBefore, hFault⟩)
    · exact .unknownField hSplit hBefore hUnknown
    · exact .malformed hRead hBefore hFault
        (Clause.blames_of_ofClause hFault)
  · intro hRefuses
    cases hRefuses with
    | unknownField hSplit hBefore hUnknown =>
        exact .inl ⟨_, _, _, hSplit, hBefore, hUnknown, rfl⟩
    | malformed hRead hBefore hFault _ =>
        exact .inr ⟨_, hRead, _, _, _, rfl, hBefore, hFault⟩

/- A query is read if all its names are known and its values build. -/
theorem Query.exists_parse_eq_ok_iff
    {text : String}
    {places : List Clause.Place}
    (hPlaces :
      places.map Clause.Place.span =
        Clause.Span.scan text.toList) :
    (∃ q, Query.parse text = .ok q) ↔
      (∀ p ∈ places, p.NamesField) ∧
        ∀ p ∈ places, ∀ c, Clause.IsReadAt p c → c.Builds := by
  have hParts :
      (∃ q, Query.parse text = .ok q) ↔
        ∃ cs, List.Forall₂ Clause.IsReadAt places cs ∧
          ∀ c ∈ cs, c.Builds := by
    unfold Query.parse Clause.parse
    rw [← hPlaces]
    simp only [← Clause.mapM_ofSpan_eq_ok_iff,
      ← exists_ofClauses_eq_ok_iff]
    cases (places.map Clause.Place.span).mapM Clause.ofSpan with
    | error e =>
        simp [bind, Except.bind]
    | ok cs =>
        simp [bind, Except.bind]
  have hNames :
      (∃ cs, List.Forall₂ Clause.IsReadAt places cs) ↔
        ∀ p ∈ places, p.NamesField := by
    simp only [← Clause.mapM_ofSpan_eq_ok_iff]
    rw [exists_mapM_eq_ok_iff, List.forall_mem_map]
    simp only [Clause.exists_ofSpan_eq_ok_iff]
    rfl
  -- One clause only is read at each place.
  have hValues :
      ∀ cs, List.Forall₂ Clause.IsReadAt places cs →
        ((∀ p ∈ places, ∀ c,
            Clause.IsReadAt p c → c.Builds) ↔
          ∀ c ∈ cs, c.Builds) := by
    intro cs hRead
    apply forall_mem_iff_of_forall₂ hRead
    intro p c hHere
    constructor
    · intro hAll
      exact hAll c hHere
    · intro hBuilds c' hHere'
      have hSpan := (Clause.ofSpan_eq_ok_iff p.span c).mpr hHere
      rw [(Clause.ofSpan_eq_ok_iff p.span c').mpr hHere',
        Except.ok.injEq] at hSpan
      rw [hSpan]
      exact hBuilds
  rw [hParts, ← hNames]
  constructor
  · rintro ⟨cs, hRead, hBuilds⟩
    exact ⟨⟨cs, hRead⟩, (hValues cs hRead).mpr hBuilds⟩
  · rintro ⟨⟨cs, hRead⟩, hBuilds⟩
    exact ⟨cs, hRead, (hValues cs hRead).mp hBuilds⟩

------------------------------------------------------------
-- Searches
------------------------------------------------------------

/- Only what a text says can make the search for it fail. -/
theorem Dataset.isQueryError_of_search
    {d : Dataset}
    {text : String}
    {e : SearchError}
    (hError : d.search text = .error e) :
    e.isQueryError = true := by
  rcases Clause.exists_tokenizes_scan text.toList 0 with
    ⟨places, _, hSpans⟩
  rw [List.drop_zero] at hSpans
  rw [search, map_eq_error_iff,
    Query.parse_eq_error_iff hSpans] at hError
  exact hError.isQueryError

/-
  A search fails for the first unknown name in the text, with
  its value, or else for the first value that is malformed, and
  succeeds otherwise. Every error is the fault of the text, and
  is the same whatever is searched.
-/
theorem Dataset.search_eq_error_iff_refuses
    (text : String) :
    ∃ places,
      (∀ ps, Clause.Tokenizes text.toList 0 ps ↔ ps = places) ∧
        (∀ (d : Dataset) e,
          d.search text = .error e ↔
            Clause.Refuses places e) ∧
        (∀ d : Dataset,
          (∃ results, d.search text = .ok results) ↔
            (∀ p ∈ places, p.NamesField) ∧
              ∀ p ∈ places, ∀ c,
                Clause.IsReadAt p c → c.Builds) ∧
        (∀ (d : Dataset) e,
          d.search text = .error e → e.isQueryError = true) ∧
        ∀ (d d' : Dataset) e,
          d.search text = .error e ↔
            d'.search text = .error e := by
  rcases Clause.exists_tokenizes_scan text.toList 0 with
    ⟨places, hTokenizes, hSpans⟩
  rw [List.drop_zero] at hSpans
  have hErrors :
      ∀ (d : Dataset) e,
        d.search text = .error e ↔ Clause.Refuses places e := by
    intro d e
    rw [search, map_eq_error_iff,
      Query.parse_eq_error_iff hSpans]
  refine ⟨places, ?_, hErrors, ?_, ?_, ?_⟩
  · intro ps
    constructor
    · intro hOther
      exact hOther.unique hTokenizes
    · rintro rfl
      exact hTokenizes
  · intro d
    rw [← Query.exists_parse_eq_ok_iff hSpans]
    simp only [search, map_eq_ok_iff]
    constructor
    · rintro ⟨_, q, hQuery, _⟩
      exact ⟨q, hQuery⟩
    · rintro ⟨q, hQuery⟩
      exact ⟨_, q, hQuery, rfl⟩
  · intro d e hError
    exact isQueryError_of_search hError
  · intro d d' e
    rw [hErrors, hErrors]

/- An unknown name is reported, although a value before it is malformed. -/
example :
    (Dataset.ofRecords []).search "api:9..1 color:red u:x" =
      .error (.unknownField "color" "red") := by
  decide +kernel

end EmojiQuery
