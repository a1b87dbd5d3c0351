import EmojiQuery.Dataset.Basic
import EmojiQuery.Proofs.Json.Structure

/-
  Where the numbers of a dataset come from: each version and
  each score was read from a literal that stands in the text.

  Main declarations:
    * `WrittenIn`
    * `Record.NumbersWritten`
    * `Dataset.numbersWritten_of_read`
-/

------------------------------------------------------------
-- Scores
------------------------------------------------------------

namespace EmojiQuery

namespace Scores

/- Putting a score into entries adds no other entry. -/
theorem mem_of_mem_put
    {key : String}
    {score : Binary64}
    {es : List (String × Binary64)}
    {e : String × Binary64}
    (hMember : e ∈ put key score es) :
    e = (key, score) ∨ e ∈ es := by
  induction es with
  | nil =>
      rw [put, List.mem_singleton] at hMember
      exact .inl hMember
  | cons d es ih =>
      rcases d with ⟨k, v⟩
      rw [put] at hMember
      split at hMember
      · rcases List.mem_cons.mp hMember with hNew | hOld
        · exact .inl hNew
        · exact .inr (List.mem_cons_of_mem _ hOld)
      · rcases List.mem_cons.mp hMember with hFirst | hRest
        · rw [hFirst]
          exact .inr List.mem_cons_self
        · rcases ih hRest with hNew | hOld
          · exact .inl hNew
          · exact .inr (List.mem_cons_of_mem _ hOld)

/- The entries of a map are among those that it was made of. -/
theorem mem_of_mem_ofList
    {es : List (String × Binary64)}
    {e : String × Binary64}
    (hMember : e ∈ (ofList es).entries) :
    e ∈ es := by
  have hFold :
      ∀ (es : List (String × Binary64)) (s : Scores),
        e ∈ (es.foldl (fun s e => s.insert e.1 e.2) s).entries →
          e ∈ s.entries ∨ e ∈ es := by
    intro es
    induction es with
    | nil =>
        intro s hInside
        exact .inl hInside
    | cons d es ih =>
        intro s hInside
        rcases ih _ hInside with hPut | hLater
        · rcases mem_of_mem_put hPut with rfl | hOld
          · exact .inr List.mem_cons_self
          · exact .inl hOld
        · exact .inr (List.mem_cons_of_mem d hLater)
  rcases hFold es empty hMember with hNone | hSome
  · cases hNone
  · exact hSome

end Scores

end EmojiQuery

------------------------------------------------------------
-- Records
------------------------------------------------------------

namespace EmojiQuery

/- A number was read from a literal that stands in a text. -/
def WrittenIn
    (text : List UInt8)
    (x : Binary64) : Prop :=
  ∃ T : Literal, T.Loads x ∧ utf8 T.text <:+: text

/- The version and the scores of a record stand in a text. -/
def Record.NumbersWritten
    (text : List UInt8)
    (r : Record) : Prop :=
  WrittenIn text r.version ∧
    ∀ scores, r.scores = some scores →
      ∀ e ∈ scores.entries, WrittenIn text e.2

namespace Record

variable {text s t : List UInt8}

/- So do those that a draft has already. -/
def Draft.NumbersWritten
    (text : List UInt8)
    (d : Draft) : Prop :=
  (∀ x, d.version = some x → WrittenIn text x) ∧
    ∀ scores, d.scores = some (some scores) →
      ∀ e ∈ scores.entries, WrittenIn text e.2

/- A number that is read inside a text stands in it. -/
theorem writtenIn_of_read
    {x : Binary64}
    (hPlace : s <:+ text)
    (hRead : Json.binary64 s = .ok (x, t)) :
    WrittenIn text x := by
  rcases Json.exists_loads_of_binary64 hRead with
    ⟨T, hLoads, hText⟩
  exact ⟨T, hLoads, hText.trans hPlace.isInfix⟩

/- The scores that are read inside a text stand in it. -/
theorem writtenIn_of_scoresReader
    {scores : Scores}
    (hPlace : s <:+ text)
    (hRead : scoresReader s = .ok (scores, t)) :
    t <:+ s ∧ ∀ e ∈ scores.entries, WrittenIn text e.2 := by
  rcases (Json.map_eq_ok_iff_read _ _ _).mp hRead with
    ⟨es, hEntries, rfl⟩
  rcases Json.mem_entries_read Json.Consumes.binary64 hEntries
    with ⟨hEnd, hMembers⟩
  refine ⟨hEnd, ?_⟩
  intro e hMember
  rcases hMembers e (Scores.mem_of_mem_ofList hMember) with
    ⟨u, v, hInside, hNumber⟩
  exact writtenIn_of_read (hInside.trans hPlace) hNumber

theorem consumes_scoresReader :
    Json.Consumes scoresReader := by
  intro s scores t hRead
  exact (writtenIn_of_scoresReader (List.suffix_refl s) hRead).1

/- The word for no scores is read as no scores. -/
theorem writtenIn_of_nullable
    {scores : Scores}
    (hPlace : s <:+ text)
    (hRead : Json.nullable scoresReader s = .ok (some scores, t)) :
    ∀ e ∈ scores.entries, WrittenIn text e.2 := by
  rcases (Json.andThen_eq_ok_iff _ _ _).mp hRead with
    ⟨b?, u, hToken, hValue⟩
  have hStart := (Json.Consumes.token _ _ _ hToken).trans hPlace
  split at hValue
  · rcases (Json.andThen_eq_ok_iff _ _ _).mp hValue with
      ⟨_, v, _, hWord⟩
    rcases (Json.andThen_eq_ok_iff _ _ _).mp hWord with
      ⟨_, w, _, hNone⟩
    cases hNone
  · rcases (Json.map_eq_ok_iff_read _ _ _).mp hValue with
      ⟨_, hScores, hSome⟩
    obtain rfl := Option.some.inj hSome
    exact (writtenIn_of_scoresReader hStart hScores).2

/- Every field keeps the numbers of a draft. -/
theorem keep_numbersWritten
    (text : List UInt8) :
    Json.Keep text (Draft.NumbersWritten text) fields := by
  intro f hMember d s d' t hPlace hDraft hRead
  simp only [fields, List.mem_cons, List.not_mem_nil, or_false]
    at hMember
  rcases hMember with rfl | rfl | rfl | rfl | rfl
  all_goals
    rcases (Json.andThen_eq_ok_iff _ _ _).mp hRead with
      ⟨v, u, hValue, hPair⟩
    rcases Prod.mk.inj (Except.ok.inj hPair) with ⟨rfl, rfl⟩
  · have hConsumes : Json.Consumes codepointReader :=
      (Json.Consumes.naturalBelow _).map _
    exact ⟨(Json.mem_list_read hConsumes hValue).1, hDraft⟩
  · exact ⟨(Json.mem_list_read Json.Consumes.int64 hValue).1,
      hDraft⟩
  · refine ⟨Json.Consumes.binary64 _ _ _ hValue, ?_, hDraft.2⟩
    intro x hVersion
    obtain rfl := Option.some.inj hVersion
    exact writtenIn_of_read hPlace hValue
  · exact ⟨Json.Consumes.text _ _ _ hValue, hDraft⟩
  · refine ⟨consumes_scoresReader.nullable _ _ _ hValue,
      hDraft.1, ?_⟩
    intro scores hScores
    obtain rfl := Option.some.inj hScores
    exact writtenIn_of_nullable hPlace hValue

/- The numbers of a record that is read inside a text stand in it. -/
theorem numbersWritten_of_reader
    {r : Record}
    (hPlace : s <:+ text)
    (hRead : reader s = .ok (r, t)) :
    t <:+ s ∧ r.NumbersWritten text := by
  have hEmpty : Draft.empty.NumbersWritten text := by
    constructor
    · intro x hVersion
      cases hVersion
    · intro scores hScores
      cases hScores
  rcases Json.exists_draft_of_fields (keep_numbersWritten text)
    hEmpty hPlace hRead with ⟨hEnd, d, hDraft, hFinish⟩
  refine ⟨hEnd, ?_⟩
  simp only [Draft.finish, Option.bind_eq_bind,
    Option.bind_eq_some_iff, Option.some.injEq] at hFinish
  rcases hFinish with ⟨_, _, _, _, x, hVersion, rfl⟩
  refine ⟨hDraft.1 x hVersion, ?_⟩
  intro scores hScores
  apply hDraft.2 scores
  cases hCase : d.scores with
  | none =>
      simp [hCase] at hScores
  | some scores? =>
      simpa [hCase] using hScores

end Record

/- The numbers of a dataset stand in the text that it was read from. -/
theorem Dataset.numbersWritten_of_read
    {text : List UInt8}
    {d : Dataset}
    (hRead : Dataset.read text = .ok d)
    {r : Record}
    (hMember : r ∈ d.records) :
    r.NumbersWritten text := by
  unfold Dataset.read at hRead
  split at hRead
  · next rs hWhole =>
      rcases (bind_eq_ok_iff _ _ _).mp hWhole with
        ⟨⟨rs', rest⟩, hList, hEnd⟩
      obtain rfl : rs' = rs := by
        simp only at hEnd
        split at hEnd
        · exact Except.ok.inj hEnd
        · cases hEnd
      have hConsumes : Json.Consumes Record.reader := by
        intro s r t hOne
        exact (Record.numbersWritten_of_reader
          (List.suffix_refl s) hOne).1
      unfold validated at hRead
      split at hRead
      · cases hRead
      · obtain rfl := Except.ok.inj hRead
        rcases List.mem_map.mp hMember with ⟨q, hSource, rfl⟩
        rcases (Json.mem_list_read hConsumes hList).2 q hSource
          with ⟨u, v, hPlace, hOne⟩
        exact (Record.numbersWritten_of_reader hPlace hOne).2
  · cases hRead

end EmojiQuery
