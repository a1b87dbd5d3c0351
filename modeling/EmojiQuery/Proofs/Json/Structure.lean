import EmojiQuery.Proofs.Json.Consuming

/-
  What a list, a map or a structure holds was read somewhere
  inside its text. A structure has every property that its
  fields keep.

  Main declarations:
    * `Json.ReadWithin`
    * `Json.mem_list_read`
    * `Json.mem_entries_read`
    * `Json.Keep`
    * `Json.exists_draft_of_fields`
-/

------------------------------------------------------------
-- Lists and Objects
------------------------------------------------------------

namespace EmojiQuery

namespace Json

variable {α σ : Type}
variable {read : Reader α}
variable {s t : List UInt8}

/- A value was read at some place of a text. -/
def ReadWithin
    (read : Reader α)
    (s : List UInt8)
    (a : α) : Prop :=
  ∃ u v, u <:+ s ∧ read u = .ok (a, v)

theorem ReadWithin.mono
    {a : α}
    (hWithin : ReadWithin read s a)
    (hSuffix : s <:+ t) :
    ReadWithin read t a := by
  rcases hWithin with ⟨u, v, hPlace, hRead⟩
  exact ⟨u, v, hPlace.trans hSuffix, hRead⟩

/- The items of a list are read within it, one after the other. -/
theorem mem_items_read
    (hConsumes : Consumes read)
    {rounds : List UInt8}
    {first : Bool}
    {as : List α}
    (hRead : items read rounds first s = .ok (as, t)) :
    t <:+ s ∧ ∀ a ∈ as, ReadWithin read s a := by
  induction rounds generalizing first s as with
  | nil =>
      cases hRead
  | cons _ rounds ih =>
      rcases (andThen_eq_ok_iff _ _ _).mp hRead with
        ⟨more, u, hNext, hItems⟩
      have hStart := Consumes.nextItem first s more u hNext
      cases more with
      | false =>
          rcases Prod.mk.inj (Except.ok.inj hItems) with
            ⟨rfl, rfl⟩
          exact ⟨hStart, by simp⟩
      | true =>
          rcases (andThen_eq_ok_iff _ _ _).mp hItems with
            ⟨a, v, hItem, hRest⟩
          rcases (andThen_eq_ok_iff _ _ _).mp hRest with
            ⟨rest, w, hTail, hPair⟩
          rcases Prod.mk.inj (Except.ok.inj hPair) with ⟨rfl, rfl⟩
          have hHere := (hConsumes u a v hItem).trans hStart
          rcases ih hTail with ⟨hEnd, hMembers⟩
          refine ⟨hEnd.trans hHere, ?_⟩
          intro b hMember
          rcases List.mem_cons.mp hMember with rfl | hLater
          · exact ⟨u, v, hStart, hItem⟩
          · exact (hMembers b hLater).mono hHere

/- Behind a value only the bracket that closes it is taken. -/
theorem suffix_of_closing
    {closing : Reader Unit}
    (hClosing : Consumes closing)
    {a b : α}
    (hRead :
      ((pure a : Reader α) >>= fun a => closing >>= fun _ => pure a)
          s = .ok (b, t)) :
    t <:+ s ∧ a = b := by
  rcases (andThen_eq_ok_iff _ _ _).mp hRead with
    ⟨c, u, hValue, hRest⟩
  rcases Prod.mk.inj (Except.ok.inj hValue) with ⟨rfl, rfl⟩
  rcases (andThen_eq_ok_iff _ _ _).mp hRest with
    ⟨_, v, hClose, hPair⟩
  rcases Prod.mk.inj (Except.ok.inj hPair) with ⟨rfl, rfl⟩
  exact ⟨hClosing _ _ _ hClose, rfl⟩

/- What stands between brackets is read behind the first of them. -/
theorem exists_read_of_bracketed
    (body : List UInt8 → Reader α)
    {closing : Reader Unit}
    (hClosing : Consumes closing)
    {a : α}
    (hRead :
      (do
        advance
        let a ← body (← get)
        closing
        pure a : Reader α) s = .ok (a, t)) :
    ∃ u v, u <:+ s ∧ body u u = .ok (a, v) ∧ t <:+ v := by
  rcases (andThen_eq_ok_iff _ _ _).mp hRead with
    ⟨_, u, hOpen, hInside⟩
  have hStart := Consumes.advance _ _ _ hOpen
  rcases (andThen_eq_ok_iff _ _ _).mp hInside with
    ⟨rounds, v, hGet, hBody⟩
  rcases Prod.mk.inj (Except.ok.inj hGet) with ⟨rfl, rfl⟩
  rcases (andThen_eq_ok_iff _ _ _).mp hBody with
    ⟨b, w, hValue, hClose⟩
  rcases suffix_of_closing hClosing hClose with ⟨hEnd, rfl⟩
  exact ⟨u, w, hStart, hValue, hEnd⟩

theorem mem_list_read
    (hConsumes : Consumes read)
    {as : List α}
    (hRead : list read s = .ok (as, t)) :
    t <:+ s ∧ ∀ a ∈ as, ReadWithin read s a := by
  rcases exists_read_of_dispatch hRead with
    ⟨b, r, _, hReader, hValue⟩
  split at hReader
  · obtain rfl := Option.some.inj hReader
    rcases exists_read_of_bracketed
      (fun rounds => items read rounds true)
      Consumes.endList hValue with ⟨u, v, hStart, hItems, hEnd⟩
    have hPlace := hStart.trans (suffix_skipBlanks s)
    rcases mem_items_read hConsumes hItems with ⟨hRest, hMembers⟩
    refine ⟨hEnd.trans (hRest.trans hPlace), ?_⟩
    intro a hMember
    exact (hMembers a hMember).mono hPlace
  · cases hReader

/- The values of an object are read within it. -/
theorem mem_pairs_read
    (hConsumes : Consumes read)
    {rounds : List UInt8}
    {first : Bool}
    {es : List (String × α)}
    (hRead : pairs read rounds first s = .ok (es, t)) :
    t <:+ s ∧ ∀ e ∈ es, ReadWithin read s e.2 := by
  induction rounds generalizing first s es with
  | nil =>
      cases hRead
  | cons _ rounds ih =>
      rcases (andThen_eq_ok_iff _ _ _).mp hRead with
        ⟨more, u, hNext, hPairs⟩
      have hStart := Consumes.nextKey first s more u hNext
      cases more with
      | false =>
          rcases Prod.mk.inj (Except.ok.inj hPairs) with
            ⟨rfl, rfl⟩
          exact ⟨hStart, by simp⟩
      | true =>
          rcases (andThen_eq_ok_iff _ _ _).mp hPairs with
            ⟨k, v, hKey, hAfterKey⟩
          have hKeyEnd := (Consumes.key _ _ _ hKey).trans hStart
          rcases (andThen_eq_ok_iff _ _ _).mp hAfterKey with
            ⟨_, w, hColon, hAfterColon⟩
          have hPlace := (Consumes.colon _ _ _ hColon).trans hKeyEnd
          rcases (andThen_eq_ok_iff _ _ _).mp hAfterColon with
            ⟨a, x, hValue, hRest⟩
          rcases (andThen_eq_ok_iff _ _ _).mp hRest with
            ⟨rest, y, hTail, hPair⟩
          rcases Prod.mk.inj (Except.ok.inj hPair) with ⟨rfl, rfl⟩
          have hHere := (hConsumes w a x hValue).trans hPlace
          rcases ih hTail with ⟨hEnd, hMembers⟩
          refine ⟨hEnd.trans hHere, ?_⟩
          intro e hMember
          rcases List.mem_cons.mp hMember with rfl | hLater
          · exact ⟨w, x, hPlace, hValue⟩
          · exact (hMembers e hLater).mono hHere

theorem mem_entries_read
    (hConsumes : Consumes read)
    {es : List (String × α)}
    (hRead : entries read s = .ok (es, t)) :
    t <:+ s ∧ ∀ e ∈ es, ReadWithin read s e.2 := by
  rcases exists_read_of_dispatch hRead with
    ⟨b, r, _, hReader, hValue⟩
  split at hReader
  · obtain rfl := Option.some.inj hReader
    rcases exists_read_of_bracketed
      (fun rounds => pairs read rounds true)
      Consumes.endObject hValue with
      ⟨u, v, hStart, hPairs, hEnd⟩
    have hPlace := hStart.trans (suffix_skipBlanks s)
    rcases mem_pairs_read hConsumes hPairs with ⟨hRest, hMembers⟩
    refine ⟨hEnd.trans (hRest.trans hPlace), ?_⟩
    intro e hMember
    exact (hMembers e hMember).mono hPlace
  · cases hReader

end Json

end EmojiQuery

------------------------------------------------------------
-- Structures
------------------------------------------------------------

namespace EmojiQuery

namespace Json

variable {α σ : Type}
variable {P : σ → Prop}
variable {whole s t : List UInt8}
variable {fs : List (Field σ)}
variable {draft draft' : σ}

/-
  Fields that are read from ends of a text keep a property of
  drafts, and leave an end of it again.
-/
def Keep
    (whole : List UInt8)
    (P : σ → Prop)
    (fs : List (Field σ)) : Prop :=
  ∀ f ∈ fs, ∀ draft s draft' t,
    s <:+ whole → P draft → f.read draft s = .ok (draft', t) →
      t <:+ s ∧ P draft'

theorem keeps_objectFields
    (hKeep : Keep whole P fs)
    {rounds : List UInt8}
    {first : Bool}
    (hWhole : s <:+ whole)
    (hDraft : P draft)
    (hRead :
      objectFields fs rounds first draft s = .ok (draft', t)) :
    t <:+ s ∧ P draft' := by
  induction rounds generalizing first draft s with
  | nil =>
      cases hRead
  | cons _ rounds ih =>
      rcases (andThen_eq_ok_iff _ _ _).mp hRead with
        ⟨more, u, hNext, hFields⟩
      have hStart := Consumes.nextKey first s more u hNext
      cases more with
      | false =>
          rcases Prod.mk.inj (Except.ok.inj hFields) with
            ⟨rfl, rfl⟩
          exact ⟨hStart, hDraft⟩
      | true =>
          rcases (andThen_eq_ok_iff _ _ _).mp hFields with
            ⟨k, v, hKey, hAfterKey⟩
          have hKeyEnd := (Consumes.key _ _ _ hKey).trans hStart
          cases hFind : fs.find? fun f => f.name = k with
          | none =>
              simp only [hFind] at hAfterKey
              rcases (andThen_eq_ok_iff _ _ _).mp hAfterKey with
                ⟨_, w, hColon, hAfterColon⟩
              have hPlace :=
                (Consumes.colon _ _ _ hColon).trans hKeyEnd
              rcases (andThen_eq_ok_iff _ _ _).mp hAfterColon with
                ⟨_, x, hSkip, hRest⟩
              have hHere :=
                (Consumes.skipValue _ _ _ hSkip).trans hPlace
              rcases ih (hHere.trans hWhole) hDraft hRest with
                ⟨hEnd, hKept⟩
              exact ⟨hEnd.trans hHere, hKept⟩
          | some f =>
              simp only [hFind] at hAfterKey
              split at hAfterKey
              · cases hAfterKey
              · rcases (andThen_eq_ok_iff _ _ _).mp hAfterKey with
                  ⟨_, w, hColon, hAfterColon⟩
                have hPlace :=
                  (Consumes.colon _ _ _ hColon).trans hKeyEnd
                rcases (andThen_eq_ok_iff _ _ _).mp hAfterColon
                  with ⟨next, x, hField, hRest⟩
                rcases hKeep f (List.mem_of_find?_eq_some hFind)
                    draft w next x (hPlace.trans hWhole) hDraft
                    hField with
                  ⟨hValue, hNextDraft⟩
                have hHere := hValue.trans hPlace
                rcases ih (hHere.trans hWhole) hNextDraft hRest
                  with ⟨hEnd, hKept⟩
                exact ⟨hEnd.trans hHere, hKept⟩

theorem keeps_listFields
    (hKeep : Keep whole P fs)
    {first : Bool}
    (hWhole : s <:+ whole)
    (hDraft : P draft)
    (hRead : listFields fs first draft s = .ok (draft', t)) :
    t <:+ s ∧ P draft' := by
  induction fs generalizing first draft s with
  | nil =>
      rcases Prod.mk.inj (Except.ok.inj hRead) with ⟨rfl, rfl⟩
      exact ⟨List.suffix_refl _, hDraft⟩
  | cons f fs ih =>
      have hHead := hKeep f List.mem_cons_self
      have hTail : Keep whole P fs := by
        intro g hMember
        exact hKeep g (List.mem_cons_of_mem f hMember)
      rcases (andThen_eq_ok_iff _ _ _).mp hRead with
        ⟨more, u, hNext, hFields⟩
      have hStart := Consumes.nextItem first s more u hNext
      cases more with
      | false =>
          rcases Prod.mk.inj (Except.ok.inj hFields) with
            ⟨rfl, rfl⟩
          exact ⟨hStart, hDraft⟩
      | true =>
          rcases (andThen_eq_ok_iff _ _ _).mp hFields with
            ⟨next, v, hField, hRest⟩
          rcases hHead draft u next v (hStart.trans hWhole) hDraft
            hField with ⟨hValue, hNextDraft⟩
          have hHere := hValue.trans hStart
          rcases ih hTail (hHere.trans hWhole) hNextDraft hRest
            with ⟨hEnd, hKept⟩
          exact ⟨hEnd.trans hHere, hKept⟩

/-
  A structure is finished from a draft that has every property
  which its fields keep.
-/
theorem exists_draft_of_fields
    (hKeep : Keep whole P fs)
    (hDraft : P draft)
    {finish : σ → Option α}
    {a : α}
    (hWhole : s <:+ whole)
    (hRead : fields fs draft finish s = .ok (a, t)) :
    t <:+ s ∧ ∃ last, P last ∧ finish last = some a := by
  rcases exists_read_of_dispatch hRead with
    ⟨b, r, _, hReader, hValue⟩
  have hBlanks := suffix_skipBlanks s
  split at hReader
  · obtain rfl := Option.some.inj hReader
    rcases (andThen_eq_ok_iff _ _ _).mp hValue with
      ⟨_, u, hOpen, hInside⟩
    have hStart := (Consumes.advance _ _ _ hOpen).trans hBlanks
    rcases (andThen_eq_ok_iff _ _ _).mp hInside with
      ⟨last, v, hFields, hComplete⟩
    rcases keeps_listFields hKeep (hStart.trans hWhole) hDraft
      hFields with ⟨hRest, hLast⟩
    cases hCase : finish last with
    | none =>
        simp only [hCase] at hComplete
        cases hComplete
    | some c =>
        simp only [hCase] at hComplete
        rcases suffix_of_closing Consumes.endList hComplete with
          ⟨hEnd, rfl⟩
        exact ⟨hEnd.trans (hRest.trans hStart), last, hLast,
          hCase⟩
  · split at hReader
    · obtain rfl := Option.some.inj hReader
      rcases (andThen_eq_ok_iff _ _ _).mp hValue with
        ⟨_, u, hOpen, hInside⟩
      have hStart := (Consumes.advance _ _ _ hOpen).trans hBlanks
      rcases (andThen_eq_ok_iff _ _ _).mp hInside with
        ⟨rounds, v, hGet, hObject⟩
      rcases Prod.mk.inj (Except.ok.inj hGet) with ⟨rfl, rfl⟩
      rcases (andThen_eq_ok_iff _ _ _).mp hObject with
        ⟨last, w, hFields, hComplete⟩
      rcases keeps_objectFields hKeep (hStart.trans hWhole) hDraft
        hFields with ⟨hRest, hLast⟩
      cases hCase : finish last with
      | none =>
          simp only [hCase] at hComplete
          cases hComplete
      | some c =>
          simp only [hCase] at hComplete
          rcases suffix_of_closing Consumes.endObject hComplete
            with ⟨hEnd, rfl⟩
          exact ⟨hEnd.trans (hRest.trans hStart), last, hLast,
            hCase⟩
    · cases hReader

end Json

end EmojiQuery
