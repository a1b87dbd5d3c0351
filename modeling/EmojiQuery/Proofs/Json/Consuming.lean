import EmojiQuery.Proofs.Json.Literal

/-
  Readers take bytes from the front of a text only, so that
  what they leave is an end of it.

  Main declarations:
    * `Json.Consumes`
    * `Json.Consumes.string`
    * `Json.Consumes.skipValue`
    * `Json.Consumes.binary64`
-/

------------------------------------------------------------
-- Scalars
------------------------------------------------------------

namespace EmojiQuery

namespace Json

variable {s t : List UInt8}

/- What is left as it was is an end of itself. -/
theorem suffix_of_ok
    {α : Type}
    {a b : α}
    (hRead :
      (.ok (a, s) : Except Fault (α × List UInt8)) =
        .ok (b, t)) :
    t <:+ s := by
  obtain rfl := (Prod.mk.inj (Except.ok.inj hRead)).2
  exact List.suffix_refl _

theorem suffix_of_ok_rest
    (hRead : (.ok s : Except Fault (List UInt8)) = .ok t) :
    t <:+ s := by
  obtain rfl := Except.ok.inj hRead
  exact List.suffix_refl _

/- Blanks are dropped from the front. -/
theorem suffix_skipBlanks
    (s : List UInt8) :
    skipBlanks s <:+ s := by
  rcases exists_blanks s with ⟨blanks, _, hText⟩
  exact ⟨blanks, hText.symm⟩

theorem suffix_of_readWord
    {cs : List Char}
    (hRead : readWord cs s = .ok t) :
    t <:+ s := by
  induction cs generalizing s with
  | nil =>
      exact suffix_of_ok_rest hRead
  | cons c cs ih =>
      cases s with
      | nil =>
          cases hRead
      | cons b s =>
          rw [readWord] at hRead
          split at hRead
          · exact (ih hRead).trans (List.suffix_cons b s)
          · cases hRead

theorem suffix_of_readUnit
    {n : Nat}
    (hRead : readUnit s = .ok (n, t)) :
    t <:+ s := by
  unfold readUnit at hRead
  split at hRead
  · split at hRead
    · obtain rfl := (Prod.mk.inj (Except.ok.inj hRead)).2
      exact ⟨[_, _, _, _], rfl⟩
    · cases hRead
  · cases hRead

theorem suffix_of_readNumbered
    {bs : List UInt8}
    (hRead : readNumbered s = .ok (bs, t)) :
    t <:+ s := by
  rcases (bind_eq_ok_iff _ _ _).mp hRead with
    ⟨⟨n, u⟩, hUnit, hRest⟩
  apply List.IsSuffix.trans _ (suffix_of_readUnit hUnit)
  simp only at hRest
  split at hRest
  · cases hRest
  · split at hRest
    · -- The second half of a pair, behind a backslash and `u`.
      cases u with
      | nil =>
          cases hRest
      | cons b u =>
          apply List.IsSuffix.trans _ (List.suffix_cons b u)
          simp only at hRest
          split at hRest
          · cases hRest
          · cases u with
            | nil =>
                cases hRest
            | cons c u =>
                apply List.IsSuffix.trans _ (List.suffix_cons c u)
                simp only at hRest
                split at hRest
                · cases hRest
                · rcases (bind_eq_ok_iff _ _ _).mp hRest with
                    ⟨⟨m, v⟩, hLow, hPair⟩
                  simp only at hPair
                  split at hPair
                  · obtain rfl :=
                      (Prod.mk.inj (Except.ok.inj hPair)).2
                    exact suffix_of_readUnit hLow
                  · cases hPair
    · exact suffix_of_ok hRest

theorem suffix_of_readEscape
    {bs : List UInt8}
    (hRead : readEscape s = .ok (bs, t)) :
    t <:+ s := by
  cases s with
  | nil =>
      cases hRead
  | cons b s =>
      apply List.IsSuffix.trans _ (List.suffix_cons b s)
      rw [readEscape] at hRead
      split at hRead
      · exact suffix_of_readNumbered hRead
      · split at hRead
        · exact suffix_of_ok hRead
        · cases hRead

theorem suffix_of_readStringBytes
    {rounds bs : List UInt8}
    (hRead : readStringBytes rounds s = .ok (bs, t)) :
    t <:+ s := by
  induction rounds generalizing s bs with
  | nil =>
      cases s with
      | nil | cons b s =>
          cases hRead
  | cons _ rounds ih =>
      cases s with
      | nil =>
          cases hRead
      | cons b s =>
          apply List.IsSuffix.trans _ (List.suffix_cons b s)
          rw [readStringBytes] at hRead
          split at hRead
          · exact suffix_of_ok hRead
          · split at hRead
            · rcases (bind_eq_ok_iff _ _ _).mp hRead with
                ⟨⟨c, u⟩, hEscape, hRest⟩
              rcases (bind_eq_ok_iff _ _ _).mp hRest with
                ⟨⟨cs, v⟩, hString, hPair⟩
              obtain rfl := (Prod.mk.inj (Except.ok.inj hPair)).2
              exact (ih hString).trans
                (suffix_of_readEscape hEscape)
            · split at hRead
              · cases hRead
              · rcases (bind_eq_ok_iff _ _ _).mp hRead with
                  ⟨⟨cs, v⟩, hString, hPair⟩
                obtain rfl :=
                  (Prod.mk.inj (Except.ok.inj hPair)).2
                exact ih hString

end Json

end EmojiQuery

------------------------------------------------------------
-- Values of No Interest
------------------------------------------------------------

namespace EmojiQuery

namespace Json

variable {s t : List UInt8}
variable {outer : List Bracket}
variable {b : UInt8}
variable {p : Place}

theorem suffix_of_skipEscape
    (hRead : skipEscape s = .ok t) :
    t <:+ s := by
  cases s with
  | nil =>
      cases hRead
  | cons b s =>
      apply List.IsSuffix.trans _ (List.suffix_cons b s)
      rw [skipEscape] at hRead
      split at hRead
      · rcases (map_eq_ok_iff _ _ _).mp hRead with
          ⟨⟨n, u⟩, hUnit, rfl⟩
        exact suffix_of_readUnit hUnit
      · split at hRead
        · exact suffix_of_ok_rest hRead
        · cases hRead

theorem suffix_of_skipStringBytes
    {rounds : List UInt8}
    (hRead : skipStringBytes rounds s = .ok t) :
    t <:+ s := by
  induction rounds generalizing s with
  | nil =>
      cases s with
      | nil | cons b s =>
          cases hRead
  | cons _ rounds ih =>
      cases s with
      | nil =>
          cases hRead
      | cons b s =>
          apply List.IsSuffix.trans _ (List.suffix_cons b s)
          rw [skipStringBytes] at hRead
          split at hRead
          · exact suffix_of_ok_rest hRead
          · split at hRead
            · rcases (bind_eq_ok_iff _ _ _).mp hRead with
                ⟨u, hEscape, hRest⟩
              exact (ih hRest).trans (suffix_of_skipEscape hEscape)
            · split at hRead
              · cases hRead
              · exact ih hRead

theorem suffix_dropDigits
    (s : List UInt8) :
    dropDigits s <:+ s :=
  List.dropWhile_suffix isDigit

theorem suffix_of_skipDigits
    (hRead : skipDigits s = .ok t) :
    t <:+ s := by
  unfold skipDigits at hRead
  split at hRead
  · obtain rfl := Except.ok.inj hRead
    exact suffix_dropDigits s
  · cases hRead

theorem suffix_of_skipTail
    (hRead : skipTail s = .ok t) :
    t <:+ s := by
  have hExponent :
      ∀ {u : List UInt8}, skipExponent u = .ok t → t <:+ u := by
    intro u hExponent
    cases u with
    | nil =>
        cases hExponent
    | cons b u =>
        rw [skipExponent] at hExponent
        split at hExponent
        · exact (suffix_of_skipDigits hExponent).trans
            (List.suffix_cons b u)
        · exact suffix_of_skipDigits hExponent
  cases s with
  | nil =>
      exact suffix_of_ok_rest hRead
  | cons b s =>
      rw [skipTail] at hRead
      split at hRead
      · exact (hExponent hRead).trans (List.suffix_cons b s)
      · exact suffix_of_ok_rest hRead

theorem suffix_of_skipReal
    (hRead : skipReal s = .ok t) :
    t <:+ s := by
  cases s with
  | nil =>
      exact suffix_of_ok_rest hRead
  | cons b s =>
      rw [skipReal] at hRead
      split at hRead
      · rcases (bind_eq_ok_iff _ _ _).mp hRead with
          ⟨u, hDigits, hTail⟩
        exact (suffix_of_skipTail hTail).trans
          ((suffix_of_skipDigits hDigits).trans
            (List.suffix_cons b s))
      · exact suffix_of_skipTail hRead

theorem suffix_of_skipNumber
    (hRead : skipNumber s = .ok t) :
    t <:+ s := by
  cases s with
  | nil =>
      cases hRead
  | cons b s =>
      apply List.IsSuffix.trans _ (List.suffix_cons b s)
      rw [skipNumber] at hRead
      split at hRead
      · split at hRead
        · cases hRead
        · exact suffix_of_skipReal hRead
      · split at hRead
        · exact (suffix_of_skipReal hRead).trans
            (suffix_dropDigits s)
        · cases hRead

/- What starts with a byte ends behind it. -/
theorem suffix_of_skipStart
    (hRead : skipStart outer b s = .ok p) :
    p.rest <:+ b :: s := by
  have hAfter :
      ∀ {r : Except Fault (List UInt8)} {u : List UInt8},
        (∀ v, r = .ok v → v <:+ u) →
          u <:+ b :: s →
            (r.map fun v => (⟨.next, outer, v⟩ : Place)) = .ok p →
              p.rest <:+ b :: s := by
    intro r u hSuffix hWithin hMap
    rcases (map_eq_ok_iff _ _ _).mp hMap with ⟨v, hValue, rfl⟩
    exact (hSuffix v hValue).trans hWithin
  have hTail : s <:+ b :: s := List.suffix_cons b s
  unfold skipStart at hRead
  simp only at hRead
  split at hRead
  · exact hAfter (fun _ => suffix_of_readWord) hTail hRead
  · split at hRead
    · exact hAfter (fun _ => suffix_of_readWord) hTail hRead
    · split at hRead
      · exact hAfter (fun _ => suffix_of_readWord) hTail hRead
      · split at hRead
        · exact hAfter (fun _ => suffix_of_skipNumber) hTail hRead
        · split at hRead
          · exact hAfter (fun _ => suffix_of_skipNumber)
              (List.suffix_refl _) hRead
          · split at hRead
            · exact hAfter (fun _ => suffix_of_skipStringBytes)
                hTail hRead
            · split at hRead
              · obtain rfl := Except.ok.inj hRead
                exact hTail
              · split at hRead
                · obtain rfl := Except.ok.inj hRead
                  exact hTail
                · cases hRead

theorem suffix_of_skipItem
    (hRead : skipItem outer b s = .ok p) :
    p.rest <:+ b :: s := by
  unfold skipItem at hRead
  split at hRead
  · split at hRead
    · rcases (bind_eq_ok_iff _ _ _).mp hRead with
        ⟨u, hString, hColon⟩
      have hKey : u <:+ b :: s :=
        (suffix_of_skipStringBytes hString).trans
          (List.suffix_cons b s)
      have hBlanks := suffix_skipBlanks u
      unfold skipColon at hColon
      split at hColon
      · cases hColon
      · next c v hText =>
          split at hColon
          · obtain rfl := Except.ok.inj hColon
            rw [hText] at hBlanks
            exact (List.suffix_cons c v).trans
              (hBlanks.trans hKey)
          · cases hColon
    · cases hRead
  · exact suffix_of_skipStart hRead

theorem suffix_of_skipNext
    {expected : Expected}
    (hRead : skipNext outer b s expected = .ok p) :
    p.rest <:+ b :: s := by
  have hTail : s <:+ b :: s := List.suffix_cons b s
  cases expected with
  | value =>
      exact suffix_of_skipStart hRead
  | item =>
      exact suffix_of_skipItem hRead
  | first =>
      rw [skipNext] at hRead
      split at hRead
      · obtain rfl := Except.ok.inj hRead
        exact hTail
      · exact suffix_of_skipItem hRead
  | next =>
      rw [skipNext] at hRead
      split at hRead
      · obtain rfl := Except.ok.inj hRead
        exact hTail
      · split at hRead
        · obtain rfl := Except.ok.inj hRead
          exact hTail
        · cases hRead

theorem suffix_of_skipRounds
    {rounds : List UInt8}
    (hRead : skipRounds rounds p = .ok t) :
    t <:+ p.rest := by
  induction rounds generalizing p with
  | nil =>
      rw [skipRounds] at hRead
      split at hRead
      · exact suffix_of_ok_rest hRead
      · cases hRead
  | cons _ rounds ih =>
      rw [skipRounds] at hRead
      split at hRead
      · exact suffix_of_ok_rest hRead
      · have hBlanks := suffix_skipBlanks p.rest
        split at hRead
        · cases hRead
        · next b s hText =>
            rcases (bind_eq_ok_iff _ _ _).mp hRead with
              ⟨q, hNext, hRest⟩
            rw [hText] at hBlanks
            exact (ih hRest).trans
              ((suffix_of_skipNext hNext).trans hBlanks)

end Json

end EmojiQuery

------------------------------------------------------------
-- Readers
------------------------------------------------------------

namespace EmojiQuery

namespace Json

variable {α β : Type}

/- What a reader leaves is an end of what it is given. -/
def Consumes
    (read : Reader α) : Prop :=
  ∀ s a t, read s = .ok (a, t) → t <:+ s

namespace Consumes

theorem pure
    (a : α) :
    Consumes (Pure.pure a : Reader α) := by
  intro s b t hRead
  exact suffix_of_ok hRead

theorem throw
    (e : Fault) :
    Consumes (MonadExcept.throw e : Reader α) := by
  intro s b t hRead
  cases hRead

theorem bind
    {read : Reader α}
    {next : α → Reader β}
    (hRead : Consumes read)
    (hNext : ∀ a, Consumes (next a)) :
    Consumes (read >>= next) := by
  intro s b t hBoth
  rcases (andThen_eq_ok_iff _ _ _).mp hBoth with
    ⟨a, u, hFirst, hSecond⟩
  exact (hNext a u b t hSecond).trans (hRead s a u hFirst)

theorem map
    (f : α → β)
    {read : Reader α}
    (hRead : Consumes read) :
    Consumes (f <$> read) := by
  intro s b t hMap
  rcases (map_eq_ok_iff_read _ _ _).mp hMap with ⟨a, hValue, _⟩
  exact hRead s a t hValue

theorem token :
    Consumes Json.token := by
  intro s b? t hRead
  obtain rfl := (Prod.mk.inj (Except.ok.inj hRead)).2
  exact suffix_skipBlanks s

theorem advance :
    Consumes Json.advance := by
  intro s u t hRead
  obtain rfl := (Prod.mk.inj (Except.ok.inj hRead)).2
  exact List.tail_suffix s

theorem word
    (rest : String) :
    Consumes (Json.word rest) := by
  intro s u t hRead
  rcases (map_eq_ok_iff _ _ _).mp hRead with ⟨v, hWord, hPair⟩
  obtain rfl := (Prod.mk.inj hPair).2
  exact suffix_of_readWord hWord

theorem string :
    Consumes Json.string := by
  intro s text t hRead
  rcases (bind_eq_ok_iff _ _ _).mp hRead with
    ⟨⟨bs, u⟩, hBytes, hText⟩
  simp only at hText
  split at hText
  · obtain rfl := (Prod.mk.inj (Except.ok.inj hText)).2
    exact suffix_of_readStringBytes hBytes
  · cases hText

theorem number :
    Consumes Json.number := by
  intro s v t hRead
  rcases exists_literal_of_number hRead with ⟨T, hText, _⟩
  exact ⟨T.chars.map byte, hText.symm⟩

theorem skipValue :
    Consumes Json.skipValue := by
  intro s u t hRead
  rcases (map_eq_ok_iff _ _ _).mp hRead with ⟨v, hSkip, hPair⟩
  obtain rfl := (Prod.mk.inj hPair).2
  exact suffix_of_skipRounds hSkip

theorem dispatch
    {read : UInt8 → Option (Reader α)}
    (hRead : ∀ b r, read b = some r → Consumes r) :
    Consumes (Json.dispatch read) := by
  intro s a t hDispatch
  rcases exists_read_of_dispatch hDispatch with
    ⟨b, r, _, hReader, hValue⟩
  exact (hRead b r hReader _ a t hValue).trans
    (suffix_skipBlanks s)

/- A reader that goes on by the next byte. -/
theorem byToken
    {next : Option UInt8 → Reader α}
    (hNone : Consumes (next none))
    (hSome : ∀ b, Consumes (next (some b))) :
    Consumes (Json.token >>= next) := by
  apply token.bind
  intro b?
  cases b? with
  | none =>
      exact hNone
  | some b =>
      exact hSome b

theorem anyNumber :
    Consumes Json.anyNumber := by
  apply dispatch
  intro b r hReader
  split at hReader
  · obtain rfl := Option.some.inj hReader
    exact number
  · cases hReader

theorem text :
    Consumes Json.text := by
  apply dispatch
  intro b r hReader
  split at hReader
  · obtain rfl := Option.some.inj hReader
    exact advance.bind fun _ => string
  · cases hReader

theorem naturalBelow
    (bound : Nat) :
    Consumes (Json.naturalBelow bound) := by
  apply anyNumber.bind
  intro v
  cases v with
  | natural n =>
      simp only
      split
      · exact pure n
      · exact throw _
  | negative i | real x =>
      exact throw _

theorem int64 :
    Consumes Json.int64 := by
  apply anyNumber.bind
  intro v
  cases v with
  | natural n | negative i =>
      simp only
      split
      · exact pure _
      · exact throw _
  | real x =>
      exact throw _

theorem binary64 :
    Consumes Json.binary64 := by
  apply anyNumber.bind
  intro v
  cases v with
  | natural n | negative i | real x =>
      exact pure _

theorem nullable
    {read : Reader α}
    (hRead : Consumes read) :
    Consumes (Json.nullable read) := by
  apply token.bind
  intro b?
  split
  · apply advance.bind
    intro _
    apply (word _).bind
    intro _
    exact pure none
  · exact hRead.map some

theorem nextItem
    (first : Bool) :
    Consumes (Json.nextItem first) := by
  apply byToken
  · exact throw _
  · intro b
    simp only
    split
    · exact pure false
    · split
      · exact pure true
      · split
        · apply advance.bind
          intro _
          apply byToken
          · exact throw _
          · intro c
            simp only
            split
            · exact throw _
            · exact pure true
        · exact throw _

theorem nextKey
    (first : Bool) :
    Consumes (Json.nextKey first) := by
  apply byToken
  · exact throw _
  · intro b
    simp only
    split
    · exact pure false
    · split
      · split
        · exact pure true
        · exact throw _
      · split
        · apply advance.bind
          intro _
          apply byToken
          · exact throw _
          · intro c
            simp only
            split
            · exact pure true
            · exact throw _
        · exact throw _

/- Take one byte that must come next. -/
theorem expect
    (wanted : UInt8) :
    Consumes
      (do
        match ← Json.token with
        | none => MonadExcept.throw .ending
        | some b =>
            if b = wanted then
              Json.advance
            else
              MonadExcept.throw .grammar : Reader Unit) := by
  apply byToken
  · exact throw _
  · intro b
    simp only
    split
    · exact advance
    · exact throw _

theorem endList :
    Consumes Json.endList :=
  expect _

theorem endObject :
    Consumes Json.endObject :=
  expect _

theorem colon :
    Consumes Json.colon :=
  expect _

theorem key :
    Consumes Json.key :=
  advance.bind fun _ => string

end Consumes

end Json

end EmojiQuery
