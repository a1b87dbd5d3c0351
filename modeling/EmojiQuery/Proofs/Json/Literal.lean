import EmojiQuery.Proofs.Json.Number

/-
  What is read as a number is a literal: nothing but blanks
  stands before it, and what is left does not continue it.

  Main declarations:
    * `Json.andThen_eq_ok_iff`
    * `Json.exists_literal_of_number`
    * `Json.exists_loads_of_binary64`
-/

------------------------------------------------------------
-- Readers
------------------------------------------------------------

namespace EmojiQuery

namespace Json

variable {α β : Type}
variable {s rest : List UInt8}

/- Two readers succeed one after the other. -/
theorem andThen_eq_ok_iff
    (read : Reader α)
    (next : α → Reader β)
    (b : β) :
    (read >>= next) s = .ok (b, rest) ↔
      ∃ a t, read s = .ok (a, t) ∧ next a t = .ok (b, rest) := by
  change (read s >>= fun p => next p.1 p.2) = _ ↔ _
  rw [bind_eq_ok_iff, Prod.exists]

/- A converted value was read before it was converted. -/
theorem map_eq_ok_iff_read
    (f : α → β)
    (read : Reader α)
    (b : β) :
    (f <$> read) s = .ok (b, rest) ↔
      ∃ a, read s = .ok (a, rest) ∧ f a = b := by
  change (read s >>= fun p => pure (f p.1, p.2)) = _ ↔ _
  rw [bind_eq_ok_iff, Prod.exists]
  simp [pure, Except.pure]

/- A value of the wrong kind is never read. -/
theorem refuse_ne_ok
    (a : α) :
    (refuse : Reader α) s ≠ .ok (a, rest) := by
  intro hRead
  rcases (andThen_eq_ok_iff _ _ _).mp hRead with ⟨e, t, _, hThrow⟩
  cases hThrow

/- A value is read by the reader for its first byte. -/
theorem exists_read_of_dispatch
    {read : UInt8 → Option (Reader α)}
    {a : α}
    (hRead : dispatch read s = .ok (a, rest)) :
    ∃ b r, (skipBlanks s).head? = some b ∧ read b = some r ∧
      r (skipBlanks s) = .ok (a, rest) := by
  rcases (andThen_eq_ok_iff _ _ _).mp hRead with
    ⟨b?, t, hToken, hValue⟩
  rw [token, Except.ok.injEq, Prod.mk.injEq] at hToken
  rcases hToken with ⟨rfl, rfl⟩
  cases hHead : (skipBlanks s).head? with
  | none =>
      rw [hHead] at hValue
      cases hValue
  | some b =>
      simp only [hHead] at hValue
      refine ⟨b, ?_⟩
      cases hReader : read b with
      | none =>
          rw [hReader] at hValue
          exact absurd hValue (refuse_ne_ok a)
      | some r =>
          rw [hReader] at hValue
          exact ⟨r, rfl, rfl, hValue⟩

/- Only blanks are dropped before a value. -/
theorem exists_blanks
    (s : List UInt8) :
    ∃ blanks, (∀ b ∈ blanks, isBlank b = true) ∧
      s = blanks ++ skipBlanks s := by
  induction s with
  | nil =>
      exact ⟨[], by simp, rfl⟩
  | cons b s ih =>
      rw [skipBlanks]
      split
      · next hBlank =>
          rcases ih with ⟨blanks, hBlanks, hText⟩
          refine ⟨b :: blanks, ?_, ?_⟩
          · rw [List.forall_mem_cons]
            exact ⟨hBlank, hBlanks⟩
          · rw [List.cons_append, ← hText]
      · exact ⟨[], by simp, rfl⟩

end Json

end EmojiQuery

------------------------------------------------------------
-- Numbers That Are Read
------------------------------------------------------------

namespace EmojiQuery

namespace Json

variable {negative : Bool}
variable {n : Nat}
variable {exp : Int}
variable {s rest : List UInt8}
variable {x : Binary64}

/- Whatever becomes of an exponent, its digits are taken. -/
theorem eq_of_exponent_ok
    {up : Bool}
    {e : Nat}
    {c : UInt8}
    {t : List UInt8}
    {y : Binary64}
    {z : Except Fault Binary64}
    (hRead :
      (if isDigit c then
        if maxExponent < e then
          if up && n ≠ 0 then .error .grammar else .ok (y, t)
        else
          z >>= fun x => .ok (x, t)
      else
        .error .grammar) = Except.ok (x, rest)) :
    isDigit c = true ∧ t = rest := by
  split at hRead
  · next hDigit =>
      refine ⟨hDigit, ?_⟩
      split at hRead
      · split at hRead
        · cases hRead
        · rw [Except.ok.injEq, Prod.mk.injEq] at hRead
          exact hRead.2
      · cases z with
        | error e =>
            cases hRead
        | ok z =>
            simp only [bind, Except.bind, Except.ok.injEq,
              Prod.mk.injEq] at hRead
            exact hRead.2
  · cases hRead

/- An exponent that is read is a sign and digits. -/
theorem exists_digits_of_readExponent
    (hRead : readExponent negative n exp s = .ok (x, rest)) :
    Stops rest ∧
      ∃ (sign : Literal.Sign) (ds : Digits),
        s = (sign.chars ++ ds.chars).map byte ++ rest := by
  have hTake :
      ∀ {c : UInt8} {t : List UInt8},
        isDigit c = true ∧ dropDigits (c :: t) = rest →
          Stops rest ∧
            ∃ ds : Digits, c :: t = ds.chars.map byte ++ rest := by
    rintro c t ⟨hDigit, rfl⟩
    exact ⟨stops_dropDigits _, exists_digits hDigit⟩
  have hSigns : byte '-' ≠ byte '+' := by
    decide
  cases s with
  | nil =>
      cases hRead
  | cons b t =>
      by_cases hPlus : b = byte '+'
      · subst hPlus
        cases t with
        | nil =>
            simp [readExponent] at hRead
        | cons c t =>
            simp only [readExponent, if_true] at hRead
            rcases hTake (eq_of_exponent_ok hRead) with
              ⟨hStop, ds, hText⟩
            refine ⟨hStop, .plus, ds, ?_⟩
            rw [hText]
            rfl
      · by_cases hMinus : b = byte '-'
        · subst hMinus
          cases t with
          | nil =>
              simp [readExponent, hSigns] at hRead
          | cons c t =>
              simp only [readExponent, hSigns, if_false, if_true]
                at hRead
              rcases hTake (eq_of_exponent_ok hRead) with
                ⟨hStop, ds, hText⟩
              refine ⟨hStop, .minus, ds, ?_⟩
              rw [hText]
              rfl
        · simp only [readExponent, hPlus, hMinus, if_false]
            at hRead
          rcases hTake (eq_of_exponent_ok hRead) with
            ⟨hStop, ds, hText⟩
          exact ⟨hStop, .none, ds, hText⟩

/- Behind the digits of a number stands a power, or none begins. -/
theorem exists_power_of_readTail
    (hStop : Stops s)
    (hRead : readTail negative n exp s = .ok (x, rest)) :
    Stops rest ∧
      ∃ power : Option Literal.Power,
        s = (power.elim [] Literal.Power.chars).map byte ++ rest ∧
          (power = none →
            ∀ b, rest.head? = some b →
              b ≠ byte 'e' ∧ b ≠ byte 'E') := by
  have hNone :
      (scaled negative n exp).map (·, s) = .ok (x, rest) →
        s = rest := by
    intro hScaled
    rcases (map_eq_ok_iff _ _ _).mp hScaled with ⟨_, _, hPair⟩
    exact (Prod.mk.inj hPair).2
  cases s with
  | nil =>
      obtain rfl := hNone hRead
      exact ⟨hStop, none, rfl, by simp⟩
  | cons b t =>
      rw [readTail] at hRead
      split at hRead
      · next hMark =>
          rcases exists_digits_of_readExponent hRead with
            ⟨hRest, sign, ds, rfl⟩
          refine ⟨hRest, ?_⟩
          simp only [Bool.or_eq_true, decide_eq_true_eq] at hMark
          rcases hMark with rfl | rfl
          · exact ⟨some ⟨false, sign, ds⟩, rfl, by simp⟩
          · exact ⟨some ⟨true, sign, ds⟩, rfl, by simp⟩
      · next hMark =>
          obtain rfl := hNone hRead
          refine ⟨hStop, none, rfl, ?_⟩
          intro _ c hHead
          obtain rfl := Option.some.inj hHead
          simpa using hMark

variable {whole : Digits}
variable (hZero : whole.chars.head? = some '0' → whole.chars = ['0'])

include hZero

/- Whole digits, a fraction and a power make up a literal. -/
theorem exists_literal_of_readReal
    (sign : Bool)
    (hStop : Stops s)
    (hRead : readReal negative n exp s = .ok (x, rest)) :
    ∃ T : Literal, T.negative = sign ∧ T.whole = whole ∧
      s = (T.pointChars ++ T.powerChars).map byte ++ rest ∧
        T.Ends rest := by
  by_cases hPoint : s.head? = some (byte '.')
  · rcases List.head?_eq_some_iff.mp hPoint with ⟨t, rfl⟩
    rw [readReal, if_pos rfl] at hRead
    cases t with
    | nil =>
        cases hRead
    | cons c t =>
        rw [readFraction] at hRead
        split at hRead
        · next hDigit =>
            simp only [dropDigits_takeDigits] at hRead
            rcases exists_digits (s := t) hDigit with
              ⟨ds, hDigits⟩
            rcases exists_power_of_readTail
              (stops_dropDigits _) hRead with
              ⟨hRest, power, hPower, hNone⟩
            refine ⟨⟨sign, whole, some ds, power, hZero⟩,
              rfl, rfl, ?_, hRest, hNone, by simp⟩
            rw [hDigits, hPower]
            simp [Literal.pointChars, Literal.powerChars]
        · cases hRead
  · have hOther : ∀ b, s.head? = some b → b ≠ byte '.' := by
      rintro b hHead rfl
      exact hPoint hHead
    rw [readReal_of_head hOther] at hRead
    rcases exists_power_of_readTail hStop hRead with
      ⟨hRest, power, hText, hNone⟩
    refine ⟨⟨sign, whole, none, power, hZero⟩, rfl, rfl, hText,
      hRest, hNone, ?_⟩
    rintro _ rfl
    rw [hText] at hOther
    exact hOther

/- An integer is a literal of whole digits only. -/
theorem exists_literal_of_readInteger
    (sign : Bool)
    (hStop : Stops s)
    {v : Number}
    (hRead : readInteger negative n s = .ok (v, rest)) :
    ∃ T : Literal, T.negative = sign ∧ T.whole = whole ∧
      s = (T.pointChars ++ T.powerChars).map byte ++ rest ∧
        T.Ends rest := by
  unfold readInteger at hRead
  split at hRead
  · rcases (map_eq_ok_iff _ _ _).mp hRead with
      ⟨⟨x, t⟩, hReal, hPair⟩
    obtain rfl : t = rest := (Prod.mk.inj hPair).2
    exact exists_literal_of_readReal hZero sign hStop hReal
  · next hInteger =>
      rw [Except.ok.injEq, Prod.mk.injEq] at hRead
      obtain rfl : s = rest := hRead.2
      have hOther :
          ∀ b, s.head? = some b → continuesInteger b = false := by
        intro b hHead
        simpa [hHead] using hInteger
      simp only [continuesInteger, Bool.or_eq_false_iff,
        decide_eq_false_iff_not] at hOther
      refine ⟨⟨sign, whole, none, none, hZero⟩, rfl, rfl, rfl,
        hStop, ?_, ?_⟩
      · intro _ b hHead
        exact ⟨(hOther b hHead).1.2, (hOther b hHead).2⟩
      · intro _ _ b hHead
        exact (hOther b hHead).1.1

omit hZero

/- Whole digits and what follows them are the body of a literal. -/
theorem exists_literal_of_whole
    {whole : Digits}
    {t : List UInt8}
    (hText : s = whole.chars.map byte ++ t)
    (hLiteral :
      ∃ T : Literal, T.negative = negative ∧ T.whole = whole ∧
        t = (T.pointChars ++ T.powerChars).map byte ++ rest ∧
          T.Ends rest) :
    ∃ T : Literal, T.negative = negative ∧
      s = T.body.map byte ++ rest ∧ T.Ends rest := by
  rcases hLiteral with ⟨T, hSign, rfl, rfl, hEnds⟩
  refine ⟨T, hSign, ?_, hEnds⟩
  rw [hText, Literal.body, ← List.append_assoc, ← List.map_append]

/- Digits that do not begin with zero are the whole digits. -/
theorem exists_literal_of_leadingDigit
    {b : UInt8}
    (hNotZero : b ≠ byte '0')
    {v : Number}
    (hRead : readNumber negative (b :: s) = .ok (v, rest)) :
    ∃ T : Literal, T.negative = negative ∧
      b :: s = T.body.map byte ++ rest ∧ T.Ends rest := by
  rw [readNumber, if_neg hNotZero] at hRead
  split at hRead
  · next hDigit =>
      rcases exists_digits (s := s) hDigit with ⟨whole, hText⟩
      have hZero :
          whole.chars.head? = some '0' → whole.chars = ['0'] := by
        intro hHead
        rcases List.head?_eq_some_iff.mp hHead with ⟨cs, hChars⟩
        rw [hChars, List.map_cons, List.cons_append,
          List.cons.injEq] at hText
        exact absurd hText.1 hNotZero
      have hDrop := dropDigits_takeDigits 0 0 (b :: s)
      refine exists_literal_of_whole hText ?_
      -- digits are left over only if the number they make up is
      -- too large for an integer
      simp only at hRead
      split at hRead
      · rw [hDrop] at hRead
        rcases (map_eq_ok_iff _ _ _).mp hRead with
          ⟨⟨x, u⟩, hReal, hPair⟩
        obtain rfl : u = rest := (Prod.mk.inj hPair).2
        exact exists_literal_of_readReal hZero negative
          (stops_dropDigits _) hReal
      · next hNext =>
          rw [dropDigits_eq_self (stops_iff.mpr hNext)] at hDrop
          rw [hDrop] at hRead
          exact exists_literal_of_readInteger hZero negative
            (stops_dropDigits _) hRead
  · cases hRead

/- What is read after a sign is the body of a literal. -/
theorem exists_literal_of_readNumber
    {v : Number}
    (hRead : readNumber negative s = .ok (v, rest)) :
    ∃ T : Literal, T.negative = negative ∧
      s = T.body.map byte ++ rest ∧ T.Ends rest := by
  cases s with
  | nil =>
      cases hRead
  | cons b t =>
      by_cases hZero : b = byte '0'
      · rw [readNumber, if_pos hZero] at hRead
        split at hRead
        · cases hRead
        · next hNext =>
            let zero : Digits := ⟨['0'], by decide, by decide⟩
            have hText : b :: t = zero.chars.map byte ++ t := by
              rw [hZero]
              rfl
            exact exists_literal_of_whole hText
              (exists_literal_of_readInteger (fun _ => rfl)
                negative (stops_iff.mpr hNext) hRead)
      · exact exists_literal_of_leadingDigit hZero hRead

/- What is read as a number is a literal. -/
theorem exists_literal_of_number
    {v : Number}
    (hRead : number s = .ok (v, rest)) :
    ∃ T : Literal,
      s = T.chars.map byte ++ rest ∧ T.Ends rest := by
  cases s with
  | nil =>
      cases hRead
  | cons b t =>
      rw [number] at hRead
      split at hRead
      · next hMinus =>
          rcases exists_literal_of_readNumber hRead with
            ⟨T, hSign, rfl, hEnds⟩
          refine ⟨T, ?_, hEnds⟩
          rw [Literal.chars, if_pos hSign, hMinus]
          rfl
      · rcases exists_literal_of_readNumber hRead with
          ⟨T, hSign, hText, hEnds⟩
        refine ⟨T, ?_, hEnds⟩
        rw [Literal.chars, hSign, if_neg Bool.false_ne_true]
        exact hText

/-
  Whatever is read as a double precision number is a literal
  that stands behind blanks at the front of the text.
-/
theorem exists_loads_of_binary64
    {x : Binary64}
    (hRead : binary64 s = .ok (x, rest)) :
    ∃ T : Literal, T.Loads x ∧ utf8 T.text <:+: s := by
  rcases exists_blanks s with ⟨blanks, hBlanks, hText⟩
  rcases (andThen_eq_ok_iff _ _ _).mp hRead with
    ⟨v, t, hNumber, hValue⟩
  obtain rfl : t = rest := by
    cases v with
    | natural n | negative i | real y =>
        exact (Prod.mk.inj (Except.ok.inj hValue)).2
  rcases exists_read_of_dispatch hNumber with
    ⟨b, read, hHead, hReader, hLiteral⟩
  obtain rfl : number = read := by
    split at hReader
    · exact Option.some.inj hReader
    · cases hReader
  rcases exists_literal_of_number hLiteral with ⟨T, hChars, hEnds⟩
  rw [← T.utf8_text] at hChars
  rw [hChars] at hText
  refine ⟨T, ⟨blanks, t, hBlanks, hEnds, ?_⟩, blanks, t, ?_⟩
  · rw [← hText]
    exact hRead
  · rw [List.append_assoc, hText]

end Json

end EmojiQuery
