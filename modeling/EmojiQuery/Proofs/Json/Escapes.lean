import EmojiQuery.Proofs.Json.Written

/-
  Strings that were written as JSON are read back. Characters
  that would end a string or control a terminal are written
  with a backslash, and all others as they are.

  Main declarations:
    * `Json.writeChar_cases`
    * `Json.readStringBytes_writeChar`
    * `Json.string_of_written`
    * `Json.writes_text`
-/

------------------------------------------------------------
-- Bytes That Stand for Themselves
------------------------------------------------------------

namespace EmojiQuery

namespace Json

variable {c : Char}
variable {b : UInt8}
variable {bs s rounds : List UInt8}

/- Whether a byte stands for itself inside a string. -/
def IsPlain
    (b : UInt8) : Prop :=
  b ≠ byte '"' ∧ b ≠ byte '\\' ∧ ¬ b < 0x20

/- The bytes of a character, or bytes that no character of ASCII has. -/
theorem toNat_of_mem_utf8EncodeChar
    (hMember : b ∈ String.utf8EncodeChar c) :
    b.toNat = c.toNat ∧ c.toNat < 128 ∨ 128 ≤ b.toNat := by
  have hBound : ∀ n, (UInt8.ofNat n).toNat = n % 256 :=
    fun _ => UInt8.toNat_ofNat'
  change b.toNat = c.val.toNat ∧ c.val.toNat < 128 ∨ _
  simp only [String.utf8EncodeChar] at hMember
  split at hMember
  · rw [List.mem_singleton] at hMember
    rw [hMember, hBound]
    omega
  · right
    split at hMember
    · simp only [List.mem_cons, List.not_mem_nil, or_false]
        at hMember
      rcases hMember with rfl | rfl
      all_goals
        rw [hBound]
        omega
    · split at hMember
      all_goals
        simp only [List.mem_cons, List.not_mem_nil, or_false]
          at hMember
      · rcases hMember with rfl | rfl | rfl
        all_goals
          rw [hBound]
          omega
      · rcases hMember with rfl | rfl | rfl | rfl
        all_goals
          rw [hBound]
          omega

/- A character stands for itself unless it needs a backslash. -/
theorem isPlain_of_mem
    (hQuote : c ≠ '"')
    (hSlash : c ≠ '\\')
    (hControl : ¬ c.toNat < 0x20)
    (hMember : b ∈ String.utf8EncodeChar c) :
    IsPlain b := by
  have hAscii :
      ∀ d : Char, d.toNat < 128 → b = byte d → c = d := by
    rintro d hSmall rfl
    have hByte : (byte d).toNat = d.toNat :=
      toNat_byte (by omega)
    rcases toNat_of_mem_utf8EncodeChar hMember with
      ⟨hSame, _⟩ | hLarge
    · rw [← Char.toNat_inj, ← hSame, hByte]
    · omega
  refine ⟨?_, ?_, ?_⟩
  · intro hEqual
    exact hQuote (hAscii '"' (by decide) hEqual)
  · intro hEqual
    exact hSlash (hAscii '\\' (by decide) hEqual)
  · rw [UInt8.lt_iff_toNat_lt]
    change ¬ b.toNat < 32
    rcases toNat_of_mem_utf8EncodeChar hMember with
      ⟨hSame, _⟩ | hLarge
    · rwa [hSame]
    · omega

/- One round is enough for each byte that stands for itself. -/
theorem readStringBytes_plain
    (hPlain : ∀ b ∈ bs, IsPlain b)
    (hRounds : bs.length ≤ rounds.length) :
    readStringBytes rounds (bs ++ s) =
      (readStringBytes (rounds.drop bs.length) s).map
        fun (cs, t) => (bs ++ cs, t) := by
  induction bs generalizing rounds with
  | nil =>
      rw [List.nil_append, List.length_nil, List.drop_zero]
      cases readStringBytes rounds s with
      | error e =>
          rfl
      | ok r =>
          rfl
  | cons b bs ih =>
      cases rounds with
      | nil =>
          cases Nat.not_succ_le_zero _ hRounds
      | cons _ rounds =>
          rw [List.forall_mem_cons] at hPlain
          rcases hPlain with ⟨⟨hQuote, hSlash, hControl⟩, hRest⟩
          have hFewer : bs.length ≤ rounds.length :=
            Nat.le_of_succ_le_succ hRounds
          rw [List.cons_append, readStringBytes, if_neg hQuote,
            if_neg hSlash, if_neg hControl, ih hRest hFewer,
            List.length_cons, List.drop_succ_cons]
          cases readStringBytes (rounds.drop bs.length) s with
          | error e =>
              rfl
          | ok r =>
              rfl

end Json

end EmojiQuery

------------------------------------------------------------
-- Escaped Characters
------------------------------------------------------------

namespace EmojiQuery

namespace Json

variable {s rounds : List UInt8}

/-
  A character is written with a letter behind a backslash, with
  its number, or as it is.
-/
theorem writeChar_cases
    (c : Char) :
    (∃ letter b, writeChar c = ['\\', letter] ∧
        letter.toNat < 128 ∧ byte letter ≠ byte 'u' ∧
          escapeLetter? (byte letter) = some b ∧
            String.utf8EncodeChar c = [b]) ∨
      (∃ high low, writeChar c = ['\\', 'u', '0', '0', high, low] ∧
        high.toNat < 128 ∧ low.toNat < 128 ∧
          hexUnit? (byte '0') (byte '0') (byte high) (byte low) =
            some c.toNat ∧ c.toNat < 0x20) ∨
      writeChar c = [c] ∧
        ∀ b ∈ String.utf8EncodeChar c, IsPlain b := by
  unfold writeChar
  split
  · exact .inl ⟨'"', _, rfl, by decide, by decide, rfl, by decide⟩
  · exact .inl ⟨'\\', _, rfl, by decide, by decide, rfl, by decide⟩
  · exact .inl ⟨'b', _, rfl, by decide, by decide, rfl, by decide⟩
  · exact .inl ⟨'f', _, rfl, by decide, by decide, rfl, by decide⟩
  · exact .inl ⟨'n', _, rfl, by decide, by decide, rfl, by decide⟩
  · exact .inl ⟨'r', _, rfl, by decide, by decide, rfl, by decide⟩
  · exact .inl ⟨'t', _, rfl, by decide, by decide, rfl, by decide⟩
  · next hQuote hSlash _ _ _ _ _ =>
      split
      · next hControl =>
          have hAll :
              ∀ n ∈ List.range 0x20,
                (n / 16).digitChar.toNat < 128 ∧
                  (n % 16).digitChar.toNat < 128 ∧
                    hexUnit? (byte '0') (byte '0')
                        (byte (n / 16).digitChar)
                        (byte (n % 16).digitChar) =
                      some n := by
            decide +kernel
          rcases hAll c.toNat (List.mem_range.mpr hControl) with
            ⟨hHigh, hLow, hNumber⟩
          exact .inr (.inl ⟨_, _, rfl, hHigh, hLow, hNumber,
            hControl⟩)
      · next hControl =>
          exact .inr (.inr ⟨rfl, fun b =>
            isPlain_of_mem hQuote hSlash hControl⟩)

/- A letter behind a backslash stands for one byte. -/
theorem readEscape_letter
    {letter b : UInt8}
    (hOther : letter ≠ byte 'u')
    (hLetter : escapeLetter? letter = some b)
    (s : List UInt8) :
    readEscape (letter :: s) = .ok ([b], s) := by
  rw [readEscape, if_neg hOther, hLetter]

/- A number that is no half of a pair stands for its character. -/
theorem readEscape_number
    {x y z w : UInt8}
    {c : Char}
    (hUnit : hexUnit? x y z w = some c.toNat)
    (hSmall : c.toNat < 0x20)
    (s : List UInt8) :
    readEscape (byte 'u' :: x :: y :: z :: w :: s) =
      .ok (String.utf8EncodeChar c, s) := by
  have hLow : isLowHalf c.toNat = false := by
    simp only [isLowHalf, Bool.and_eq_false_iff,
      decide_eq_false_iff_not]
    omega
  have hHigh : isHighHalf c.toNat = false := by
    simp only [isHighHalf, Bool.and_eq_false_iff,
      decide_eq_false_iff_not]
    omega
  rw [readEscape, if_pos rfl, readNumbered, readUnit, hUnit]
  simp [bind, Except.bind, hLow, hHigh, Char.ofNat_toNat]

/- One round is enough for what stands behind a backslash. -/
theorem readStringBytes_escape
    {escape bs : List UInt8}
    (hEscape :
      ∀ s, readEscape (escape ++ s) = .ok (bs, s))
    (hRounds : escape.length + s.length < rounds.length) :
    ∃ later : List UInt8, s.length ≤ later.length ∧
      readStringBytes rounds (byte '\\' :: (escape ++ s)) =
        (readStringBytes later s).map
          fun (cs, t) => (bs ++ cs, t) := by
  cases rounds with
  | nil =>
      cases hRounds
  | cons _ rounds =>
      rw [List.length_cons] at hRounds
      have hQuote : byte '\\' ≠ byte '"' := by
        decide
      refine ⟨rounds, by omega, ?_⟩
      rw [readStringBytes, if_neg hQuote, if_pos rfl, hEscape s]
      simp only [bind, Except.bind]
      cases readStringBytes rounds s with
      | error e =>
          rfl
      | ok r =>
          rfl

/- Each character of a string is read from what is written for it. -/
theorem readStringBytes_writeChar
    (c : Char)
    (hRounds :
      (utf8 (String.ofList (writeChar c))).length + s.length ≤
        rounds.length) :
    ∃ later : List UInt8, s.length ≤ later.length ∧
      readStringBytes rounds
          (utf8 (String.ofList (writeChar c)) ++ s) =
        (readStringBytes later s).map
          fun (cs, t) => (String.utf8EncodeChar c ++ cs, t) := by
  rcases writeChar_cases c with
    ⟨letter, b, hText, hAscii, hOther, hLetter, hByte⟩ |
      ⟨high, low, hText, hHigh, hLow, hUnit, hSmall⟩ |
        ⟨hText, hPlain⟩
  · have hBytes :
        utf8 (String.ofList (writeChar c)) =
          [byte '\\', byte letter] := by
      rw [hText]
      apply utf8_ofList_of_ascii
      simp [hAscii]
    rw [hBytes] at hRounds ⊢
    rw [hByte]
    have hEscape :
        ∀ s, readEscape ([byte letter] ++ s) = .ok ([b], s) :=
      readEscape_letter hOther hLetter
    apply readStringBytes_escape hEscape
    simp only [List.length_cons, List.length_nil] at hRounds ⊢
    omega
  · have hBytes :
        utf8 (String.ofList (writeChar c)) =
          byte '\\' ::
            [byte 'u', byte '0', byte '0', byte high, byte low] := by
      rw [hText]
      apply utf8_ofList_of_ascii
      simp [hHigh, hLow]
    rw [hBytes] at hRounds ⊢
    have hEscape :
        ∀ s, readEscape
            ([byte 'u', byte '0', byte '0', byte high, byte low] ++
              s) =
          .ok (String.utf8EncodeChar c, s) :=
      readEscape_number hUnit hSmall
    apply readStringBytes_escape hEscape
    simp only [List.length_cons, List.length_nil] at hRounds ⊢
    omega
  · have hBytes :
        utf8 (String.ofList (writeChar c)) =
          String.utf8EncodeChar c := by
      rw [hText, utf8_ofList_cons, utf8_ofList_nil,
        List.append_nil]
    rw [hBytes] at hRounds ⊢
    refine ⟨rounds.drop (String.utf8EncodeChar c).length, ?_,
      readStringBytes_plain hPlain (by omega)⟩
    rw [List.length_drop]
    omega

end Json

end EmojiQuery

------------------------------------------------------------
-- Written Strings
------------------------------------------------------------

namespace EmojiQuery

namespace Json

variable {rest rounds : List UInt8}

/- The bytes behind a quote, as far as the next one. -/
def stringBody
    (cs : List Char) : List UInt8 :=
  utf8 (String.ofList (cs.flatMap writeChar))

/- A string is read up to the quote that ends it. -/
theorem readStringBytes_written
    (cs : List Char)
    (hRounds :
      (stringBody cs ++ byte '"' :: rest).length ≤ rounds.length) :
    readStringBytes rounds (stringBody cs ++ byte '"' :: rest) =
      .ok (utf8 (String.ofList cs), rest) := by
  -- An escape takes fewer rounds than it has bytes, so those
  -- that are left differ from one character to the next.
  induction cs generalizing rounds with
  | nil =>
      cases rounds with
      | nil =>
          cases Nat.not_succ_le_zero _ hRounds
      | cons _ rounds =>
          rfl
  | cons c cs ih =>
      have hBody :
          stringBody (c :: cs) =
            utf8 (String.ofList (writeChar c)) ++ stringBody cs := by
        rw [stringBody, List.flatMap_cons, utf8_ofList_append]
        rfl
      rw [hBody, List.append_assoc] at hRounds ⊢
      rw [List.length_append] at hRounds
      rcases readStringBytes_writeChar c hRounds with
        ⟨later, hLater, hRead⟩
      rw [hRead, ih hLater, utf8_ofList_cons]
      rfl

/- A string is read from its bytes between the quotes. -/
theorem string_of_written
    (s : String)
    (rest : List UInt8) :
    string (stringBody s.toList ++ byte '"' :: rest) =
      .ok (s, rest) := by
  unfold string
  rw [readStringBytes_written s.toList (Nat.le_refl _)]
  simp only [bind, Except.bind, String.ofList_toList,
    ofUtf8?_utf8]

/- A string is written as its quotes and what stands between them. -/
theorem utf8_writeString
    (s : String) :
    utf8 (String.ofList (writeString s)) =
      byte '"' :: (stringBody s.toList ++ [byte '"']) := by
  rw [writeString, List.cons_append, utf8_ofList_cons,
    utf8_ofList_append]
  rfl

/- Strings are read back. -/
theorem writes_text
    (s : String) :
    Writes text (writeString s) s := by
  refine ⟨⟨_, _, utf8_writeString s, by decide⟩, ?_⟩
  intro rest _
  have hBlank : isBlank (byte '"') = false := by
    decide
  rw [utf8_writeString, List.cons_append, List.append_assoc,
    text, dispatch_cons hBlank (if_pos rfl),
    andThen_of_ok (advance_cons _ _)]
  exact string_of_written s rest

end Json

end EmojiQuery
