import EmojiQuery.Json.Compound
import EmojiQuery.Proofs.Number.Literal

/-
  Digits as bytes: a run of digits is taken as far as it
  reaches, and what is taken is a run of digits.

  Main declarations:
    * `Json.Stops`
    * `Json.takeDigits_append`
    * `Json.exists_digits`
-/

------------------------------------------------------------
-- Bytes
------------------------------------------------------------

namespace EmojiQuery

namespace Json

variable {c : Char}

theorem toNat_byte
    (hSmall : c.toNat < 256) :
    (byte c).toNat = c.toNat := by
  rw [byte, UInt8.toNat_ofNat']
  exact Nat.mod_eq_of_lt hSmall

theorem byte_inj
    {d : Char}
    (hLeft : c.toNat < 256)
    (hRight : d.toNat < 256)
    (hEqual : byte c = byte d) :
    c = d := by
  apply Char.toNat_inj.mp
  rw [← toNat_byte hLeft, hEqual, toNat_byte hRight]

theorem digit?_byte
    (hDigit : c.isDigit = true) :
    digit? (byte c) = some (c.toNat - '0'.toNat) := by
  rcases Digits.toNat_of_isDigit hDigit with ⟨hLower, hUpper⟩
  have hByte : (byte c).toNat = c.toNat :=
    toNat_byte (by omega)
  have hZero : (byte '0').toNat = 48 := by
    decide
  have hNine : (byte '9').toNat = 57 := by
    decide
  have hRange : (byte '0' ≤ byte c && byte c ≤ byte '9') = true := by
    simp only [Bool.and_eq_true, decide_eq_true_eq,
      UInt8.le_iff_toNat_le, hByte, hZero, hNine]
    exact ⟨hLower, hUpper⟩
  rw [digit?, if_pos hRange, hByte]
  rfl

theorem isDigit_byte
    (hDigit : c.isDigit = true) :
    isDigit (byte c) = true := by
  rw [isDigit, digit?_byte hDigit, Option.isSome_some]

/- A digit is no blank. -/
theorem isBlank_byte
    (hDigit : c.isDigit = true) :
    isBlank (byte c) = false := by
  rcases Digits.toNat_of_isDigit hDigit with ⟨hLower, hUpper⟩
  have hByte : (byte c).toNat = c.toNat :=
    toNat_byte (by omega)
  rw [← Bool.not_eq_true]
  intro hBlank
  simp only [isBlank, Bool.or_eq_true, decide_eq_true_eq]
    at hBlank
  rcases hBlank with ((hCase | hCase) | hCase) | hCase
  all_goals
    rw [hCase] at hByte
    simp at hByte
    omega

/- A digit is no other character, as a byte either. -/
theorem byte_ne_of_isDigit
    {d : Char}
    (hDigit : c.isDigit = true)
    (hOther : d.isDigit = false)
    (hSmall : d.toNat < 256) :
    byte c ≠ byte d := by
  intro hEqual
  have hBound := (Digits.toNat_of_isDigit hDigit).2
  have hSame : c = d := byte_inj (by omega) hSmall hEqual
  rw [hSame, hOther] at hDigit
  cases hDigit

end Json

end EmojiQuery

------------------------------------------------------------
-- Runs of Digits
------------------------------------------------------------

namespace EmojiQuery

namespace Json

variable {ds : List Char}
variable {s : List UInt8}

/- No digit stands at the front. -/
def Stops
    (s : List UInt8) : Prop :=
  ∀ b, s.head? = some b → isDigit b = false

theorem stops_iff :
    Stops s ↔ ¬ s.head?.any isDigit = true := by
  unfold Stops
  cases s.head? with
  | none =>
      simp
  | some b =>
      simp

/- Digits that fit are all taken. -/
theorem takeDigits_append
    (hDigits : ∀ c ∈ ds, c.isDigit = true)
    (hStop : Stops s)
    {n : Nat}
    (hFits : Digits.extend n ds < UInt64.size)
    (taken : Nat) :
    takeDigits n taken (ds.map byte ++ s) =
      (Digits.extend n ds, taken + ds.length, s) := by
  induction ds generalizing n taken with
  | nil =>
      cases s with
      | nil =>
          rfl
      | cons b s =>
          have hNone : digit? b = none := by
            simpa [isDigit] using hStop b rfl
          simp [takeDigits, hNone, Digits.extend]
  | cons c ds ih =>
      rw [List.forall_mem_cons] at hDigits
      have hStep :
          10 * n + (c.toNat - '0'.toNat) < UInt64.size :=
        Nat.lt_of_le_of_lt (Digits.le_extend _ ds) hFits
      have hLength :
          taken + 1 + ds.length = taken + (c :: ds).length := by
        rw [List.length_cons]
        omega
      rw [List.map_cons, List.cons_append, takeDigits,
        digit?_byte hDigits.1]
      simp only [if_pos hStep]
      rw [ih hDigits.2 hFits, hLength]
      rfl

/- The run of digits at the front of bytes. -/
theorem takeWhile_dropWhile_digits
    (hDigits : ∀ c ∈ ds, c.isDigit = true)
    (hStop : Stops s) :
    (ds.map byte ++ s).takeWhile isDigit = ds.map byte ∧
      (ds.map byte ++ s).dropWhile isDigit = s := by
  rw [takeWhile_dropWhile_iff]
  refine ⟨rfl, ?_, hStop⟩
  intro b hMember
  rcases List.mem_map.mp hMember with ⟨c, hDigit, rfl⟩
  exact isDigit_byte (hDigits c hDigit)

theorem foldl_digits
    (hDigits : ∀ c ∈ ds, c.isDigit = true)
    (n : Nat) :
    (ds.map byte).foldl
        (fun e b => 10 * e + (digit? b).getD 0) n =
      Digits.extend n ds := by
  induction ds generalizing n with
  | nil =>
      rfl
  | cons c ds ih =>
      rw [List.forall_mem_cons] at hDigits
      rw [List.map_cons, List.foldl_cons,
        digit?_byte hDigits.1, ih hDigits.2]
      rfl

variable {rest : List UInt8}

/- Digits stop before characters that are none. -/
theorem Stops.append
    (hStop : Stops rest)
    {s : List Char}
    (hHead : ∀ c, s.head? = some c → isDigit (byte c) = false) :
    Stops (s.map byte ++ rest) := by
  intro b hByte
  cases s with
  | nil =>
      exact hStop b hByte
  | cons c s =>
      obtain rfl : byte c = b := Option.some.inj hByte
      exact hHead c rfl

end Json

end EmojiQuery

------------------------------------------------------------
-- Digits That Are Read
------------------------------------------------------------

namespace EmojiQuery

namespace Json

variable {b : UInt8}
variable {s rest : List UInt8}

/- A byte that is a digit is the byte of a digit. -/
theorem exists_byte_eq
    (hDigit : isDigit b = true) :
    ∃ c, c.isDigit = true ∧ byte c = b := by
  have hZero : (byte '0').toNat = 48 := by
    decide
  have hNine : (byte '9').toNat = 57 := by
    decide
  have hRange : 48 ≤ b.toNat ∧ b.toNat ≤ 57 := by
    unfold isDigit digit? at hDigit
    split at hDigit
    · next hBounds =>
        simp only [Bool.and_eq_true, decide_eq_true_eq,
          UInt8.le_iff_toNat_le, hZero, hNine] at hBounds
        exact hBounds
    · cases hDigit
  have hValid : b.toNat.isValidChar := by
    left
    omega
  have hNumber : (Char.ofNat b.toNat).toNat = b.toNat := by
    rw [Char.ofNat, dif_pos hValid]
    rfl
  refine ⟨Char.ofNat b.toNat, ?_, ?_⟩
  · simp only [Char.isDigit, Bool.and_eq_true,
      decide_eq_true_eq, UInt32.le_iff_toNat_le]
    change 48 ≤ (Char.ofNat b.toNat).toNat ∧
      (Char.ofNat b.toNat).toNat ≤ 57
    rw [hNumber]
    exact hRange
  · rw [byte, hNumber, UInt8.ofNat_toNat]

/- Bytes that are digits are the bytes of digits. -/
theorem exists_map_byte_eq
    {bs : List UInt8}
    (hDigits : ∀ b ∈ bs, isDigit b = true) :
    ∃ cs : List Char,
      (∀ c ∈ cs, c.isDigit = true) ∧ cs.map byte = bs := by
  induction bs with
  | nil =>
      exact ⟨[], by simp, rfl⟩
  | cons b bs ih =>
      rw [List.forall_mem_cons] at hDigits
      rcases exists_byte_eq hDigits.1 with ⟨c, hDigit, hByte⟩
      rcases ih hDigits.2 with ⟨cs, hRest, hBytes⟩
      refine ⟨c :: cs, ?_, ?_⟩
      · rw [List.forall_mem_cons]
        exact ⟨hDigit, hRest⟩
      · rw [List.map_cons, hByte, hBytes]

/- No digit is left where digits end. -/
theorem stops_dropDigits
    (s : List UInt8) :
    Stops (dropDigits s) := by
  intro b hHead
  have hStop := List.head?_dropWhile_not isDigit s
  rw [← dropDigits, hHead] at hStop
  exact hStop

/- A text that begins with a digit begins with digits. -/
theorem exists_digits
    (hDigit : isDigit b = true) :
    ∃ ds : Digits,
      b :: s = ds.chars.map byte ++ dropDigits (b :: s) := by
  have hRun :
      ∀ a ∈ (b :: s).takeWhile isDigit, isDigit a = true :=
    fun a => List.mem_takeWhile_imp
  rcases exists_map_byte_eq hRun with ⟨cs, hDigits, hBytes⟩
  have hNonempty : cs ≠ [] := by
    intro hNil
    rw [hNil, List.takeWhile_cons, if_pos hDigit] at hBytes
    cases hBytes
  refine ⟨⟨cs, List.all_eq_true.mpr hDigits, hNonempty⟩, ?_⟩
  rw [hBytes, dropDigits, List.takeWhile_append_dropWhile]

/- Digits are dropped alike if some of them were taken before. -/
theorem dropDigits_takeDigits
    (n taken : Nat)
    (s : List UInt8) :
    dropDigits (takeDigits n taken s).2.2 = dropDigits s := by
  induction s generalizing n taken with
  | nil =>
      rfl
  | cons b s ih =>
      rw [takeDigits]
      cases hDigit : digit? b with
      | none =>
          rfl
      | some d =>
          have hDrop : dropDigits (b :: s) = dropDigits s := by
            simp [dropDigits, isDigit, hDigit]
          simp only
          split
          · rw [ih, hDrop]
          · rfl

theorem dropDigits_eq_self
    (hStop : Stops s) :
    dropDigits s = s := by
  cases s with
  | nil =>
      rfl
  | cons b s =>
      rw [dropDigits, List.dropWhile_cons,
        if_neg (by simp [hStop b rfl])]

end Json

end EmojiQuery
