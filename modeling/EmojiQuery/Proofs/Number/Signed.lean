import EmojiQuery.Proofs.Number.Numeral
import EmojiQuery.Query.Interval
import Mathlib.Data.List.Forall2
import Mathlib.Data.Nat.Digits.Defs

/-
  Which texts are numbers. A signed number is written with at
  most one sign and at least one digit, which may be a letter
  of either case if the base is above ten; it is read just when
  its value fits in 64 bits. A hexadecimal bound may begin with
  one mark, in front of the sign.

  Main declarations:
    * `Numeral.IsDigitOf`
    * `Numeral.read?_eq_some_iff`
    * `Numeral.IsSigned`
    * `Numeral.readInt64?_eq_some_iff`
    * `Radix`
    * `Radix.IsBound`
    * `Radix.read_eq_some_iff`
-/

------------------------------------------------------------
-- Digits
------------------------------------------------------------

namespace EmojiQuery

namespace Numeral

variable {base : Nat}

/- A character is a digit of a base, in either letter case. -/
def IsDigitOf
    (base : Nat)
    (c : Char)
    (d : Nat) : Prop :=
  d < base ∧ (c = d.digitChar ∨ c = d.digitChar.toUpper)

/- Digits up to fifteen are known in either letter case. -/
theorem digitValue?_of_isDigitOf
    {c : Char}
    {d : Nat}
    (hBase : base ≤ 16)
    (hDigit : IsDigitOf base c d) :
    digitValue? c = some d := by
  have hSmall : d < 16 := Nat.lt_of_lt_of_le hDigit.1 hBase
  have hUpper : ∀ d : Fin 16,
      digitValue? d.val.digitChar.toUpper = some d.val := by
    decide
  rcases hDigit.2 with rfl | rfl
  · exact digitValue?_digitChar hSmall
  · exact hUpper ⟨d, hSmall⟩

/- No other character has a value. -/
theorem eq_digitChar_of_digitValue?
    {c : Char}
    {d : Nat}
    (hValue : digitValue? c = some d) :
    c = d.digitChar ∨ c = d.digitChar.toUpper := by
  have hAscii : ∀ i : Fin 128,
      ∀ d ∈ digitValue? (Char.ofNat i),
        Char.ofNat i = d.digitChar ∨
          Char.ofNat i = d.digitChar.toUpper := by
    decide
  have hRange := toNat_of_digitValue? hValue
  have hChar := hAscii ⟨c.toNat, by omega⟩
  rw [Char.ofNat_toNat] at hChar
  exact hChar d hValue

theorem digitIn?_eq_some_iff
    (hBase : base ≤ 16)
    (c : Char)
    (d : Nat) :
    digitIn? base c = some d ↔ IsDigitOf base c d := by
  rw [digitIn?, Option.filter_eq_some_iff, decide_eq_true_eq]
  constructor
  · rintro ⟨hValue, hSmall⟩
    exact ⟨hSmall, eq_digitChar_of_digitValue? hValue⟩
  · intro hDigit
    exact ⟨digitValue?_of_isDigitOf hBase hDigit, hDigit.1⟩

/- A number goes on with the digits of a text, if it has nothing else. -/
theorem readFrom?_eq_some_iff
    (hBase : base ≤ 16)
    (cs : List Char)
    (m n : Nat) :
    readFrom? base m cs = some n ↔
      ∃ ds, List.Forall₂ (IsDigitOf base) cs ds ∧
        ds.foldl (fun n d => base * n + d) m = n := by
  induction cs generalizing m with
  | nil =>
      simp [readFrom?]
  | cons c cs ih =>
      simp only [readFrom?, Option.bind_eq_some_iff,
        digitIn?_eq_some_iff hBase, ih,
        List.forall₂_cons_left_iff]
      constructor
      · rintro ⟨d, hDigit, ds, hDigits, hValue⟩
        exact ⟨d :: ds, ⟨d, ds, hDigit, hDigits, rfl⟩, hValue⟩
      · rintro ⟨_, ⟨d, ds, hDigit, hDigits, rfl⟩, hValue⟩
        exact ⟨d, hDigit, ds, hDigits, hValue⟩

/- The value of digits is their sum by places. -/
theorem foldl_digits_eq_ofDigits
    (base : Nat)
    (ds : List Nat) :
    ds.foldl (fun n d => base * n + d) 0 =
      Nat.ofDigits base ds.reverse := by
  rw [Nat.ofDigits_eq_foldr, List.foldr_reverse]
  congr 1
  funext n d
  exact Nat.add_comm _ _

/- A text is read as a number if it has digits, and nothing else. -/
theorem read?_eq_some_iff
    (hBase : base ≤ 16)
    (cs : List Char)
    (n : Nat) :
    read? base cs = some n ↔
      cs ≠ [] ∧ ∃ ds, List.Forall₂ (IsDigitOf base) cs ds ∧
        Nat.ofDigits base ds.reverse = n := by
  rw [read?, Option.ite_none_left_eq_some,
    readFrom?_eq_some_iff hBase, List.isEmpty_iff]
  simp only [foldl_digits_eq_ofDigits]

end Numeral

end EmojiQuery

------------------------------------------------------------
-- Signed Numbers
------------------------------------------------------------

namespace EmojiQuery

namespace Numeral

/- The texts of a sign, which may be left out, and what each does. -/
def signs : List (List Char × Int) :=
  [([], 1), (['+'], 1), (['-'], -1)]

/- A text has at most one sign and at least one digit. -/
def IsSigned
    (base : Nat)
    (s : List Char)
    (i : Int) : Prop :=
  ∃ sign ∈ signs, ∃ cs ds,
    s = sign.1 ++ cs ∧ cs ≠ [] ∧
      List.Forall₂ (IsDigitOf base) cs ds ∧
        i = sign.2 * Nat.ofDigits base ds.reverse

variable {base : Nat}
variable {s : List Char}

theorem IsSigned.ne_nil
    {i : Int}
    (hSigned : IsSigned base s i) :
    s ≠ [] := by
  rcases hSigned with ⟨sign, _, cs, ds, rfl, hNonempty, _⟩
  exact List.append_ne_nil_of_right_ne_nil _ hNonempty

/- An integer fits in 64 bits if it is a number of them. -/
theorem int64?_eq_some_iff
    (i : Int)
    (a : Int64) :
    int64? i = some a ↔ a.toInt = i := by
  constructor
  · intro hFits
    rw [int64?, Option.ite_none_right_eq_some,
      Option.some.injEq] at hFits
    rcases hFits with ⟨⟨hLower, hUpper⟩, rfl⟩
    apply Int64.toInt_ofInt_of_le
    · exact hLower
    · exact Int.lt_of_le_of_lt hUpper (by decide)
  · rintro rfl
    exact int64?_toInt a

/- Digits after a sign are read as the number with that sign. -/
theorem readInt64?_of_sign
    {sign : List Char × Int}
    {n : Nat}
    (hSign : sign ∈ signs)
    (hRead : read? base s = some n) :
    readInt64? base (sign.1 ++ s) = int64? (sign.2 * n) := by
  simp only [signs, List.mem_cons, List.not_mem_nil,
    or_false] at hSign
  rcases hSign with rfl | rfl | rfl
  · rw [List.nil_append, Int.one_mul]
    exact readInt64?_of_read? hRead
  · rw [Int.one_mul]
    exact congrArg (Option.bind · fun n : Nat => int64? n) hRead
  · rw [Int.neg_one_mul]
    exact congrArg (Option.bind · fun n : Nat => int64? (-n)) hRead

/- What is read as a signed number has digits after its sign. -/
theorem exists_sign_of_readInt64?
    {a : Int64}
    (hRead : readInt64? base s = some a) :
    ∃ sign ∈ signs, ∃ cs n,
      s = sign.1 ++ cs ∧ read? base cs = some n ∧
        a.toInt = sign.2 * n := by
  unfold readInt64? at hRead
  split at hRead
  · next cs =>
      rcases Option.bind_eq_some_iff.mp hRead with
        ⟨n, hDigits, hFits⟩
      refine ⟨(['-'], -1), by simp [signs], cs, n, rfl, hDigits, ?_⟩
      rw [Int.neg_one_mul]
      exact (int64?_eq_some_iff _ a).mp hFits
  · next cs =>
      rcases Option.bind_eq_some_iff.mp hRead with
        ⟨n, hDigits, hFits⟩
      refine ⟨(['+'], 1), by simp [signs], cs, n, rfl, hDigits, ?_⟩
      rw [Int.one_mul]
      exact (int64?_eq_some_iff _ a).mp hFits
  · rcases Option.bind_eq_some_iff.mp hRead with
      ⟨n, hDigits, hFits⟩
    refine ⟨([], 1), by simp [signs], s, n, rfl, hDigits, ?_⟩
    rw [Int.one_mul]
    exact (int64?_eq_some_iff _ a).mp hFits

/- A text is read as a signed number if it writes that number. -/
theorem readInt64?_eq_some_iff
    (hBase : base ≤ 16)
    (s : List Char)
    (a : Int64) :
    readInt64? base s = some a ↔ IsSigned base s a.toInt := by
  constructor
  · intro hRead
    rcases exists_sign_of_readInt64? hRead with
      ⟨sign, hSign, cs, n, hText, hDigits, hValue⟩
    rcases (read?_eq_some_iff hBase cs n).mp hDigits with
      ⟨hNonempty, ds, hAll, rfl⟩
    exact ⟨sign, hSign, cs, ds, hText, hNonempty, hAll, hValue⟩
  · rintro ⟨sign, hSign, cs, ds, rfl, hNonempty, hAll, hValue⟩
    have hDigits : read? base cs = some (Nat.ofDigits base ds.reverse) :=
      (read?_eq_some_iff hBase cs _).mpr ⟨hNonempty, ds, hAll, rfl⟩
    rw [readInt64?_of_sign hSign hDigits, int64?_eq_some_iff,
      hValue]

end Numeral

end EmojiQuery

------------------------------------------------------------
-- Bounds of Ranges
------------------------------------------------------------

namespace EmojiQuery

/- How the integers of a range are written. -/
inductive Radix where
| decimal
| hexadecimal

namespace Radix

/- The number of digits. -/
def base :
    Radix → Nat
| .decimal => 10
| .hexadecimal => 16

/- The marks that may stand in front of a number. -/
def marks :
    Radix → List (List Char)
| .decimal => [[]]
| .hexadecimal => Numeral.hexMarks

/- How a bound is read. -/
def read :
    Radix → List Char → Option Int64
| .decimal => readDecimalBound?
| .hexadecimal => readHexBound?

/- A text is a bound: a signed number, behind at most one mark. -/
def IsBound
    (radix : Radix)
    (part : List Char)
    (a : Int64) : Prop :=
  ∃ mark ∈ radix.marks, ∃ s,
    part = mark ++ s ∧ Numeral.IsSigned radix.base s a.toInt

theorem base_le
    (radix : Radix) :
    radix.base ≤ 16 := by
  cases radix <;> decide

theorem IsBound.ne_nil
    {radix : Radix}
    {part : List Char}
    {a : Int64}
    (hBound : radix.IsBound part a) :
    part ≠ [] := by
  rcases hBound with ⟨mark, _, s, rfl, hSigned⟩
  exact List.append_ne_nil_of_right_ne_nil mark hSigned.ne_nil

/- Behind its first character a signed number has digits only. -/
theorem exists_isDigitOf_second
    {base : Nat}
    {c b : Char}
    {s : List Char}
    {i : Int}
    (hSigned : Numeral.IsSigned base (c :: b :: s) i) :
    ∃ d, Numeral.IsDigitOf base b d := by
  rcases hSigned with
    ⟨sign, hSign, cs, ds, hText, hNonempty, hDigits, _⟩
  have hSecond : b ∈ cs := by
    simp only [Numeral.signs, List.mem_cons, List.not_mem_nil,
      or_false] at hSign
    rcases hSign with rfl | rfl | rfl
    · rw [List.nil_append] at hText
      simp [← hText]
    · rw [List.singleton_append, List.cons.injEq] at hText
      simp [← hText.2]
    · rw [List.singleton_append, List.cons.injEq] at hText
      simp [← hText.2]
  rcases List.mem_iff_getElem.mp hSecond with ⟨j, hj, rfl⟩
  have hLength := hDigits.length_eq
  exact ⟨ds[j], hDigits.get hj (hLength ▸ hj)⟩

/- A number does not begin with a mark, which has a letter that is no digit. -/
theorem readHexBound?_of_isSigned
    {s : List Char}
    {i : Int}
    (hSigned : Numeral.IsSigned 16 s i) :
    readHexBound? s = Numeral.readInt64? 16 s := by
  have hLetters :
      ∀ b d, Numeral.IsDigitOf 16 b d → b ≠ 'x' ∧ b ≠ 'X' := by
    intro b d hDigit
    have hValue :=
      Numeral.digitValue?_of_isDigitOf (Nat.le_refl 16) hDigit
    constructor
    · rintro rfl
      simp [Numeral.digitValue?] at hValue
    · rintro rfl
      simp [Numeral.digitValue?] at hValue
  unfold readHexBound?
  split
  · next rest =>
      rcases exists_isDigitOf_second hSigned with ⟨d, hDigit⟩
      exact absurd rfl (hLetters 'x' d hDigit).1
  · next rest =>
      rcases exists_isDigitOf_second hSigned with ⟨d, hDigit⟩
      exact absurd rfl (hLetters 'X' d hDigit).2
  · rfl

/- What follows a mark is read as the number that it is. -/
theorem readHexBound?_of_mark
    {mark s : List Char}
    {i : Int}
    (hMark : mark ∈ Numeral.hexMarks)
    (hSigned : Numeral.IsSigned 16 s i) :
    readHexBound? (mark ++ s) = Numeral.readInt64? 16 s := by
  simp only [Numeral.hexMarks, List.mem_cons, List.not_mem_nil,
    or_false] at hMark
  rcases hMark with rfl | rfl | rfl
  · exact readHexBound?_of_isSigned hSigned
  · rfl
  · rfl

/- A hexadecimal bound is read behind one of the marks. -/
theorem exists_mark_of_readHexBound?
    {part : List Char}
    {a : Int64}
    (hRead : readHexBound? part = some a) :
    ∃ mark ∈ Numeral.hexMarks, ∃ s,
      part = mark ++ s ∧ Numeral.readInt64? 16 s = some a := by
  unfold readHexBound? at hRead
  split at hRead
  · next s =>
      exact ⟨['0', 'x'], by simp [Numeral.hexMarks], s, rfl, hRead⟩
  · next s =>
      exact ⟨['0', 'X'], by simp [Numeral.hexMarks], s, rfl, hRead⟩
  · exact ⟨[], by simp [Numeral.hexMarks], part, rfl, hRead⟩

/- A text is read as a bound if it is that bound. -/
theorem read_eq_some_iff
    (radix : Radix)
    (part : List Char)
    (a : Int64) :
    radix.read part = some a ↔ radix.IsBound part a := by
  have hSigned := Numeral.readInt64?_eq_some_iff radix.base_le
  cases radix with
  | decimal =>
      simp only [read, readDecimalBound?, IsBound, marks, base,
        List.mem_singleton, exists_eq_left, List.nil_append,
        exists_eq_left']
      exact hSigned part a
  | hexadecimal =>
      constructor
      · intro hRead
        rcases exists_mark_of_readHexBound? hRead with
          ⟨mark, hMark, s, rfl, hRest⟩
        exact ⟨mark, hMark, s, rfl, (hSigned s a).mp hRest⟩
      · rintro ⟨mark, hMark, s, rfl, hRest⟩
        calc readHexBound? (mark ++ s)
            = Numeral.readInt64? 16 s :=
              readHexBound?_of_mark hMark hRest
          _ = some a := (hSigned s a).mpr hRest

end Radix

end EmojiQuery
