import EmojiQuery.Json.Writer
import EmojiQuery.Proofs.Json.Number
import EmojiQuery.Proofs.Number.Numeral
import EmojiQuery.Proofs.Number.Overflow

/-
  Real numbers as JSON writes them. The text of a finite number
  is a literal to which it is the nearest number, and which is
  read without a fault.

  Main declarations:
    * `Digits.ofNat`
    * `Literal.Spells`
    * `Json.exists_literal_of_layOut`
    * `Literal.IsTextOf`
    * `Json.exists_literal_of_writeReal`
-/

------------------------------------------------------------
-- Written Digits
------------------------------------------------------------

namespace EmojiQuery

namespace Digits

/- The digits of a number. -/
def ofNat
    (n : Nat) : Digits where
  chars := Numeral.write 10 n
  all_isDigit :=
    List.all_eq_true.mpr fun _ => Numeral.isDigit_of_mem_write
  ne_nil := Numeral.write_ne_nil 10 n

theorem value_ofNat
    (n : Nat) :
    (ofNat n).value = n := by
  have hWritten : Numeral.read? 10 (ofNat n).chars = some n :=
    Numeral.read?_write (by decide) (by decide) n
  rw [(ofNat n).read?_chars] at hWritten
  exact Option.some.inj hWritten

/- No needless zero stands in front. -/
theorem head?_ofNat
    {n : Nat}
    (hNonzero : n ≠ 0) :
    (ofNat n).chars.head? ≠ some '0' := by
  change (Numeral.write 10 n).head? ≠ some '0'
  induction n using Nat.strongRecOn with
  | ind n ih =>
      rw [Numeral.write]
      split
      · next hSmall =>
          have hDigits :
              ∀ d : Fin 10,
                d.val ≠ 0 → [d.val.digitChar].head? ≠ some '0' := by
            decide
          exact hDigits ⟨n, by omega⟩ hNonzero
      · next hLarge =>
          have hFront : n / 10 ≠ 0 := by
            omega
          rw [List.head?_append_of_ne_nil _
            (Numeral.write_ne_nil 10 (n / 10))]
          exact ih _ (by omega) hFront

/- Numbers below a power of ten have no more digits than its zeros. -/
theorem length_ofNat_le
    {n k : Nat}
    (hPositive : k ≠ 0)
    (hLess : n < 10 ^ k) :
    (ofNat n).chars.length ≤ k := by
  change (Numeral.write 10 n).length ≤ k
  induction k generalizing n with
  | zero =>
      exact absurd rfl hPositive
  | succ k ih =>
      rw [Numeral.write]
      split
      · simp
      · next hLarge =>
          have hFront : n / 10 < 10 ^ k := by
            rw [Nat.pow_succ] at hLess
            omega
          have hMore : k ≠ 0 := by
            rintro rfl
            omega
          have hLength := ih hMore hFront
          rw [List.length_append, List.length_singleton]
          omega

/- Zeros at the end multiply a number by powers of ten. -/
theorem extend_zeros
    (n k : Nat) :
    extend n (List.replicate k '0') = n * 10 ^ k := by
  induction k generalizing n with
  | zero =>
      exact (Nat.mul_one n).symm
  | succ k ih =>
      have hStep :
          extend n (List.replicate (k + 1) '0') =
            extend (10 * n) (List.replicate k '0') := by
        rw [List.replicate_succ]
        rfl
      rw [hStep, ih, Nat.pow_succ]
      ring

/- A number is below the power of ten for its digits. -/
theorem valueOf_lt
    {ds : List Char}
    (hDigits : ∀ c ∈ ds, c.isDigit = true) :
    Decimal.valueOf ds < 10 ^ ds.length := by
  have hExtend :
      ∀ n, extend n ds < (n + 1) * 10 ^ ds.length := by
    induction ds with
    | nil =>
        intro n
        simp [extend]
    | cons c ds ih =>
        intro n
        rw [List.forall_mem_cons] at hDigits
        have hDigit := toNat_of_isDigit hDigits.1
        have hStep := ih hDigits.2 (10 * n + (c.toNat - '0'.toNat))
        have hZero : '0'.toNat = 48 := by
          decide
        have hBound :
            10 * n + (c.toNat - '0'.toNat) + 1 ≤ (n + 1) * 10 := by
          omega
        calc extend n (c :: ds)
            < (10 * n + (c.toNat - '0'.toNat) + 1) *
                10 ^ ds.length := hStep
          _ ≤ (n + 1) * 10 * 10 ^ ds.length :=
              Nat.mul_le_mul_right _ hBound
          _ = (n + 1) * 10 ^ (c :: ds).length := by
              rw [List.length_cons, Nat.pow_succ]
              ring
  have hZero := hExtend 0
  rwa [Nat.zero_add, Nat.one_mul] at hZero

end Digits

end EmojiQuery

------------------------------------------------------------
-- Places of the Point
------------------------------------------------------------

namespace EmojiQuery

/-
  A literal writes a decimal number: with its own digits and
  power of ten, or with zeros behind the digits and then one
  digit after the point. It is no integer, and its digits and
  its power are small enough to be read.
-/
structure Literal.Spells
    (T : Literal)
    (d : Decimal) : Prop where
  value :
    (T.digits = d.digits ∧ T.exponent = d.exponent) ∨
      ∃ j : Nat, T.digits = d.digits * 10 ^ (j + 1) ∧
        T.exponent = -1 ∧ d.exponent = j
  digits_lt : T.digits < UInt64.size
  is_real : T.fraction = none → T.power ≠ none
  power_le :
    ∀ p, T.power = some p → p.digits.value ≤ Json.maxExponent

namespace Json

variable {n : Nat}
variable {exp : Int}

/- The whole digits need zeros behind them before the point. -/
theorem exists_literal_of_zeros
    (negative : Bool)
    (hNonzero : n ≠ 0)
    {zeros : Nat}
    (hShort : (Digits.ofNat n).chars.length + zeros ≤ 16) :
    ∃ T : Literal, T.negative = negative ∧
      T.body =
        Numeral.write 10 n ++ List.replicate zeros '0' ++
          ['.', '0'] ∧
        T.Spells ⟨n, zeros⟩ := by
  let whole : Digits :=
    { chars := (Digits.ofNat n).chars ++ List.replicate zeros '0'
      all_isDigit := by
        rw [List.all_append, (Digits.ofNat n).all_isDigit,
          List.all_replicate]
        simp
      ne_nil := List.append_ne_nil_of_left_ne_nil
        (Digits.ofNat n).ne_nil _ }
  let T : Literal :=
    { negative := negative
      whole := whole
      fraction := some ⟨['0'], by decide, by decide⟩
      power := none
      eq_zero_of_head := by
        intro hHead
        rw [List.head?_append_of_ne_nil _ (Digits.ofNat n).ne_nil]
          at hHead
        exact absurd hHead (Digits.head?_ofNat hNonzero) }
  have hDigits : T.digits = n * 10 ^ (zeros + 1) := by
    have hText :
        whole.chars ++ ['0'] =
          (Digits.ofNat n).chars ++
            List.replicate (zeros + 1) '0' := by
      rw [List.replicate_succ', ← List.append_assoc]
    change Decimal.valueOf (whole.chars ++ ['0']) = _
    rw [hText, ← Digits.extend_valueOf, Digits.extend_zeros]
    exact congrArg (· * 10 ^ (zeros + 1)) (Digits.value_ofNat n)
  have hSmall : T.digits < 10 ^ 17 := by
    have hLength : (whole.chars ++ ['0']).length ≤ 17 := by
      simp only [whole, List.length_append, List.length_replicate,
        List.length_singleton]
      omega
    have hAll : ∀ c ∈ whole.chars ++ ['0'], c.isDigit = true := by
      intro c hMember
      rcases List.mem_append.mp hMember with hWhole | hZero
      · exact whole.isDigit_of_mem c hWhole
      · rw [List.mem_singleton.mp hZero]
        decide
    exact Nat.lt_of_lt_of_le (Digits.valueOf_lt hAll)
      (Nat.pow_le_pow_right (by decide) hLength)
  refine ⟨T, rfl, ?_, ?_, ?_, ?_, ?_⟩
  · simp [Literal.body, Literal.pointChars, Literal.powerChars, T,
      whole, Digits.ofNat]
  · exact .inr ⟨zeros, hDigits, rfl, rfl⟩
  · exact Nat.lt_trans hSmall (by decide)
  · intro hNone
    cases hNone
  · intro p hPower
    cases hPower

/- Digits that are written as they are write their own number. -/
theorem spells_of_digits
    {T : Literal}
    (hText :
      Decimal.valueOf (T.whole.chars ++ T.places) =
        (Digits.ofNat n).value)
    (hBound : n < 10 ^ 18)
    (hExponent : T.exponent = exp)
    (hReal : T.fraction = none → T.power ≠ none)
    (hPower :
      ∀ p, T.power = some p → p.digits.value ≤ maxExponent) :
    T.Spells ⟨n, exp⟩ := by
  rw [Digits.value_ofNat] at hText
  have hDigits : T.digits = n := hText
  refine ⟨.inl ⟨hDigits, hExponent⟩, ?_, hReal, hPower⟩
  rw [hDigits]
  exact Nat.lt_trans hBound (by decide)

/- The point stands between the digits. -/
theorem exists_literal_of_point
    (negative : Bool)
    (hNonzero : n ≠ 0)
    (hBound : n < 10 ^ 18)
    {place : Nat}
    (hStart : 0 < place)
    (hEnd : place < (Digits.ofNat n).chars.length) :
    ∃ T : Literal, T.negative = negative ∧
      T.body =
        (Numeral.write 10 n).take place ++
          '.' :: (Numeral.write 10 n).drop place ∧
        T.Spells
          ⟨n, (place : Int) - (Digits.ofNat n).chars.length⟩ := by
  let front := (Digits.ofNat n).chars.take place
  let back := (Digits.ofNat n).chars.drop place
  have hFront : front ≠ [] := by
    rw [ne_eq, List.take_eq_nil_iff, not_or]
    exact ⟨Nat.ne_of_gt hStart, (Digits.ofNat n).ne_nil⟩
  have hBack : back ≠ [] := by
    rw [ne_eq, List.drop_eq_nil_iff]
    exact Nat.not_le.mpr hEnd
  let T : Literal :=
    { negative := negative
      whole := ⟨front, List.all_eq_true.mpr fun c hMember =>
        (Digits.ofNat n).isDigit_of_mem c
          (List.mem_of_mem_take hMember), hFront⟩
      fraction := some ⟨back, List.all_eq_true.mpr fun c hMember =>
        (Digits.ofNat n).isDigit_of_mem c
          (List.mem_of_mem_drop hMember), hBack⟩
      power := none
      eq_zero_of_head := by
        intro hHead
        rw [List.head?_take, if_neg (Nat.ne_of_gt hStart)] at hHead
        exact absurd hHead (Digits.head?_ofNat hNonzero) }
  refine ⟨T, rfl, ?_, spells_of_digits ?_ hBound ?_ ?_ ?_⟩
  · simp [Literal.body, Literal.pointChars, Literal.powerChars, T,
      front, back, Digits.ofNat]
  · change Decimal.valueOf (front ++ back) = _
    rw [List.take_append_drop]
    rfl
  · change (0 : Int) - (back.length : Nat) = _
    rw [List.length_drop]
    omega
  · intro hNone
    cases hNone
  · intro p hPower
    cases hPower

/- Zeros stand between the point and the digits. -/
theorem exists_literal_of_fraction
    (negative : Bool)
    (hBound : n < 10 ^ 18)
    (zeros : Nat) :
    ∃ T : Literal, T.negative = negative ∧
      T.body =
        '0' :: '.' ::
          (List.replicate zeros '0' ++ Numeral.write 10 n) ∧
        T.Spells
          ⟨n, -(zeros : Int) - (Digits.ofNat n).chars.length⟩ := by
  let places : Digits :=
    { chars := List.replicate zeros '0' ++ (Digits.ofNat n).chars
      all_isDigit := by
        rw [List.all_append, (Digits.ofNat n).all_isDigit,
          List.all_replicate]
        simp
      ne_nil := List.append_ne_nil_of_right_ne_nil _
        (Digits.ofNat n).ne_nil }
  let T : Literal :=
    { negative := negative
      whole := ⟨['0'], by decide, by decide⟩
      fraction := some places
      power := none
      eq_zero_of_head := fun _ => rfl }
  refine ⟨T, rfl, ?_, spells_of_digits ?_ hBound ?_ ?_ ?_⟩
  · simp [Literal.body, Literal.pointChars, Literal.powerChars, T,
      places, Digits.ofNat]
  · have hText :
        ['0'] ++ places.chars =
          List.replicate (zeros + 1) '0' ++
            (Digits.ofNat n).chars := by
      rw [List.replicate_succ]
      rfl
    change Decimal.valueOf (['0'] ++ places.chars) = _
    rw [hText, ← Digits.extend_valueOf]
    have hZeros :
        Decimal.valueOf (List.replicate (zeros + 1) '0') = 0 := by
      have hExtend := Digits.extend_zeros 0 (zeros + 1)
      rwa [Nat.zero_mul] at hExtend
    rw [hZeros]
    rfl
  · change (0 : Int) - (places.chars.length : Nat) = _
    rw [List.length_append, List.length_replicate]
    omega
  · intro hNone
    cases hNone
  · intro p hPower
    cases hPower

/- A power of ten, with its sign. -/
def integerPower
    (e : Int) : Literal.Power :=
  ⟨false, if e < 0 then .minus else .plus, Digits.ofNat e.natAbs⟩

theorem chars_integerPower
    (e : Int) :
    (integerPower e).chars = writeExponent e := by
  change
    'e' :: ((if e < 0 then Literal.Sign.minus else .plus).chars ++
      Numeral.write 10 e.natAbs) = _
  rw [writeExponent]
  split
  · rfl
  · rfl

theorem exponent_integerPower
    (e : Int) :
    (integerPower e).exponent = e := by
  simp only [Literal.Power.exponent, integerPower, Digits.value_ofNat]
  by_cases hNegative : e < 0
  · rw [if_pos hNegative, if_pos rfl]
    omega
  · rw [if_neg hNegative, if_neg Literal.Sign.noConfusion]
    omega

/- The point stands behind the first digit, before a power of ten. -/
theorem exists_literal_of_power
    (negative : Bool)
    (hNonzero : n ≠ 0)
    (hBound : n < 10 ^ 18)
    {e : Int}
    (hSmall : e.natAbs ≤ maxExponent) :
    ∃ T : Literal, T.negative = negative ∧
      T.body =
        (Numeral.write 10 n).take 1 ++
          ((if 1 < (Numeral.write 10 n).length then
              '.' :: (Numeral.write 10 n).drop 1
            else []) ++
            writeExponent e) ∧
        T.Spells
          ⟨n, e + 1 - (Digits.ofNat n).chars.length⟩ := by
  let tail := (Digits.ofNat n).chars.drop 1
  let fraction : Option Digits :=
    if hMore : tail ≠ [] then
      some ⟨tail, List.all_eq_true.mpr fun c hMember =>
        (Digits.ofNat n).isDigit_of_mem c
          (List.mem_of_mem_drop hMember), hMore⟩
    else
      none
  have hFront : (Digits.ofNat n).chars.take 1 ≠ [] := by
    rw [ne_eq, List.take_eq_nil_iff, not_or]
    exact ⟨Nat.one_ne_zero, (Digits.ofNat n).ne_nil⟩
  let T : Literal :=
    { negative := negative
      whole := ⟨(Digits.ofNat n).chars.take 1,
        List.all_eq_true.mpr fun c hMember =>
          (Digits.ofNat n).isDigit_of_mem c
            (List.mem_of_mem_take hMember), hFront⟩
      fraction := fraction
      power := some (integerPower e)
      eq_zero_of_head := by
        intro hHead
        rw [List.head?_take, if_neg Nat.one_ne_zero] at hHead
        exact absurd hHead (Digits.head?_ofNat hNonzero) }
  have hReadAll :
      (Digits.ofNat n).chars.take 1 ++ T.places =
        (Digits.ofNat n).chars := by
    have hPlaces : T.places = tail := by
      simp only [Literal.places, T, fraction]
      split
      · rfl
      · next hNone =>
          exact (not_not.mp hNone).symm
    rw [hPlaces, List.take_append_drop]
  have hPoint :
      T.pointChars =
        if 1 < (Digits.ofNat n).chars.length then '.' :: tail
        else [] := by
    have hTail :
        1 < (Digits.ofNat n).chars.length ↔ tail ≠ [] := by
      rw [ne_eq, List.drop_eq_nil_iff, Nat.not_le]
    simp only [Literal.pointChars, T, fraction, hTail]
    split
    · rfl
    · rfl
  have hLength :
      1 + T.places.length = (Digits.ofNat n).chars.length := by
    have hFrontLength :
        ((Digits.ofNat n).chars.take 1).length = 1 := by
      rw [List.length_take]
      have := List.length_pos_iff.mpr (Digits.ofNat n).ne_nil
      omega
    rw [← hFrontLength, ← List.length_append, hReadAll]
  refine ⟨T, rfl, ?_, spells_of_digits ?_ hBound ?_ ?_ ?_⟩
  · rw [Literal.body, hPoint,
      Literal.powerChars_of_some (p := integerPower e) rfl]
    change _ ++ (_ ++ (integerPower e).chars) = _
    rw [chars_integerPower]
    rfl
  · change Decimal.valueOf
      ((Digits.ofNat n).chars.take 1 ++ T.places) = _
    rw [hReadAll]
    rfl
  · change (integerPower e).exponent - (T.places.length : Int) = _
    rw [exponent_integerPower]
    omega
  · intro _ hNone
    cases hNone
  · intro p hSome
    obtain rfl := Option.some.inj hSome
    exact (Digits.value_ofNat e.natAbs).trans_le hSmall

/- Wherever the point goes, the text is a literal. -/
theorem exists_literal_of_layOut
    (negative : Bool)
    (hNonzero : n ≠ 0)
    (hBound : n < 10 ^ 18)
    (hLower : -360 ≤ exp)
    (hUpper : exp ≤ 360) :
    ∃ T : Literal, T.negative = negative ∧
      T.body =
        layOut realStyle (Numeral.write 10 n)
          ((Numeral.write 10 n).length + exp) ∧
        T.Spells ⟨n, exp⟩ := by
  have hLength : (Numeral.write 10 n).length ≤ 18 :=
    Digits.length_ofNat_le (by decide) hBound
  have hText : (Digits.ofNat n).chars = Numeral.write 10 n :=
    rfl
  generalize hPlace :
    ((Numeral.write 10 n).length : Int) + exp = place
  have hStyle : realStyle.whole = 16 ∧ realStyle.zeros = 4 :=
    ⟨rfl, rfl⟩
  -- The point stands behind zeros, inside the digits, before
  -- zeros, or behind the first digit.
  simp only [layOut, Bool.and_eq_true, decide_eq_true_eq]
  split
  · next hWhole =>
      split
      · next hShort =>
          have hZeros :
              exp = (place.toNat - (Numeral.write 10 n).length : Nat) := by
            omega
          rw [hZeros]
          apply exists_literal_of_zeros negative hNonzero
          rw [hText]
          omega
      · next hLong =>
          have hExponent :
              exp =
                (place.toNat : Int) -
                  (Digits.ofNat n).chars.length := by
            rw [hText]
            omega
          rw [hExponent]
          apply exists_literal_of_point negative hNonzero hBound
          · omega
          · rw [hText]
            omega
  · next hNotWhole =>
      split
      · next hFraction =>
          have hExponent :
              exp =
                -((-place).toNat : Int) -
                  (Digits.ofNat n).chars.length := by
            rw [hText]
            omega
          rw [hExponent]
          exact exists_literal_of_fraction negative hBound _
      · next hPower =>
          have hExponent :
              exp = place - 1 + 1 - (Digits.ofNat n).chars.length := by
            rw [hText]
            omega
          rw [hExponent, List.append_assoc]
          apply exists_literal_of_power negative hNonzero hBound
          simp only [maxExponent]
          omega

end Json

end EmojiQuery

------------------------------------------------------------
-- Texts of Numbers
------------------------------------------------------------

namespace EmojiQuery

variable {T : Literal}
variable {d : Decimal}
variable {x : Binary64}

/- A number is its sign and its magnitude. -/
theorem Binary64.ofMagnitude_parts
    (x : Binary64) :
    ofMagnitude x.isNegative x.magnitude = x := by
  have hBits : x.bits.toNat < 2 * signUnit :=
    x.bits.toNat_lt
  have hNumber :
      (if x.isNegative then signUnit + x.magnitude
        else x.magnitude) = x.bits.toNat := by
    unfold isNegative magnitude
    by_cases hSign : signUnit ≤ x.bits.toNat
    · rw [decide_eq_true hSign, if_pos rfl,
        Nat.mod_eq_sub_mod hSign, Nat.mod_eq_of_lt (by omega)]
      omega
    · rw [decide_eq_false hSign, if_neg Bool.false_ne_true,
        Nat.mod_eq_of_lt (by omega)]
  rw [ofMagnitude, hNumber, UInt64.ofNat_toNat]

/-
  A literal is the text of a number: the number is the nearest
  one to it, and nothing keeps it from being read.
-/
structure Literal.IsTextOf
    (T : Literal)
    (x : Binary64) : Prop where
  chars_eq : T.chars = Json.writeReal x
  nearest_eq : T.nearest = x
  digits_lt : T.digits < UInt64.size
  is_real : T.fraction = none → T.power ≠ none
  power_le :
    ∀ p, T.power = some p → p.digits.value ≤ Json.maxExponent
  exponent_le : T.exponent.natAbs ≤ 360
  scales :
    ∃ y, Binary64.scale? T.digits T.exponent = some y

/-
  The literal that spells the shortest decimal number of a
  number is as near to the number as the decimal number is.
-/
theorem Literal.Spells.isTextOf
    (hSpells : T.Spells d)
    (hDecimal : Binary64.IsDecimalOf d x.abs)
    (hScale :
      ∃ y, Binary64.scale? d.digits d.exponent = some y)
    (hSign : T.negative = x.isNegative)
    (hChars : T.chars = Json.writeReal x) :
    T.IsTextOf x := by
  have hRounds := hDecimal.rounds
  have hSmall : d.exponent.natAbs ≤ 360 := by
    have hLower := hDecimal.exponent_lower
    have hUpper := hDecimal.exponent_upper
    omega
  have hNearest :
      Binary64.decimalMagnitude T.digits T.exponent =
          x.magnitude →
        T.nearest = x := by
    intro hMagnitude
    rw [nearest, Binary64.ofDecimal, hMagnitude, hSign,
      Binary64.ofMagnitude_parts]
  rw [Binary64.magnitude_abs] at hRounds
  rcases hSpells.value with ⟨hDigits, hExponent⟩ |
    ⟨j, hDigits, hExponent, hPower⟩
  · refine ⟨hChars, hNearest ?_, hSpells.digits_lt,
      hSpells.is_real, hSpells.power_le, ?_, ?_⟩
    · rw [hDigits, hExponent,
        Binary64.decimalMagnitude_of_small _ hSmall]
      exact hRounds
    · rwa [hExponent]
    · rwa [hDigits, hExponent]
  · refine ⟨hChars, hNearest ?_, hSpells.digits_lt,
      hSpells.is_real, hSpells.power_le, ?_, ?_⟩
    · have hShift : (-1 : Int) + (j + 1 : Nat) = d.exponent := by
        omega
      rw [hDigits, hExponent,
        Binary64.decimalMagnitude_of_small _ (by decide),
        Nat.pow_eq, Nat.pow_eq, Binary64.roundMagnitude_shift,
        hShift, hRounds]
    · rw [hExponent]
      decide
    · rw [hExponent]
      exact Binary64.exists_scale?_of_neg _ (by decide)

namespace Json

/- Zero is written as a literal, with its sign. -/
theorem exists_literal_of_zero
    (hZero : x.magnitude = 0) :
    ∃ T : Literal, T.IsTextOf x := by
  let zero : Digits :=
    ⟨['0'], by decide, by decide⟩
  let T : Literal :=
    ⟨x.isNegative, zero, some zero, none, fun _ => rfl⟩
  have hFinite : x.isFinite = true := by
    rw [Binary64.isFinite, hZero]
    decide
  have hDigits : T.digits = 0 :=
    rfl
  have hExponent : T.exponent = -1 :=
    rfl
  refine ⟨T, ?_, ?_, ?_, ?_, ?_, ?_, ?_⟩
  · rw [writeReal, Literal.chars, hFinite, Binary64.isZero,
      decide_eq_true hZero]
    change (if x.isNegative = true then '-' :: T.body else T.body) = _
    cases x.isNegative with
    | true =>
        rfl
    | false =>
        rfl
  · have hParts := x.ofMagnitude_parts
    rwa [hZero] at hParts
  · rw [hDigits]
    decide
  · intro hNone
    cases hNone
  · intro p hPower
    cases hPower
  · rw [hExponent]
    decide
  · rw [hExponent]
    exact Binary64.exists_scale?_of_neg _ (by decide)

/- The text of a finite number is a literal. -/
theorem exists_literal_of_writeReal
    (hFinite : x.isFinite = true) :
    ∃ T : Literal, T.IsTextOf x := by
  by_cases hZero : x.magnitude = 0
  · exact exists_literal_of_zero hZero
  · have hFiniteAbs : x.abs.isFinite = true := by
      rwa [Binary64.isFinite, Binary64.magnitude_abs]
    have hDecimal :
        Binary64.IsDecimalOf x.abs.shortest x.abs :=
      Binary64.isDecimalOf_shortest hFiniteAbs
        (by rwa [Binary64.magnitude_abs])
    rcases exists_literal_of_layOut x.isNegative
      hDecimal.digits_ne_zero hDecimal.digits_lt
      hDecimal.exponent_lower hDecimal.exponent_upper with
      ⟨T, hSign, hBody, hSpells⟩
    have hChars : T.chars = writeReal x := by
      rw [writeReal, Literal.chars, hSign, hBody, hFinite,
        Binary64.isZero, decide_eq_false hZero]
      cases x.isNegative with
      | true =>
          rfl
      | false =>
          rfl
    exact ⟨T, hSpells.isTextOf hDecimal
      (Binary64.exists_scale?_shortest hFinite hZero) hSign hChars⟩

end Json

end EmojiQuery
