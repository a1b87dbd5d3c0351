import Mathlib.Tactic.Linarith
import EmojiQuery.Proofs.Number.Overflow

/-
  The values of numbers, and how far rounding takes a ratio
  from its value. Each rounding changes a number by a factor
  near one, and numbers that differ by such factors are only as
  many numbers apart.

  Main declarations:
    * `Binary64.value`
    * `Binary64.valueAt_mul_pow_le`
    * `Binary64.Close`
    * `Binary64.close_ofRatio`
    * `Binary64.roundMagnitude_le_of_close`
-/

------------------------------------------------------------
-- Values
------------------------------------------------------------

namespace EmojiQuery

namespace Binary64

variable {x y : Binary64}
variable {num den k : Nat}

/- The size of a finite number. -/
def value
    (x : Binary64) : ℚ :=
  x.ratio.1 / x.ratio.2

theorem HasParts.value_eq
    (hParts : HasParts x k) :
    x.value = x.significand * 2 ^ ((k : Int) - 1074) :=
  hParts.ratio_eq.2

/- Magnitudes are ordered like the values of their numbers. -/
theorem value_mono
    (hLeft : x.isFinite = true)
    (hRight : y.isFinite = true)
    (hOrder : x.magnitude ≤ y.magnitude) :
    x.value ≤ y.value := by
  have hDen : (0 : ℚ) < x.ratio.2 := by
    exact_mod_cast x.ratio_den_pos
  have hDen' : (0 : ℚ) < y.ratio.2 := by
    exact_mod_cast y.ratio_den_pos
  unfold value
  rw [div_le_div_iff₀ hDen hDen']
  exact_mod_cast ratio_mono hLeft hRight hOrder

/- A number is rounded to itself. -/
theorem roundMagnitude_ratio
    (hFinite : x.isFinite = true) :
    roundMagnitude x.ratio.1 x.ratio.2 = x.magnitude := by
  rcases exists_hasParts hFinite with ⟨k, hParts⟩
  have hExponent := hParts.exponent_eq
  have hUp : x.exponent.toNat = k - 1074 := by
    omega
  have hDown : (-x.exponent).toNat = 1074 - k := by
    omega
  have hRatio :
      x.ratio = (x.significand * 2 ^ (k - 1074), 2 ^ (1074 - k)) := by
    simp only [ratio, hUp, hDown, Nat.pow_eq]
  rw [hRatio]
  rcases Nat.eq_zero_or_pos x.significand with hZero | hPositive
  · have hMagnitude := hParts.magnitude_eq
    have hPlace : k = 0 := by
      have := hParts.le_significand
      omega
    rw [hZero, hPlace, Nat.zero_mul] at hMagnitude
    simp only [hZero, Nat.zero_mul]
    rw [hMagnitude, roundMagnitude, if_pos rfl]
  · have hNum : 0 < x.significand * 2 ^ (k - 1074) :=
      Nat.mul_pos hPositive (Nat.two_pow_pos _)
    have hSame :
        x.significand * (2 ^ (1074 - k) * 2 ^ (k - 1074)) =
          x.significand * 2 ^ (k - 1074) * 2 ^ (1074 - k) := by
      ring
    have hUnit : 0 < 2 ^ (1074 - k) * 2 ^ (k - 1074) :=
      Nat.mul_pos (Nat.two_pow_pos _) (Nat.two_pow_pos _)
    apply roundMagnitude_of_near hParts hNum (Nat.two_pow_pos _)
    constructor
    all_goals rw [hSame]
    · omega
    · omega
    · intro _
      omega
    · intro _ _
      omega

/- A ratio is compared with a number before it is rounded. -/
theorem le_roundMagnitude_of_value_le
    (hFinite : x.isFinite = true)
    (hDen : 0 < den)
    (hOrder : x.value ≤ (num : ℚ) / den) :
    x.magnitude ≤ roundMagnitude num den := by
  have hDen' : (0 : ℚ) < x.ratio.2 := by
    exact_mod_cast x.ratio_den_pos
  rw [value, div_le_div_iff₀ hDen' (by exact_mod_cast hDen)]
    at hOrder
  rw [← roundMagnitude_ratio hFinite]
  apply roundMagnitude_mono x.ratio_den_pos hDen
  exact_mod_cast hOrder

theorem roundMagnitude_le_of_le_value
    (hFinite : x.isFinite = true)
    (hDen : 0 < den)
    (hOrder : (num : ℚ) / den ≤ x.value) :
    roundMagnitude num den ≤ x.magnitude := by
  have hDen' : (0 : ℚ) < x.ratio.2 := by
    exact_mod_cast x.ratio_den_pos
  rw [value, div_le_div_iff₀ (by exact_mod_cast hDen) hDen']
    at hOrder
  rw [← roundMagnitude_ratio hFinite]
  apply roundMagnitude_mono hDen x.ratio_den_pos
  exact_mod_cast hOrder

/- The factor by which the next number is greater at least. -/
def step : ℚ :=
  1 + 2 ^ (-53 : Int)

theorem one_le_step :
    1 ≤ step := by
  unfold step
  norm_num

/- Each number is greater than the one before by that factor. -/
theorem value_mul_step_le
    (hLeft : x.isFinite = true)
    (hRight : y.isFinite = true)
    (hNext : y.magnitude = x.magnitude + 1) :
    x.value * step ≤ y.value := by
  rcases exists_hasParts hLeft with ⟨k, hParts⟩
  rcases exists_hasParts hRight with ⟨l, hParts'⟩
  have hUpper := hParts.significand_lt
  have hPlaces :
      l = k ∧ y.significand = x.significand + 1 ∨
        l = k + 1 ∧ x.significand + 1 = 2 ^ 53 ∧
          y.significand = 2 ^ 52 := by
    have hUpper' := hParts'.significand_lt
    have hLower := hParts.le_significand
    have hLower' := hParts'.le_significand
    rw [hParts.magnitude_eq, hParts'.magnitude_eq] at hNext
    simp only [exponentUnit] at hNext
    omega
  have hUnit : (0 : ℚ) < 2 ^ ((k : Int) - 1074) :=
    zpow_pos (by norm_num) _
  have hValue :
      y.value = (x.significand + 1) * 2 ^ ((k : Int) - 1074) := by
    rw [hParts'.value_eq]
    rcases hPlaces with ⟨rfl, hMore⟩ | ⟨rfl, hCarry, hPower⟩
    · rw [hMore]
      push_cast
      ring
    · have hSum : (x.significand : ℚ) + 1 = 2 ^ 53 := by
        exact_mod_cast hCarry
      have hNextPlace :
          ((k + 1 : Nat) : Int) - 1074 = (k : Int) - 1074 + 1 := by
        omega
      rw [hSum, hPower, hNextPlace, zpow_add_one₀ (by norm_num)]
      push_cast
      ring
  have hSmall : (x.significand : ℚ) * 2 ^ (-53 : Int) ≤ 1 := by
    have hBound : (x.significand : ℚ) ≤ 2 ^ 53 := by
      exact_mod_cast hUpper.le
    calc (x.significand : ℚ) * 2 ^ (-53 : Int)
        ≤ 2 ^ 53 * 2 ^ (-53 : Int) :=
          mul_le_mul_of_nonneg_right hBound (by norm_num)
      _ = 1 := by norm_num
  rw [hValue, hParts.value_eq, mul_right_comm]
  apply mul_le_mul_of_nonneg_right _ hUnit.le
  unfold step
  linarith

/- The value of the number with a magnitude. -/
def valueAt
    (m : Nat) : ℚ :=
  (ofMagnitude false m).value

theorem isFinite_ofMagnitude
    {m : Nat}
    (hFinite : m < infinite) :
    (ofMagnitude false m).magnitude = m ∧
      (ofMagnitude false m).isFinite = true := by
  have hMagnitude :
      (ofMagnitude false m).magnitude = m :=
    magnitude_ofMagnitude false
      (lt_signUnit_of_le_infinite (Nat.le_of_lt hFinite))
  refine ⟨hMagnitude, ?_⟩
  rw [isFinite, hMagnitude, decide_eq_true hFinite]

theorem valueAt_mul_pow_le
    {m : Nat}
    (j : Nat)
    (hFinite : m + j < infinite) :
    valueAt m * step ^ j ≤ valueAt (m + j) := by
  induction j with
  | zero =>
      rw [pow_zero, mul_one, Nat.add_zero]
  | succ j ih =>
      rcases isFinite_ofMagnitude (m := m + j) (by omega) with
        ⟨hMagnitude, hFiniteHere⟩
      rcases isFinite_ofMagnitude (m := m + j + 1) hFinite with
        ⟨hMagnitude', hFiniteNext⟩
      have hNext := value_mul_step_le hFiniteHere hFiniteNext
        (by rw [hMagnitude, hMagnitude'])
      have hStep : 0 ≤ step :=
        le_trans zero_le_one one_le_step
      calc valueAt m * step ^ (j + 1)
          = valueAt m * step ^ j * step := by ring
        _ ≤ valueAt (m + j) * step :=
            mul_le_mul_of_nonneg_right (ih (by omega)) hStep
        _ ≤ valueAt (m + (j + 1)) := hNext

end Binary64

end EmojiQuery

------------------------------------------------------------
-- Rounding Errors
------------------------------------------------------------

namespace EmojiQuery

namespace Binary64

variable {i j : Nat}
variable {p p' q q' : ℚ}

/- Two numbers differ by so many steps at most, in either direction. -/
structure Close
    (j : Nat)
    (p q : ℚ) : Prop where
  upper : p ≤ q * step ^ j
  lower : q ≤ p * step ^ j

theorem step_pow_pos
    (j : Nat) :
    0 < step ^ j :=
  pow_pos (lt_of_lt_of_le zero_lt_one one_le_step) j

theorem Close.trans
    {r : ℚ}
    (hLeft : Close i p q)
    (hRight : Close j q r) :
    Close (i + j) p r := by
  constructor
  · calc p ≤ q * step ^ i := hLeft.upper
      _ ≤ r * step ^ j * step ^ i :=
          mul_le_mul_of_nonneg_right hRight.upper
            (step_pow_pos i).le
      _ = r * step ^ (i + j) := by ring
  · calc r ≤ q * step ^ j := hRight.lower
      _ ≤ p * step ^ i * step ^ j :=
          mul_le_mul_of_nonneg_right hLeft.lower
            (step_pow_pos j).le
      _ = p * step ^ (i + j) := by ring

theorem Close.pos
    (hClose : Close j p q)
    (hPositive : 0 < q) :
    0 < p := by
  have hProduct := lt_of_lt_of_le hPositive hClose.lower
  exact (mul_pos_iff_of_pos_right (step_pow_pos j)).mp hProduct

/- The errors of factors add up. -/
theorem Close.mul
    (hLeft : Close i p q)
    (hRight : Close j p' q')
    (hPositive : 0 < q)
    (hPositive' : 0 < q') :
    Close (i + j) (p * p') (q * q') := by
  have hPos := hLeft.pos hPositive
  have hPos' := hRight.pos hPositive'
  have hPower := step_pow_pos i
  constructor
  · calc p * p' ≤ q * step ^ i * (q' * step ^ j) :=
          mul_le_mul hLeft.upper hRight.upper hPos'.le
            (mul_pos hPositive hPower).le
      _ = q * q' * step ^ (i + j) := by ring
  · calc q * q' ≤ p * step ^ i * (p' * step ^ j) :=
          mul_le_mul hLeft.lower hRight.lower hPositive'.le
            (mul_pos hPos hPower).le
      _ = p * p' * step ^ (i + j) := by ring

/- So do those of a dividend and a divisor. -/
theorem Close.inv
    (hClose : Close j p q)
    (hPositive : 0 < q) :
    Close j p⁻¹ q⁻¹ := by
  have hPos := hClose.pos hPositive
  have hPower := step_pow_pos j
  constructor
  · rw [inv_mul_eq_div, ← one_div, div_le_div_iff₀ hPos hPositive,
      one_mul, mul_comm]
    exact hClose.lower
  · rw [inv_mul_eq_div, ← one_div, div_le_div_iff₀ hPositive hPos,
      one_mul, mul_comm]
    exact hClose.upper

theorem Close.div
    (hLeft : Close i p q)
    (hRight : Close j p' q')
    (hPositive : 0 < q)
    (hPositive' : 0 < q') :
    Close (i + j) (p / p') (q / q') := by
  rw [div_eq_mul_inv, div_eq_mul_inv]
  exact hLeft.mul (hRight.inv hPositive') hPositive
    (inv_pos.mpr hPositive')

variable {num den : Nat}

/- The least number whose significand has all of its digits. -/
def leastNormal : ℚ :=
  2 ^ 52 * 2 ^ (-1074 : Int)

theorem leastNormal_pos :
    0 < leastNormal :=
  mul_pos (by norm_num) (zpow_pos (by norm_num) _)

theorem leastNormal_le_one :
    leastNormal ≤ 1 :=
  calc leastNormal ≤ 2 ^ 52 * 2 ^ (-52 : Int) := by
        apply mul_le_mul_of_nonneg_left _ (by norm_num)
        exact zpow_le_zpow_right₀ (by norm_num) (by decide)
    _ = 1 := by norm_num

/- The value of a rounded ratio is the rounded quotient at its place. -/
theorem value_ofRatio
    {k : Nat}
    (hNum : 0 < num)
    (hDen : 0 < den)
    (hPlace : HasPlace num den k)
    (hFinite : (ofRatio num den).isFinite = true) :
    (ofRatio num den).value =
      divRound (num * 2 ^ (1074 - k)) (den * 2 ^ (k - 1074)) *
        2 ^ ((k : Int) - 1074) := by
  rcases exists_hasParts hFinite with ⟨l, hParts⟩
  have hMagnitude := hParts.magnitude_eq
  have hMost := hPlace.divRound_le hDen
  have hLeast := fun hAbove => hPlace.le_divRound hDen hAbove
  have hUpper := hParts.significand_lt
  have hLower := hParts.le_significand
  rw [isFinite, decide_eq_true_eq, magnitude_ofRatio,
    roundMagnitude_of_place hNum hDen hPlace] at hFinite
  rw [magnitude_ofRatio, roundMagnitude_of_place hNum hDen hPlace]
    at hMagnitude
  rw [hParts.value_eq]
  generalize divRound (num * 2 ^ (1074 - k))
    (den * 2 ^ (k - 1074)) = m at *
  generalize (ofRatio num den).significand = s at *
  have hCases :
      l = k ∧ s = m ∨ l = k + 1 ∧ m = 2 ^ 53 ∧ s = 2 ^ 52 := by
    simp only [exponentUnit, infinite] at hMagnitude hFinite
    omega
  rcases hCases with ⟨rfl, rfl⟩ | ⟨rfl, rfl, rfl⟩
  · rfl
  · have hNextPlace :
        ((k + 1 : Nat) : Int) - 1074 = (k : Int) - 1074 + 1 := by
      omega
    rw [hNextPlace, zpow_add_one₀ (by norm_num)]
    push_cast
    ring

/- A rounded quotient is within half a unit of its place. -/
theorem divRound_place_error
    (num k : Nat)
    (hDen : 0 < den) :
    (divRound (num * 2 ^ (1074 - k)) (den * 2 ^ (k - 1074)) : ℚ) *
          2 ^ ((k : Int) - 1074) ≤
        num / den + 2 ^ ((k : Int) - 1074) / 2 ∧
      (num : ℚ) / den ≤
        divRound (num * 2 ^ (1074 - k)) (den * 2 ^ (k - 1074)) *
            2 ^ ((k : Int) - 1074) +
          2 ^ ((k : Int) - 1074) / 2 := by
  have hTwo := zpow_eq_div (b := 2) (by decide) ((k : Int) - 1074)
  have hUp : ((k : Int) - 1074).toNat = k - 1074 := by
    omega
  have hDown : (-((k : Int) - 1074)).toNat = 1074 - k := by
    omega
  rw [hUp, hDown, Nat.cast_ofNat] at hTwo
  rw [hTwo]
  have hUpPos : 0 < 2 ^ (k - 1074) :=
    Nat.two_pow_pos _
  have hDownPos : 0 < 2 ^ (1074 - k) :=
    Nat.two_pow_pos _
  generalize 2 ^ (k - 1074) = up at *
  generalize 2 ^ (1074 - k) = down at *
  have hError := divRound_error (num * down) (Nat.mul_pos hDen hUpPos)
  generalize divRound (num * down) (den * up) = m at *
  have hLower :
      2 * ((num : ℚ) * down) ≤ 2 * (m * (den * up)) + den * up := by
    exact_mod_cast hError.1
  have hUpper :
      2 * (m * ((den : ℚ) * up)) ≤ 2 * (num * down) + den * up := by
    exact_mod_cast hError.2
  have hDenRat : (0 : ℚ) < den := by
    exact_mod_cast hDen
  have hDownRat : (0 : ℚ) < down := by
    exact_mod_cast hDownPos
  have hScale : (0 : ℚ) < den * down :=
    mul_pos hDenRat hDownRat
  have hQuotient : (num : ℚ) / den * (den * down) = num * down := by
    field_simp
  have hRounded :
      (m : ℚ) * (up / down) * (den * down) = m * (den * up) := by
    field_simp
  have hHalf :
      (up : ℚ) / down / 2 * (den * down) = den * up / 2 := by
    field_simp
  constructor
  · apply le_of_mul_le_mul_right _ hScale
    rw [add_mul, hQuotient, hRounded, hHalf]
    linarith
  · apply le_of_mul_le_mul_right _ hScale
    rw [add_mul, hQuotient, hRounded, hHalf]
    linarith

/- Rounding is one step at most, where no digits are lost. -/
theorem close_ofRatio
    (hDen : 0 < den)
    (hNormal : leastNormal ≤ (num : ℚ) / den)
    (hFinite : (ofRatio num den).isFinite = true) :
    Close 1 (ofRatio num den).value ((num : ℚ) / den) := by
  have hRatio : (0 : ℚ) < num / den :=
    lt_of_lt_of_le leastNormal_pos hNormal
  have hNum : 0 < num := by
    apply Nat.pos_of_ne_zero
    rintro rfl
    simp at hRatio
  rcases exists_hasPlace hNum hDen with ⟨k, hPlace⟩
  have hUnit : (0 : ℚ) < 2 ^ ((k : Int) - 1074) :=
    zpow_pos (by norm_num) _
  have hLeast :
      2 ^ 52 * (2 : ℚ) ^ ((k : Int) - 1074) ≤ num / den := by
    rcases hPlace.lower with rfl | hLower
    · rwa [Nat.cast_zero, Int.zero_sub]
    · rw [← Nat.not_lt, lt_place_iff num hDen, not_lt,
        zpow_add₀ (by norm_num)] at hLower
      linarith
  rcases divRound_place_error num k hDen with ⟨hUpper, hLower⟩
  rw [value_ofRatio hNum hDen hPlace hFinite]
  generalize divRound (num * 2 ^ (1074 - k))
    (den * 2 ^ (k - 1074)) = m at *
  generalize (num : ℚ) / den = q at *
  generalize (2 : ℚ) ^ ((k : Int) - 1074) = unit at *
  have hDigits : (2 : ℚ) ^ 52 ≤ m := by
    have hAbove : (2 : ℚ) ^ 52 < m + 1 := by
      apply lt_of_mul_lt_mul_right _ hUnit.le
      calc 2 ^ 52 * unit ≤ q := hLeast
        _ ≤ m * unit + unit / 2 := hLower
        _ < (m + 1) * unit := by linarith
    have hInteger : 2 ^ 52 < m + 1 := by
      exact_mod_cast hAbove
    exact_mod_cast Nat.le_of_lt_succ hInteger
  -- half a unit is one step of what has all of its digits
  have hHalf :
      ∀ r : ℚ, 2 ^ 52 * unit ≤ r →
        r + unit / 2 ≤ r * step ^ 1 := by
    intro r hLarge
    have hProduct :=
      mul_le_mul_of_nonneg_right hLarge
        (zpow_pos (a := (2 : ℚ)) (by norm_num) (-53)).le
    have hUnitHalf :
        2 ^ 52 * unit * (2 : ℚ) ^ (-53 : Int) = unit / 2 := by
      norm_num
      ring
    rw [pow_one, step, mul_add, mul_one]
    linarith
  constructor
  · exact le_trans hUpper (hHalf q hLeast)
  · apply le_trans hLower (hHalf _ _)
    exact mul_le_mul_of_nonneg_right hDigits hUnit.le

variable {num' den' : Nat}

/-
  A ratio that is greater by some steps at most is rounded to a
  number that is only one more number further away.
-/
theorem roundMagnitude_le_of_close
    (hDen : 0 < den)
    (hDen' : 0 < den')
    (hClose :
      (num : ℚ) / den ≤ num' / den' * step ^ j)
    (hFinite : roundMagnitude num den < infinite) :
    roundMagnitude num den ≤
      roundMagnitude num' den' + (j + 1) := by
  by_contra hFar
  obtain ⟨m, hMagnitude⟩ : ∃ m, roundMagnitude num' den' + 1 = m :=
    ⟨_, rfl⟩
  rcases isFinite_ofMagnitude (m := m) (by omega) with
    ⟨hHere, hFiniteHere⟩
  rcases isFinite_ofMagnitude (m := m + j) (by omega) with
    ⟨hThere, hFiniteThere⟩
  have hBelow : (num' : ℚ) / den' ≤ valueAt m := by
    by_contra hAbove
    have hLeast := le_roundMagnitude_of_value_le hFiniteHere hDen'
      (le_of_not_ge hAbove)
    omega
  have hMost : (num : ℚ) / den ≤ valueAt (m + j) :=
    calc (num : ℚ) / den ≤ num' / den' * step ^ j := hClose
      _ ≤ valueAt m * step ^ j :=
          mul_le_mul_of_nonneg_right hBelow (step_pow_pos j).le
      _ ≤ valueAt (m + j) := valueAt_mul_pow_le j (by omega)
  have hRounded :=
    roundMagnitude_le_of_le_value hFiniteThere hDen hMost
  omega

end Binary64

end EmojiQuery
