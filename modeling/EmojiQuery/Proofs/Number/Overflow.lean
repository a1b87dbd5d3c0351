import EmojiQuery.Number.Scaled
import EmojiQuery.Proofs.Number.Shortest

/-
  Scaling rounds more than once, and could leave the range of
  finite numbers where exact reading does not. The shortest
  decimal number of a finite number is scaled to a finite one.

  Main declarations:
    * `Binary64.times_magnitude_mono`
    * `Binary64.isFinite_times_of_le`
    * `Binary64.exists_scale?_shortest`
-/

------------------------------------------------------------
-- Order of Products
------------------------------------------------------------

namespace EmojiQuery

namespace Binary64

variable {x y : Binary64}

theorem magnitude_ofRatio
    (num den : Nat) :
    (ofRatio num den).magnitude = roundMagnitude num den :=
  magnitude_ofMagnitude false
    (lt_signUnit_of_le_infinite (roundMagnitude_le num den))

/- The ratio of a number is its value. -/
theorem HasParts.ratio_eq
    {k : Nat}
    (hParts : HasParts x k) :
    0 < x.ratio.2 ∧
      (x.ratio.1 : ℚ) / x.ratio.2 =
        x.significand * 2 ^ ((k : Int) - 1074) := by
  have hTwo := zpow_eq_div (b := 2) (by decide) ((k : Int) - 1074)
  rw [Nat.cast_ofNat] at hTwo
  rw [hTwo]
  simp only [ratio, hParts.exponent_eq, Nat.pow_eq]
  refine ⟨Nat.two_pow_pos _, ?_⟩
  push_cast
  rw [mul_div_assoc]

/- Magnitudes are ordered like the ratios of their numbers. -/
theorem ratio_mono
    (hLeft : x.isFinite = true)
    (hRight : y.isFinite = true)
    (hOrder : x.magnitude ≤ y.magnitude) :
    x.ratio.1 * y.ratio.2 ≤ y.ratio.1 * x.ratio.2 := by
  rcases exists_hasParts hLeft with ⟨k, hParts⟩
  rcases exists_hasParts hRight with ⟨l, hParts'⟩
  rcases hParts.ratio_eq with ⟨hDen, hRatio⟩
  rcases hParts'.ratio_eq with ⟨hDen', hRatio'⟩
  have hPower : ∀ e : Int, (0 : ℚ) ≤ 2 ^ e :=
    fun e => (zpow_pos (by norm_num) e).le
  have hValue :
      (x.significand : ℚ) * 2 ^ ((k : Int) - 1074) ≤
        y.significand * 2 ^ ((l : Int) - 1074) := by
    rw [hParts.magnitude_eq, hParts'.magnitude_eq] at hOrder
    have hUpper := hParts.significand_lt
    have hUpper' := hParts'.significand_lt
    simp only [exponentUnit] at hOrder
    have hPlaces : k ≤ l := by
      by_contra hLess
      have hLower := hParts.le_significand.resolve_left (by omega)
      omega
    rcases Nat.eq_or_lt_of_le hPlaces with rfl | hBelow
    · apply mul_le_mul_of_nonneg_right _ (hPower _)
      exact_mod_cast (by omega : x.significand ≤ y.significand)
    · have hLower := hParts'.le_significand.resolve_left (by omega)
      have hStep :
          (2 : ℚ) ^ ((k : Int) - 1074 + 1) ≤
            2 ^ ((l : Int) - 1074) :=
        zpow_le_zpow_right₀ (by norm_num) (by omega)
      calc (x.significand : ℚ) * 2 ^ ((k : Int) - 1074)
          ≤ 2 ^ 53 * 2 ^ ((k : Int) - 1074) := by
            apply mul_le_mul_of_nonneg_right _ (hPower _)
            exact_mod_cast hUpper.le
        _ = 2 ^ 52 * 2 ^ ((k : Int) - 1074 + 1) := by
            rw [zpow_add_one₀ (by norm_num)]
            ring
        _ ≤ 2 ^ 52 * 2 ^ ((l : Int) - 1074) :=
            mul_le_mul_of_nonneg_left hStep (by norm_num)
        _ ≤ y.significand * 2 ^ ((l : Int) - 1074) := by
            apply mul_le_mul_of_nonneg_right _ (hPower _)
            exact_mod_cast hLower
  rw [← hRatio, ← hRatio',
    div_le_div_iff₀ (by exact_mod_cast hDen)
      (by exact_mod_cast hDen')] at hValue
  exact_mod_cast hValue

theorem ratio_den_pos
    (x : Binary64) :
    0 < x.ratio.2 := by
  simp only [ratio, Nat.pow_eq]
  exact Nat.two_pow_pos _

/- Greater factors make no smaller product. -/
theorem times_magnitude_mono
    {x' y' : Binary64}
    (hLeft : x.isFinite = true)
    (hRight : y.isFinite = true)
    (hOrder : x.magnitude ≤ y.magnitude)
    (hLeft' : x'.isFinite = true)
    (hRight' : y'.isFinite = true)
    (hOrder' : x'.magnitude ≤ y'.magnitude) :
    (x.times x').magnitude ≤ (y.times y').magnitude := by
  unfold times
  rw [magnitude_ofRatio, magnitude_ofRatio]
  apply roundMagnitude_mono
  · exact Nat.mul_pos x.ratio_den_pos x'.ratio_den_pos
  · exact Nat.mul_pos y.ratio_den_pos y'.ratio_den_pos
  · rw [Nat.mul_mul_mul_comm, Nat.mul_mul_mul_comm y.ratio.1]
    exact Nat.mul_le_mul (ratio_mono hLeft hRight hOrder)
      (ratio_mono hLeft' hRight' hOrder')

/- Greater integers are rounded to no smaller numbers. -/
theorem ofNat_magnitude_mono
    {m n : Nat}
    (hOrder : m ≤ n) :
    (ofNat m).magnitude ≤ (ofNat n).magnitude := by
  unfold ofNat
  rw [magnitude_ofRatio, magnitude_ofRatio]
  apply roundMagnitude_mono Nat.one_pos Nat.one_pos
  omega

theorem powerOfTen_magnitude_mono
    {j k : Nat}
    (hOrder : j ≤ k) :
    (powerOfTen j).magnitude ≤ (powerOfTen k).magnitude :=
  ofNat_magnitude_mono (Nat.pow_le_pow_right (by decide) hOrder)

theorem isFinite_of_le
    (hFinite : y.isFinite = true)
    (hOrder : x.magnitude ≤ y.magnitude) :
    x.isFinite = true := by
  simp only [isFinite, decide_eq_true_eq] at hFinite ⊢
  omega

end Binary64

end EmojiQuery

------------------------------------------------------------
-- Shortest Numbers Within Range
------------------------------------------------------------

namespace EmojiQuery

namespace Binary64

variable {x : Binary64}
variable {n : Nat}
variable {exp : Int}

/- The magnitude of the greatest finite number. -/
def greatest : Nat :=
  infinite - 1

/- The shortest decimal number of the greatest finite number. -/
def greatestDigits : Nat :=
  17976931348623157

def greatestPower : Nat :=
  292

theorem roundMagnitude_greatestDigits :
    roundMagnitude (greatestDigits * 10 ^ greatestPower) 1 = greatest := by
  decide +kernel

/- The powers of ten that are divided by in one step are finite. -/
theorem isFinite_powerOfTen
    {k : Nat}
    (hBound : k ≤ maxPower) :
    (powerOfTen k).isFinite = true := by
  have hGreatest : (powerOfTen maxPower).isFinite = true := by
    decide +kernel
  exact isFinite_of_le hGreatest
    (powerOfTen_magnitude_mono hBound)

/- Up to the greatest number there is room for the digits of any power. -/
theorem isFinite_times_of_le
    {e : Nat}
    (hPower : e ≤ maxPower)
    (hDigits : n ≤ 10 ^ 18)
    (hLess : n * 10 ^ e ≤ greatestDigits * 10 ^ greatestPower) :
    ((ofNat n).times (powerOfTen e)).isFinite = true := by
  -- smaller powers leave room for any eighteen digits
  have hAll :
      ∀ i ∈ List.range 21,
        ((ofNat (min (greatestDigits * 10 ^ greatestPower / 10 ^ (288 + i))
            (10 ^ 18))).times (powerOfTen (288 + i))).isFinite =
          true := by
    decide +kernel
  obtain ⟨i, hSmall, hBelow⟩ :
      ∃ i < 21, max e 288 = 288 + i := by
    simp only [maxPower] at hPower
    exact ⟨max e 288 - 288, by omega, by omega⟩
  have hRoom := hAll i (List.mem_range.mpr hSmall)
  have hInteger :
      n ≤ min (greatestDigits * 10 ^ greatestPower / 10 ^ (288 + i))
        (10 ^ 18) := by
    apply le_min _ hDigits
    rw [Nat.le_div_iff_mul_le (by positivity), ← hBelow]
    rcases Nat.le_total e 288 with hLow | hHigh
    · rw [Nat.max_eq_right hLow]
      calc n * 10 ^ 288 ≤ 10 ^ 18 * 10 ^ 288 :=
            Nat.mul_le_mul_right _ hDigits
        _ ≤ greatestDigits * 10 ^ greatestPower := by decide +kernel
    · rwa [Nat.max_eq_left hHigh]
  have hLargest : (ofNat (10 ^ 18)).isFinite = true := by
    decide +kernel
  apply isFinite_of_le hRoom
  apply times_magnitude_mono
  · exact isFinite_of_le hLargest (ofNat_magnitude_mono hDigits)
  · exact isFinite_of_le hLargest
      (ofNat_magnitude_mono (Nat.min_le_right _ _))
  · exact ofNat_magnitude_mono hInteger
  · exact isFinite_powerOfTen hPower
  · apply isFinite_powerOfTen
    simp only [maxPower]
    omega
  · exact powerOfTen_magnitude_mono (by omega)

/- Digits that do not exceed the greatest number are scaled. -/
theorem exists_scale?_of_le
    (hNonneg : 0 ≤ exp)
    (hDigits : n ≤ 10 ^ 18)
    (hNonzero : n ≠ 0)
    (hLess :
      n * 10 ^ exp.toNat ≤ greatestDigits * 10 ^ greatestPower) :
    ∃ y, scale? n exp = some y := by
  have hPower : exp.toNat ≤ maxPower := by
    by_contra hLarge
    have hAbove : 10 ^ (maxPower + 1) ≤ n * 10 ^ exp.toNat :=
      calc 10 ^ (maxPower + 1) ≤ 10 ^ exp.toNat :=
            Nat.pow_le_pow_right (by decide) (by omega)
        _ ≤ n * 10 ^ exp.toNat :=
            Nat.le_mul_of_pos_left _ (Nat.pos_of_ne_zero hNonzero)
    have hRange :
        greatestDigits * 10 ^ greatestPower <
          10 ^ (maxPower + 1) := by
      decide +kernel
    exact absurd (Nat.lt_of_lt_of_le hRange hAbove)
      (Nat.not_lt.mpr hLess)
  have hInRange : ¬ (maxPower : Int) < exp := by
    omega
  have hFinite := isFinite_times_of_le hPower hDigits hLess
  unfold scale?
  simp only [if_neg (Int.not_lt.mpr hNonneg), if_neg hInRange,
    hFinite, if_true]
  split
  · exact ⟨_, rfl⟩
  · exact ⟨_, rfl⟩

/- A negative power is divided by, which never fails. -/
theorem exists_scale?_of_neg
    (n : Nat)
    (hNegative : exp < 0) :
    ∃ y, scale? n exp = some y := by
  unfold scale?
  simp only [if_pos hNegative]
  exact ⟨_, rfl⟩

theorem shortest_greatest :
    (ofMagnitude false greatest).shortest =
      ⟨greatestDigits, greatestPower⟩ := by
  decide +kernel

theorem magnitude_abs
    (x : Binary64) :
    x.abs.magnitude = x.magnitude :=
  magnitude_ofMagnitude false (Nat.mod_lt _ (by decide))

/- The shortest decimal number of a finite number can be scaled. -/
theorem exists_scale?_shortest
    (hFinite : x.isFinite = true)
    (hNonzero : x.magnitude ≠ 0) :
    ∃ y,
      scale? x.abs.shortest.digits x.abs.shortest.exponent =
        some y := by
  have hFiniteAbs : x.abs.isFinite = true := by
    rwa [isFinite, magnitude_abs]
  have hDecimal : IsDecimalOf x.abs.shortest x.abs :=
    isDecimalOf_shortest hFiniteAbs (by rwa [magnitude_abs])
  have hRounds := hDecimal.rounds
  rcases Int.lt_or_le x.abs.shortest.exponent 0 with
    hNegative | hNonneg
  · exact exists_scale?_of_neg _ hNegative
  · apply exists_scale?_of_le hNonneg hDecimal.digits_lt.le
      hDecimal.digits_ne_zero
    rcases Nat.lt_or_ge x.abs.magnitude greatest with
      hBelow | hGreatest
    · by_contra hLarge
      have hUnit : (-x.abs.shortest.exponent).toNat = 0 := by
        omega
      rw [hUnit, Nat.pow_zero] at hRounds
      have hOrder :
          roundMagnitude (greatestDigits * 10 ^ greatestPower) 1 ≤
            x.abs.magnitude := by
        rw [← hRounds]
        apply roundMagnitude_mono Nat.one_pos Nat.one_pos
        rw [Nat.mul_one, Nat.mul_one]
        exact Nat.le_of_not_le hLarge
      rw [roundMagnitude_greatestDigits] at hOrder
      exact absurd hBelow (Nat.not_lt.mpr hOrder)
    · have hEqual : x.magnitude = greatest := by
        rw [magnitude_abs] at hGreatest
        rw [isFinite, decide_eq_true_eq] at hFinite
        simp only [greatest] at hGreatest ⊢
        omega
      have hAbs : x.abs = ofMagnitude false greatest := by
        rw [abs, hEqual]
      rw [hAbs, shortest_greatest]
      simp only [Int.toNat_natCast, Nat.le_refl]

end Binary64

end EmojiQuery
