import EmojiQuery.Proofs.Number.Closeness
import EmojiQuery.Proofs.Number.Scaling

/-
  How far scaling strays from the nearest number. The integer,
  the power of ten and each quotient by it are rounded, which
  makes up four roundings before the last one.

  Main declarations:
    * `Binary64.close_times`
    * `Binary64.close_secondQuotient`
    * `Binary64.WithinFive`
    * `Binary64.withinFive_of_scale?`
-/

------------------------------------------------------------
-- Scaled Numbers
------------------------------------------------------------

namespace EmojiQuery

namespace Binary64

variable {x y : Binary64}
variable {num den num' den' n j k : Nat}
variable {exp : Int}

theorem value_powerOfTen_zero :
    (powerOfTen 0).value = 1 := by
  rcases ratio_powerOfTen (Nat.zero_le 22) with ⟨hDen, hRatio⟩
  rw [Nat.pow_eq, Nat.pow_zero, Nat.one_mul] at hRatio
  have hNonzero : ((powerOfTen 0).ratio.2 : ℚ) ≠ 0 := by
    exact_mod_cast Nat.ne_of_gt hDen
  rw [value, hRatio, div_self hNonzero]

theorem one_le_value_powerOfTen
    (hPower : k ≤ maxPower) :
    1 ≤ (powerOfTen k).value := by
  rw [← value_powerOfTen_zero]
  apply value_mono
  · exact isFinite_powerOfTen (Nat.zero_le _)
  · exact isFinite_powerOfTen hPower
  · exact powerOfTen_magnitude_mono (Nat.zero_le k)

/- Integers and powers of ten are rounded by one step at most. -/
theorem close_ofNat
    (hPositive : 0 < n)
    (hFinite : (ofNat n).isFinite = true) :
    Close 1 (ofNat n).value n := by
  have hAtLeast : (1 : ℚ) ≤ n := by
    exact_mod_cast hPositive
  have hNormal : leastNormal ≤ (n : ℚ) / (1 : Nat) := by
    rw [Nat.cast_one, div_one]
    exact le_trans leastNormal_le_one hAtLeast
  have hClose := close_ofRatio Nat.one_pos hNormal hFinite
  rwa [Nat.cast_one, div_one] at hClose

theorem close_powerOfTen
    (hPower : k ≤ maxPower) :
    Close 1 (powerOfTen k).value (10 ^ k) := by
  have hClose :=
    close_ofNat (Nat.pow_pos (n := k) (by decide : 0 < 10))
      (isFinite_powerOfTen hPower)
  rwa [Nat.cast_pow] at hClose

/- Products and quotients of values. -/
theorem value_times
    (x y : Binary64) :
    ((x.ratio.1 * y.ratio.1 : Nat) : ℚ) /
        (x.ratio.2 * y.ratio.2 : Nat) =
      x.value * y.value := by
  rw [value, value, div_mul_div_comm]
  push_cast
  rfl

theorem value_dividedBy
    (x y : Binary64) :
    ((x.ratio.1 * y.ratio.2 : Nat) : ℚ) /
        (x.ratio.2 * y.ratio.1 : Nat) =
      x.value / y.value := by
  rw [value, value, div_div_div_eq]
  push_cast
  rfl

theorem ratio_num_pos
    (hValue : 0 < x.value) :
    0 < x.ratio.1 := by
  apply Nat.pos_of_ne_zero
  intro hZero
  rw [value, hZero, Nat.cast_zero, zero_div] at hValue
  exact lt_irrefl 0 hValue

/- A quotient by one or more stays finite. -/
theorem isFinite_dividedBy
    (hFinite : x.isFinite = true)
    (hLarge : 1 ≤ y.value) :
    (x.dividedBy y).isFinite = true := by
  have hPositive : 0 < y.ratio.1 :=
    ratio_num_pos (lt_of_lt_of_le zero_lt_one hLarge)
  have hNonneg : 0 ≤ x.value := by
    unfold value
    positivity
  apply isFinite_of_le hFinite
  rw [dividedBy, magnitude_ofRatio]
  apply roundMagnitude_le_of_le_value hFinite
  · exact Nat.mul_pos x.ratio_den_pos hPositive
  · rw [value_dividedBy]
    exact div_le_self hNonneg hLarge

/- The product with a power of ten strays by two roundings. -/
theorem close_times
    (hPositive : 0 < n)
    (hFinite : (ofNat n).isFinite = true)
    (hPower : k ≤ maxPower) :
    Close 2 ((ofNat n).value * (powerOfTen k).value)
      (n * 10 ^ k) :=
  (close_ofNat hPositive hFinite).mul (close_powerOfTen hPower)
    (by exact_mod_cast hPositive) (by positivity)

/- So does the quotient. -/
theorem close_dividedBy
    (hPositive : 0 < n)
    (hFinite : (ofNat n).isFinite = true)
    (hPower : k ≤ maxPower) :
    Close 2 ((ofNat n).value / (powerOfTen k).value)
      (n / 10 ^ k) :=
  (close_ofNat hPositive hFinite).div (close_powerOfTen hPower)
    (by exact_mod_cast hPositive) (by positivity)

/- The first quotient of two is no number that loses digits. -/
theorem leastNormal_le_quotient
    (hThree : 3 ≤ n)
    (hFinite : (ofNat n).isFinite = true) :
    leastNormal ≤
      (ofNat n).value / (powerOfTen maxPower).value := by
  have hClose := close_dividedBy (by omega) hFinite
    (Nat.le_refl maxPower)
  have hSquare : step ^ 2 ≤ 4 / 3 := by
    unfold step
    norm_num
  have hRoom :
      leastNormal * (4 / 3) ≤ 3 / 10 ^ maxPower := by
    have hIntegers :
        4 * 2 ^ 52 * 10 ^ maxPower ≤ 3 * 3 * 2 ^ 1074 := by
      decide +kernel
    have hCast :
        (4 : ℚ) * 2 ^ 52 * 10 ^ maxPower ≤ 3 * 3 * 2 ^ 1074 := by
      exact_mod_cast hIntegers
    have hUnit :
        (2 : ℚ) ^ (-1074 : Int) = 1 / 2 ^ 1074 := by
      rw [zpow_neg, one_div]
      rfl
    have hTwo : (0 : ℚ) < 2 ^ 1074 := by
      positivity
    have hTen : (0 : ℚ) < 10 ^ maxPower := by
      positivity
    rw [leastNormal, hUnit]
    generalize (2 : ℚ) ^ 1074 = two at *
    generalize (10 : ℚ) ^ maxPower = ten at *
    rw [le_div_iff₀ hTen, mul_one_div, div_mul_eq_mul_div,
      div_mul_eq_mul_div, div_le_iff₀ hTwo]
    linarith
  have hThreeRat : (3 : ℚ) ≤ n := by
    exact_mod_cast hThree
  apply le_of_mul_le_mul_right _ (step_pow_pos 2)
  calc leastNormal * step ^ 2 ≤ leastNormal * (4 / 3) :=
        mul_le_mul_of_nonneg_left hSquare leastNormal_pos.le
    _ ≤ 3 / 10 ^ maxPower := hRoom
    _ ≤ n / 10 ^ maxPower :=
        div_le_div_of_nonneg_right hThreeRat (by positivity)
    _ ≤ _ := hClose.lower

/- The first quotient of two strays by three roundings. -/
theorem close_firstQuotient
    (hThree : 3 ≤ n)
    (hFinite : (ofNat n).isFinite = true) :
    Close 3 ((ofNat n).dividedBy (powerOfTen maxPower)).value
      (n / 10 ^ maxPower) := by
  have hLarge := one_le_value_powerOfTen (Nat.le_refl maxPower)
  have hOnce := close_dividedBy (by omega) hFinite
    (Nat.le_refl maxPower)
  have hNormal := leastNormal_le_quotient hThree hFinite
  have hDen :
      0 < (ofNat n).ratio.2 * (powerOfTen maxPower).ratio.1 :=
    Nat.mul_pos (ofNat n).ratio_den_pos
      (ratio_num_pos (lt_of_lt_of_le zero_lt_one hLarge))
  rw [← value_dividedBy] at hNormal hOnce
  have hRounded :=
    close_ofRatio hDen hNormal (isFinite_dividedBy hFinite hLarge)
  exact hRounded.trans hOnce

/- The second quotient strays by one rounding more. -/
theorem close_secondQuotient
    (hThree : 3 ≤ n)
    (hFinite : (ofNat n).isFinite = true)
    (hPower : k ≤ maxPower) :
    Close 4
      (((ofNat n).dividedBy (powerOfTen maxPower)).value /
        (powerOfTen k).value)
      (n / 10 ^ (maxPower + k)) := by
  have hPositive : (0 : ℚ) < n := by
    exact_mod_cast Nat.lt_of_lt_of_le (by decide) hThree
  have hFirst := close_firstQuotient hThree hFinite
  have hBoth := hFirst.div (close_powerOfTen hPower)
    (by positivity) (by positivity)
  rwa [div_div, ← pow_add] at hBoth

/- A power that is not finite is divided by in two steps. -/
theorem scale?_of_deep
    (hNonzero : (ofNat n).isZero = false)
    (hNonzero' :
      ((ofNat n).dividedBy (powerOfTen maxPower)).isZero = false)
    (hDeep : maxPower < k)
    (hBound : k ≤ 2 * maxPower) :
    scale? n (-(k : Int)) =
      some (((ofNat n).dividedBy (powerOfTen maxPower)).dividedBy
        (powerOfTen (k - maxPower))) := by
  have hNegative : -(k : Int) < 0 := by
    omega
  have hRest : k - maxPower ≤ maxPower := by
    omega
  unfold scale?
  simp only [if_pos hNegative, Int.natAbs_neg, Int.natAbs_natCast]
  rw [scaleDown, hNonzero, if_neg Bool.false_ne_true,
    if_neg (Nat.not_le.mpr hDeep), scaleDown, hNonzero',
    if_neg Bool.false_ne_true, if_pos hRest]

theorem isZero_of_value_pos
    (hValue : 0 < x.value) :
    x.isZero = false := by
  rw [← Bool.not_eq_true]
  intro hZero
  rw [value, ratio_of_isZero hZero, Nat.cast_zero, zero_div]
    at hValue
  exact lt_irrefl 0 hValue

theorem isNegative_ofRatio
    (num den : Nat) :
    (ofRatio num den).isNegative = false :=
  isNegative_ofMagnitude false
    (lt_signUnit_of_le_infinite (roundMagnitude_le num den))

/- A positive power that is scaled by is finite, and so is the result. -/
theorem bounds_of_scale?
    (hNonneg : 0 ≤ exp)
    (hNonzero : (ofNat n).isZero = false)
    (hScale : scale? n exp = some x) :
    exp.toNat ≤ maxPower ∧ x.isFinite = true := by
  unfold scale? at hScale
  simp only [hNonzero, Bool.false_eq_true, if_false,
    if_neg (Int.not_lt.mpr hNonneg)] at hScale
  split at hScale
  · cases hScale
  · next hPower =>
      split at hScale
      · next hFinite =>
          obtain rfl := Option.some.inj hScale
          exact ⟨by omega, hFinite⟩
      · cases hScale

/-
  Two numbers are within five numbers of each other, and the
  first is finite.
-/
def WithinFive
    (y : Binary64)
    (m : Nat) : Prop :=
  y.isFinite = true ∧ y.magnitude ≤ m + 5 ∧ m ≤ y.magnitude + 5

instance
    (y : Binary64)
    (m : Nat) :
    Decidable (WithinFive y m) := by
  unfold WithinFive
  infer_instance

/- Four roundings stray by five numbers at most. -/
theorem withinFive_of_close
    (hDen : 0 < den)
    (hDen' : 0 < den')
    (hSteps : j ≤ 4)
    (hClose : Close j ((num : ℚ) / den) (num' / den'))
    (hFinite : (ofRatio num den).isFinite = true)
    (hFinite' : roundMagnitude num' den' < infinite) :
    WithinFive (ofRatio num den) (roundMagnitude num' den') := by
  have hRounded := hFinite
  rw [isFinite, decide_eq_true_eq, magnitude_ofRatio] at hRounded
  have hAbove :=
    roundMagnitude_le_of_close hDen hDen' hClose.upper hRounded
  have hBelow :=
    roundMagnitude_le_of_close hDen' hDen hClose.lower hFinite'
  refine ⟨hFinite, ?_, ?_⟩
  all_goals
    rw [magnitude_ofRatio]
    omega

theorem withinFive_of_times
    (hPositive : 0 < n)
    (hFinite : (ofNat n).isFinite = true)
    (hPower : k ≤ maxPower)
    (hProduct : ((ofNat n).times (powerOfTen k)).isFinite = true)
    (hNearest : roundMagnitude (n * 10 ^ k) 1 < infinite) :
    WithinFive ((ofNat n).times (powerOfTen k))
      (roundMagnitude (n * 10 ^ k) 1) := by
  have hClose := close_times hPositive hFinite hPower
  rw [← value_times] at hClose
  apply withinFive_of_close (j := 2) _ Nat.one_pos (by decide) _
    hProduct hNearest
  · exact Nat.mul_pos (ofNat n).ratio_den_pos
      (powerOfTen k).ratio_den_pos
  · rw [Nat.cast_one, div_one]
    exact_mod_cast hClose

theorem withinFive_of_dividedBy
    (hPositive : 0 < n)
    (hFinite : (ofNat n).isFinite = true)
    (hPower : k ≤ maxPower)
    (hNearest : roundMagnitude n (10 ^ k) < infinite) :
    WithinFive ((ofNat n).dividedBy (powerOfTen k))
      (roundMagnitude n (10 ^ k)) := by
  have hLarge := one_le_value_powerOfTen hPower
  have hClose := close_dividedBy hPositive hFinite hPower
  rw [← value_dividedBy] at hClose
  apply withinFive_of_close (j := 2) _ (by positivity) (by decide)
    _ (isFinite_dividedBy hFinite hLarge) hNearest
  · exact Nat.mul_pos (ofNat n).ratio_den_pos
      (ratio_num_pos (lt_of_lt_of_le zero_lt_one hLarge))
  · exact_mod_cast hClose

theorem withinFive_of_dividedBy_twice
    (hThree : 3 ≤ n)
    (hFinite : (ofNat n).isFinite = true)
    (hPower : k ≤ maxPower)
    (hNearest : roundMagnitude n (10 ^ (maxPower + k)) < infinite) :
    WithinFive
      (((ofNat n).dividedBy (powerOfTen maxPower)).dividedBy
        (powerOfTen k))
      (roundMagnitude n (10 ^ (maxPower + k))) := by
  have hFirst := one_le_value_powerOfTen (Nat.le_refl maxPower)
  have hSecond := one_le_value_powerOfTen hPower
  have hClose := close_secondQuotient hThree hFinite hPower
  rw [← value_dividedBy] at hClose
  apply withinFive_of_close (j := 4) _ (by positivity)
    (Nat.le_refl 4) _
    (isFinite_dividedBy (isFinite_dividedBy hFinite hFirst) hSecond)
    hNearest
  · exact Nat.mul_pos (ratio_den_pos _)
      (ratio_num_pos (lt_of_lt_of_le zero_lt_one hSecond))
  · exact_mod_cast hClose

/- Small integers are scaled far down without losing more. -/
theorem withinFive_of_small
    (hPositive : 0 < n)
    (hSmall : n < 3)
    (hDeep : maxPower < k)
    (hBound : k ≤ 360)
    (hScale : scale? n (-(k : Int)) = some y) :
    WithinFive y (roundMagnitude n (10 ^ k)) := by
  -- Digits are lost twice here, which the bounds on errors do
  -- not cover, but there are only these cases.
  have hAll :
      ∀ n ∈ [1, 2], (ofNat n).isZero = false ∧
        ((ofNat n).dividedBy (powerOfTen maxPower)).isZero =
            false ∧
          ∀ i ∈ List.range 52,
            WithinFive
              (((ofNat n).dividedBy
                (powerOfTen maxPower)).dividedBy
                  (powerOfTen (i + 1)))
              (roundMagnitude n (10 ^ (maxPower + 1 + i))) := by
    decide +kernel
  have hMember : n ∈ [1, 2] := by
    simp only [List.mem_cons, List.not_mem_nil, or_false]
    omega
  rcases hAll n hMember with ⟨hNonzero, hNonzero', hWithin⟩
  have hRange : k - (maxPower + 1) ∈ List.range 52 := by
    rw [List.mem_range]
    simp only [maxPower] at hDeep ⊢
    omega
  have hPower : k - (maxPower + 1) + 1 = k - maxPower := by
    omega
  have hWhole : maxPower + 1 + (k - (maxPower + 1)) = k := by
    omega
  have hTwice := hWithin _ hRange
  rw [hPower, hWhole] at hTwice
  have hLimit : k ≤ 2 * maxPower := by
    simp only [maxPower]
    omega
  rw [scale?_of_deep hNonzero hNonzero' hDeep hLimit,
    Option.some.injEq] at hScale
  rwa [hScale] at hTwice

/-
  What scaling gives is within five numbers of the nearest one
  to the decimal number that is scaled.
-/
theorem withinFive_of_scale?
    (hPositive : 0 < n)
    (hFits : n < UInt64.size)
    (hSmall : exp.natAbs ≤ 360)
    (hScale : scale? n exp = some y)
    (hFinite :
      roundMagnitude (n * 10 ^ exp.toNat) (10 ^ (-exp).toNat) <
        infinite) :
    WithinFive y
      (roundMagnitude (n * 10 ^ exp.toNat)
        (10 ^ (-exp).toNat)) := by
  have hLargest : (ofNat UInt64.size).isFinite = true := by
    decide +kernel
  have hFiniteInt : (ofNat n).isFinite = true :=
    isFinite_of_le hLargest (ofNat_magnitude_mono hFits.le)
  have hClose := close_ofNat hPositive hFiniteInt
  have hPositiveRat : (0 : ℚ) < n := by
    exact_mod_cast hPositive
  have hNonzero : (ofNat n).isZero = false :=
    isZero_of_value_pos (hClose.pos hPositiveRat)
  rcases Int.lt_or_le exp 0 with hNegative | hNonneg
  · obtain ⟨k, rfl⟩ : ∃ k : Nat, exp = -(k : Int) :=
      ⟨exp.natAbs, by omega⟩
    have hUp : (-(k : Int)).toNat = 0 := by
      omega
    have hDown : (- -(k : Int)).toNat = k := by
      omega
    rw [hUp, hDown, Nat.pow_zero, Nat.mul_one] at hFinite ⊢
    rcases Nat.lt_or_ge maxPower k with hDeep | hNear
    -- The first of two quotients loses no digits from 3 on.
    · rcases Nat.lt_or_ge n 3 with hSmall | hThree
      · exact withinFive_of_small hPositive hSmall hDeep (by omega)
          hScale
      · have hBound : k ≤ 2 * maxPower := by
          simp only [maxPower]
          omega
        have hWhole : maxPower + (k - maxPower) = k := by
          omega
        have hNonzero' :
            ((ofNat n).dividedBy (powerOfTen maxPower)).isZero =
              false := by
          apply isZero_of_value_pos
          apply (close_firstQuotient hThree hFiniteInt).pos
          positivity
        rw [scale?_of_deep hNonzero hNonzero' hDeep hBound,
          Option.some.injEq] at hScale
        have hTwice :=
          withinFive_of_dividedBy_twice hThree hFiniteInt
            (k := k - maxPower) (by omega) (by rwa [hWhole])
        rwa [hWhole, hScale] at hTwice
    · have hInRange : (-(k : Int)).natAbs ≤ maxPower := by
        omega
      have hQuotient :=
        scale?_of_neg hNegative hInRange hNonzero hScale
      rw [Int.natAbs_neg, Int.natAbs_natCast] at hQuotient
      rw [hQuotient]
      exact withinFive_of_dividedBy hPositive hFiniteInt hNear
        hFinite
  · rcases bounds_of_scale? hNonneg hNonzero hScale with
      ⟨hPower, hFiniteY⟩
    have hDown : (-exp).toNat = 0 := by
      omega
    have hProduct := scale?_of_nonneg hNonneg hNonzero hScale
    rw [hProduct] at hFiniteY ⊢
    rw [hDown, Nat.pow_zero] at hFinite ⊢
    exact withinFive_of_times hPositive hFiniteInt hPower hFiniteY
      hFinite

/- Scaling gives no negative number. -/
theorem isNegative_scaleDown
    (hNonneg : x.isNegative = false)
    (k : Nat) :
    (x.scaleDown k).isNegative = false := by
  fun_induction scaleDown x k with
  | case1 x k hZero =>
      exact hNonneg
  | case2 x k hZero hSmall =>
      exact isNegative_ofRatio _ _
  | case3 x k hZero hLarge ih =>
      exact ih (isNegative_ofRatio _ _)

theorem isNegative_of_scale?
    (hScale : scale? n exp = some y) :
    y.isNegative = false := by
  unfold scale? at hScale
  simp only at hScale
  split at hScale
  · obtain rfl := Option.some.inj hScale
    exact isNegative_scaleDown (isNegative_ofRatio n 1) _
  · split at hScale
    · obtain rfl := Option.some.inj hScale
      exact isNegative_ofRatio n 1
    · split at hScale
      · cases hScale
      · split at hScale
        · obtain rfl := Option.some.inj hScale
          exact isNegative_ofRatio _ _
        · cases hScale

end Binary64

end EmojiQuery
