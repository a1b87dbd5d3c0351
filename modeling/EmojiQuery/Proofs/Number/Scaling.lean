import Mathlib.Tactic.Ring
import EmojiQuery.Number.Scaled
import EmojiQuery.Proofs.Number.Rounding

/-
  When scaling by powers of ten reads a decimal number as the
  nearest number: if the integer or the power needs no
  rounding then only one step rounds.

  Main declarations:
    * `Binary64.RoundsOnce`
    * `Binary64.eq_ofDecimal_of_scale?`
-/

------------------------------------------------------------
-- Decimal Numbers
------------------------------------------------------------

namespace EmojiQuery

namespace Binary64

/- Powers of ten that are not extreme are worked out. -/
theorem decimalMagnitude_of_small
    (n : Nat)
    {exp : Int}
    (hSmall : exp.natAbs ≤ 360) :
    decimalMagnitude n exp =
      roundMagnitude (n * Nat.pow 10 exp.toNat)
        (Nat.pow 10 (-exp).toNat) := by
  unfold decimalMagnitude
  split
  · next hZero =>
      rw [hZero, Nat.zero_mul, roundMagnitude, if_pos rfl]
  · rw [if_neg (by omega), if_neg (by omega)]

theorem ofDecimal_zero_exponent
    (n : Nat) :
    ofDecimal false n 0 = ofNat n := by
  rw [ofDecimal, decimalMagnitude_of_small n (by decide), ofNat,
    ofRatio]
  simp

theorem ofDecimal_zero
    (negative : Bool)
    (exp : Int) :
    ofDecimal negative 0 exp = ofMagnitude negative 0 := by
  rw [ofDecimal, decimalMagnitude, if_pos rfl]

theorem decimalMagnitude_le
    (n : Nat)
    (exp : Int) :
    decimalMagnitude n exp ≤ infinite := by
  unfold decimalMagnitude
  split
  · exact Nat.zero_le _
  · split
    · exact Nat.le_refl _
    · split
      · exact Nat.zero_le _
      · exact roundMagnitude_le _ _

/- A decimal number is read as a number. -/
theorem isNaN_ofDecimal
    (negative : Bool)
    (n : Nat)
    (exp : Int) :
    (ofDecimal negative n exp).isNaN = false := by
  have hRange := decimalMagnitude_le n exp
  rw [isNaN, ofDecimal, magnitude_ofMagnitude negative
    (lt_signUnit_of_le_infinite hRange)]
  simpa using hRange

/- The sign of a decimal number can be given to it later. -/
theorem neg_ofDecimal
    (n : Nat)
    (exp : Int) :
    (ofDecimal false n exp).neg = ofDecimal true n exp := by
  have hRoom :=
    lt_signUnit_of_le_infinite (decimalMagnitude_le n exp)
  rw [neg, ofDecimal, isNegative_ofMagnitude false hRoom,
    magnitude_ofMagnitude false hRoom]
  rfl

end Binary64

end EmojiQuery

------------------------------------------------------------
-- Powers of Ten
------------------------------------------------------------

namespace EmojiQuery

namespace Binary64

variable {k : Nat}

/- A small power of ten has few digits once its twos are apart. -/
theorem fits_pow_ten
    (hSmall : k ≤ 22) :
    Fits (Nat.pow 10 k) := by
  refine ⟨5 ^ k, k, ?_, ?_⟩
  · calc 5 ^ k ≤ 5 ^ 22 :=
          Nat.pow_le_pow_right (by decide) hSmall
      _ < 2 ^ 53 := by decide
  · rw [Nat.pow_eq, ← Nat.mul_pow]

/- A small power of ten is its own value. -/
theorem ratio_powerOfTen
    (hSmall : k ≤ 22) :
    0 < (powerOfTen k).ratio.2 ∧
      (powerOfTen k).ratio.1 =
        Nat.pow 10 k * (powerOfTen k).ratio.2 := by
  have hPositive : 0 < Nat.pow 10 k :=
    Nat.pow_pos (by decide)
  apply (fits_pow_ten hSmall).ratio_ofNat hPositive
  have hBound : Nat.pow 10 k < 2 ^ 74 := by
    calc Nat.pow 10 k ≤ Nat.pow 10 22 :=
          Nat.pow_le_pow_right (by decide) hSmall
      _ < 2 ^ 74 := by decide
  have := (Nat.log2_lt (Nat.ne_of_gt hPositive)).mpr hBound
  omega

end Binary64

end EmojiQuery

------------------------------------------------------------
-- Scaling
------------------------------------------------------------

namespace EmojiQuery

namespace Binary64

variable {n : Nat}
variable {exp : Int}
variable {x : Binary64}

/- Zero stays zero whatever the power. -/
theorem scale?_zero
    (exp : Int) :
    scale? 0 exp = some zero := by
  have hZero : ofNat 0 = zero := by
    decide
  have hIsZero : zero.isZero = true := by
    decide
  unfold scale?
  simp only [hZero, hIsZero, if_true]
  split
  · rw [scaleDown, hIsZero, if_pos rfl]
  · rfl

/- A positive integer is rounded to a positive number. -/
theorem isZero_ofNat
    (hPositive : 0 < n)
    (hFinite : n.log2 ≤ 1022) :
    (ofNat n).isZero = false := by
  have hRatio := (ofRatio_ratio_ofNat hPositive hFinite).1
  rw [← Bool.not_eq_true]
  intro hZero
  rw [ratio_of_isZero hZero] at hRatio
  exact Nat.lt_irrefl 0 hRatio

/- A power that is not negative is multiplied in one step. -/
theorem scale?_of_nonneg
    (hNonneg : 0 ≤ exp)
    (hNonzero : (ofNat n).isZero = false)
    (hScale : scale? n exp = some x) :
    x = (ofNat n).times (powerOfTen exp.toNat) := by
  unfold scale? at hScale
  simp only [hNonzero, Bool.false_eq_true, if_false,
    if_neg (Int.not_lt.mpr hNonneg)] at hScale
  split at hScale
  · cases hScale
  · split at hScale
    · exact (Option.some.inj hScale).symm
    · cases hScale

/- A negative power that is finite is divided by in one step. -/
theorem scale?_of_neg
    (hNegative : exp < 0)
    (hInRange : exp.natAbs ≤ maxPower)
    (hNonzero : (ofNat n).isZero = false)
    (hScale : scale? n exp = some x) :
    x = (ofNat n).dividedBy (powerOfTen exp.natAbs) := by
  unfold scale? at hScale
  simp only [hNegative, if_true] at hScale
  rw [scaleDown, hNonzero, if_neg (by decide), if_pos hInRange,
    Option.some.injEq] at hScale
  exact hScale.symm

/-
  At most one step of the scaling rounds: the result is zero,
  no power is left, or both the integer and the power are
  numbers as they stand.
-/
def RoundsOnce
    (n : Nat)
    (exp : Int) : Prop :=
  n = 0 ∨ exp = 0 ∨ (Fits n ∧ exp.natAbs ≤ 22)

/- An integer without a power of ten is only rounded itself. -/
theorem eq_ofNat_of_scale?
    (hPositive : 0 < n)
    (hFinite : n.log2 ≤ 1022)
    (hScale : scale? n 0 = some x) :
    x = ofNat n := by
  rcases ratio_powerOfTen (Nat.zero_le 22) with ⟨hOneDen, hOne⟩
  rcases ofRatio_ratio_ofNat hPositive hFinite with
    ⟨_, hDen, hSelf⟩
  rw [scale?_of_nonneg (Int.le_refl 0)
    (isZero_ofNat hPositive hFinite) hScale, Int.toNat_zero]
  unfold times
  rw [← hSelf]
  apply ofRatio_congr
  · rw [hSelf]
    exact Nat.mul_pos hDen hOneDen
  · exact hDen
  · rw [hSelf, hOne, Nat.pow_eq, Nat.pow_zero]
    ring

/- Two exact numbers are multiplied or divided with one rounding. -/
theorem eq_ofDecimal_of_fits
    (hFits : Fits n)
    (hPositive : 0 < n)
    (hFinite : n.log2 ≤ 1022)
    (hSmall : exp.natAbs ≤ 22)
    (hScale : scale? n exp = some x) :
    x = ofDecimal false n exp := by
  have hNonzero := isZero_ofNat hPositive hFinite
  have hTen : ∀ k, 0 < Nat.pow 10 k := by
    intro k
    exact Nat.pow_pos (by decide)
  rcases hFits.ratio_ofNat hPositive hFinite with ⟨hDen, hRatio⟩
  rcases ratio_powerOfTen hSmall with ⟨hPowerDen, hPower⟩
  rw [ofDecimal, decimalMagnitude_of_small n (by omega)]
  rcases Int.lt_or_le exp 0 with hNegative | hNonneg
  · have hUp : exp.toNat = 0 := by
      omega
    have hDown : (-exp).toNat = exp.natAbs := by
      omega
    have hInRange : exp.natAbs ≤ maxPower :=
      Nat.le_trans hSmall (by decide)
    rw [scale?_of_neg hNegative hInRange hNonzero hScale, hUp,
      hDown]
    apply ofRatio_congr
    · rw [hPower]
      exact Nat.mul_pos hDen (Nat.mul_pos (hTen _) hPowerDen)
    · exact hTen _
    · rw [hRatio, hPower, Nat.pow_eq, Nat.pow_eq]
      ring
  · have hUp : exp.toNat = exp.natAbs := by
      omega
    have hDown : (-exp).toNat = 0 := by
      omega
    rw [scale?_of_nonneg hNonneg hNonzero hScale, hUp, hDown]
    apply ofRatio_congr
    · exact Nat.mul_pos hDen hPowerDen
    · exact hTen _
    · rw [hRatio, hPower, Nat.pow_eq, Nat.pow_eq]
      ring

/- Scaling that rounds once gives the nearest number. -/
theorem eq_ofDecimal_of_scale?
    (hFinite : n.log2 ≤ 1022)
    (hOnce : RoundsOnce n exp)
    (hScale : scale? n exp = some x) :
    x = ofDecimal false n exp := by
  rcases Nat.eq_zero_or_pos n with rfl | hPositive
  · rw [scale?_zero, Option.some.injEq] at hScale
    rw [← hScale, ofDecimal_zero]
    decide
  · rcases hOnce with hZero | rfl | ⟨hFits, hSmall⟩
    · exact absurd hZero (Nat.ne_of_gt hPositive)
    · rw [ofDecimal_zero_exponent]
      exact eq_ofNat_of_scale? hPositive hFinite hScale
    · exact eq_ofDecimal_of_fits hFits hPositive hFinite hSmall
        hScale

end Binary64

end EmojiQuery
