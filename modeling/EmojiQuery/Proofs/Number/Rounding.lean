import Mathlib.Data.Int.Log
import Mathlib.Algebra.Order.Field.Rat
import Mathlib.Data.Rat.Floor
import Mathlib.Tactic.NormNum
import EmojiQuery.Number.Rounding

/-
  What rounding keeps. A ratio is rounded by its value alone,
  however it is written, and a number that has a significand
  of 53 binary digits is rounded to itself.

  Main declarations:
    * `Binary64.ofRatio_congr`
    * `Binary64.Fits`
    * `Binary64.Fits.ratio_ofNat`
    * `Binary64.exists_significand_of_pos`
    * `Binary64.ofRatio_ratio_ofNat`
-/

------------------------------------------------------------
-- Rounded Quotients
------------------------------------------------------------

namespace EmojiQuery

/- A common factor does not change the rounded quotient. -/
theorem divRound_mul_right
    (num den : Nat)
    {k : Nat}
    (hPositive : 0 < k) :
    divRound (num * k) (den * k) = divRound num den := by
  have hDouble :
      2 * (num % den * k) = 2 * (num % den) * k := by
    rw [Nat.mul_assoc]
  have hBelow :
      2 * (num % den) * k < den * k ↔ 2 * (num % den) < den :=
    Nat.mul_lt_mul_right hPositive
  have hAbove :
      den * k < 2 * (num % den) * k ↔ den < 2 * (num % den) :=
    Nat.mul_lt_mul_right hPositive
  unfold divRound
  simp only [Nat.mul_div_mul_right _ _ hPositive,
    Nat.mul_mod_mul_right, hDouble, hBelow, hAbove]

/- Equal quotients are rounded alike. -/
theorem divRound_congr
    {num den num' den' : Nat}
    (hDen : 0 < den)
    (hDen' : 0 < den')
    (hEqual : num * den' = num' * den) :
    divRound num den = divRound num' den' := by
  rw [← divRound_mul_right num den hDen', hEqual,
    Nat.mul_comm den den', divRound_mul_right num' den' hDen]

/- A quotient that is an integer is not changed. -/
theorem divRound_mul_self
    (m : Nat)
    {k : Nat}
    (hPositive : 0 < k) :
    divRound (m * k) k = m := by
  simp [divRound, hPositive]

/- A quotient is rounded to one of the integers around it. -/
theorem divRound_bounds
    (num den : Nat) :
    num / den ≤ divRound num den ∧
      divRound num den ≤ num / den + 1 := by
  unfold divRound
  dsimp only
  split
  · omega
  · split
    · omega
    · split
      · omega
      · omega

end EmojiQuery

------------------------------------------------------------
-- Binary Logarithms
------------------------------------------------------------

namespace EmojiQuery

namespace Binary64

/- A ratio is compared with a power of two by its value. -/
theorem mul_pow_lt_iff
    (num : Nat)
    {den : Nat}
    (hDen : 0 < den)
    (l : Int) :
    num * Nat.pow 2 (-l).toNat < den * Nat.pow 2 l.toNat ↔
      (num : ℚ) / den < 2 ^ l := by
  have hDen' : (0 : ℚ) < den := by
    exact_mod_cast hDen
  rw [div_lt_iff₀ hDen', ← Nat.cast_lt (α := ℚ)]
  rcases Int.le_total 0 l with hUp | hDown
  · have hZero : (-l).toNat = 0 := by
      omega
    have hPower : (2 : ℚ) ^ l.toNat = 2 ^ l := by
      rw [← zpow_natCast, Int.toNat_of_nonneg hUp]
    push_cast [Nat.pow_eq, hZero]
    rw [hPower, mul_one, mul_comm]
  · have hZero : l.toNat = 0 := by
      omega
    have hPower : (2 : ℚ) ^ (-l).toNat = (2 ^ l)⁻¹ := by
      rw [← zpow_natCast, Int.toNat_of_nonneg (by omega),
        zpow_neg]
    have hPositive : (0 : ℚ) < 2 ^ l :=
      zpow_pos (by norm_num) l
    push_cast [Nat.pow_eq, hZero]
    rw [hPower, mul_one, ← div_eq_mul_inv,
      div_lt_iff₀ hPositive, mul_comm]

/- Two powers of two around a number give its logarithm. -/
theorem log_eq_of_bounds
    {r : ℚ}
    {l : Int}
    (hLower : 2 ^ l ≤ r)
    (hUpper : r < 2 ^ (l + 1)) :
    Int.log 2 r = l := by
  have hPositive : 0 < r :=
    lt_of_lt_of_le (zpow_pos (by norm_num) l) hLower
  have hAtLeast : l ≤ Int.log 2 r :=
    (Int.zpow_le_iff_le_log (by norm_num) hPositive).mp hLower
  have hBelow : Int.log 2 r < l + 1 :=
    (Int.lt_zpow_iff_log_lt (by norm_num) hPositive).mp hUpper
  omega

/-
  The lengths of numerator and denominator give a power of two
  within a factor of two of the ratio.
-/
theorem ratio_between_powers
    {num den : Nat}
    (hNum : 0 < num)
    (hDen : 0 < den)
    {l : Int}
    (hLengths : (num.log2 : Int) - den.log2 = l) :
    (2 : ℚ) ^ (l - 1) ≤ num / den ∧
      (num : ℚ) / den < 2 ^ (l + 1) := by
  have hNumLower : (2 : ℚ) ^ num.log2 ≤ num := by
    exact_mod_cast Nat.log2_self_le (by omega)
  have hNumUpper : (num : ℚ) < 2 ^ (num.log2 + 1) := by
    exact_mod_cast Nat.lt_log2_self
  have hDenLower : (2 : ℚ) ^ den.log2 ≤ den := by
    exact_mod_cast Nat.log2_self_le (by omega)
  have hDenUpper : (den : ℚ) < 2 ^ (den.log2 + 1) := by
    exact_mod_cast Nat.lt_log2_self
  have hDen' : (0 : ℚ) < den := by
    exact_mod_cast hDen
  have hPower : ∀ k : Int, (0 : ℚ) ≤ 2 ^ k := by
    intro k
    exact (zpow_pos (by norm_num) k).le
  constructor
  · have hSplit :
        (2 : ℚ) ^ (l - 1) * 2 ^ (den.log2 + 1) =
          2 ^ num.log2 := by
      rw [← zpow_natCast, ← zpow_natCast,
        ← zpow_add₀ (by norm_num)]
      congr 1
      push_cast
      omega
    rw [le_div_iff₀ hDen']
    calc (2 : ℚ) ^ (l - 1) * den
        ≤ 2 ^ (l - 1) * 2 ^ (den.log2 + 1) :=
          mul_le_mul_of_nonneg_left hDenUpper.le (hPower _)
      _ = 2 ^ num.log2 := hSplit
      _ ≤ num := hNumLower
  · have hSplit :
        (2 : ℚ) ^ (l + 1) * 2 ^ den.log2 =
          2 ^ (num.log2 + 1) := by
      rw [← zpow_natCast, ← zpow_natCast,
        ← zpow_add₀ (by norm_num)]
      congr 1
      push_cast
      omega
    rw [div_lt_iff₀ hDen']
    calc (num : ℚ) < 2 ^ (num.log2 + 1) := hNumUpper
      _ = 2 ^ (l + 1) * 2 ^ den.log2 := hSplit.symm
      _ ≤ 2 ^ (l + 1) * den :=
          mul_le_mul_of_nonneg_left hDenLower (hPower _)

/- The binary logarithm of a ratio is that of its value. -/
theorem logTwo_eq_log
    {num den : Nat}
    (hNum : 0 < num)
    (hDen : 0 < den) :
    logTwo num den = Int.log 2 ((num : ℚ) / den) := by
  have hRatio : (0 : ℚ) < num / den := by
    positivity
  generalize hLengths :
    (num.log2 : Int) - (den.log2 : Int) = l
  rcases ratio_between_powers hNum hDen hLengths with
    ⟨hLower, hUpper⟩
  have hLogLower : l - 1 ≤ Int.log 2 ((num : ℚ) / den) :=
    (Int.zpow_le_iff_le_log (by norm_num) hRatio).mp hLower
  have hLogUpper : Int.log 2 ((num : ℚ) / den) < l + 1 :=
    (Int.lt_zpow_iff_log_lt (by norm_num) hRatio).mp hUpper
  have hTest :=
    Int.lt_zpow_iff_log_lt (b := 2) (x := l) (by norm_num)
      hRatio
  rw [Nat.cast_ofNat, ← mul_pow_lt_iff num hDen l] at hTest
  simp only [logTwo, hLengths]
  split
  · next hBelow =>
      have := hTest.mp hBelow
      omega
  · next hNotBelow =>
      have := mt hTest.mpr hNotBelow
      omega

/- The binary logarithm of an integer is its length. -/
theorem logTwo_one
    {n : Nat}
    (hPositive : 0 < n) :
    logTwo n 1 = n.log2 := by
  rw [logTwo_eq_log hPositive Nat.one_pos, Nat.cast_one,
    div_one, Int.log_natCast, Nat.log2_eq_log_two]

end Binary64

end EmojiQuery

------------------------------------------------------------
-- Rounded Ratios
------------------------------------------------------------

namespace EmojiQuery

namespace Binary64

variable {num den num' den' : Nat}

/- Equal ratios have the same rounded magnitude. -/
theorem roundMagnitude_congr
    (hDen : 0 < den)
    (hDen' : 0 < den')
    (hEqual : num * den' = num' * den) :
    roundMagnitude num den = roundMagnitude num' den' := by
  unfold roundMagnitude
  rcases Nat.eq_zero_or_pos num with rfl | hNum
  · have hZero : num' = 0 := by
      rw [Nat.zero_mul, eq_comm, Nat.mul_eq_zero] at hEqual
      omega
    rw [hZero, if_pos rfl, if_pos rfl]
  · have hNum' : 0 < num' := by
      apply Nat.pos_of_ne_zero
      intro hZero
      rw [hZero, Nat.zero_mul, Nat.mul_eq_zero] at hEqual
      omega
    have hRatio : (num : ℚ) / den = (num' : ℚ) / den' := by
      rw [div_eq_div_iff (by positivity) (by positivity)]
      exact_mod_cast hEqual
    have hLog : logTwo num den = logTwo num' den' := by
      rw [logTwo_eq_log hNum hDen, logTwo_eq_log hNum' hDen',
        hRatio]
    rw [if_neg (Nat.ne_of_gt hNum), if_neg (Nat.ne_of_gt hNum')]
    simp only [hLog]
    generalize max (logTwo num' den' - 52) (-1074) = last
    have hRound :
        divRound (num * Nat.pow 2 (-last).toNat)
            (den * Nat.pow 2 last.toNat) =
          divRound (num' * Nat.pow 2 (-last).toNat)
            (den' * Nat.pow 2 last.toNat) := by
      apply divRound_congr
      · exact Nat.mul_pos hDen (Nat.two_pow_pos _)
      · exact Nat.mul_pos hDen' (Nat.two_pow_pos _)
      · rw [Nat.mul_mul_mul_comm, hEqual, Nat.mul_mul_mul_comm]
    rw [hRound]

/- Equal ratios are rounded to the same number. -/
theorem ofRatio_congr
    (hDen : 0 < den)
    (hDen' : 0 < den')
    (hEqual : num * den' = num' * den) :
    ofRatio num den = ofRatio num' den' := by
  rw [ofRatio, ofRatio, roundMagnitude_congr hDen hDen' hEqual]

theorem roundMagnitude_le
    (num den : Nat) :
    roundMagnitude num den ≤ infinite := by
  unfold roundMagnitude
  split
  · exact Nat.zero_le _
  · exact Nat.min_le_right _ _

/-
  A ratio whose value has a significand of 53 digits, the first
  of them not zero, is that number, unless it is too large.
-/
theorem roundMagnitude_of_significand
    {e m : Nat}
    (hDen : 0 < den)
    (hLower : 2 ^ 52 ≤ m)
    (hUpper : m < 2 ^ 53)
    (hValue :
      num * 2 ^ (1074 - e) = m * 2 ^ (e - 1074) * den) :
    roundMagnitude num den =
      min (e * exponentUnit + m) infinite := by
  generalize hUp : e - 1074 = up at hValue
  generalize hDown : 1074 - e = down at hValue
  have hPlace : (e : Int) - 1074 = (up : Int) - down := by
    omega
  have hPositive : 0 < m * 2 ^ up :=
    Nat.mul_pos (by omega) (Nat.two_pow_pos up)
  have hRatio :
      ((m * 2 ^ up : Nat) : ℚ) / (2 ^ down : Nat) =
        m * 2 ^ ((up : Int) - down) := by
    push_cast
    rw [zpow_sub₀ (by norm_num), zpow_natCast, zpow_natCast,
      mul_div_assoc]
  have hPower : (0 : ℚ) < 2 ^ ((up : Int) - down) :=
    zpow_pos (by norm_num) _
  have hLog :
      logTwo (m * 2 ^ up) (2 ^ down) = (e : Int) - 1074 + 52 := by
    rw [logTwo_eq_log hPositive (Nat.two_pow_pos down), hRatio,
      hPlace]
    apply log_eq_of_bounds
    · rw [zpow_add₀ (by norm_num), mul_comm]
      apply mul_le_mul_of_nonneg_right _ hPower.le
      exact_mod_cast hLower
    · rw [add_assoc, zpow_add₀ (by norm_num), mul_comm]
      apply mul_lt_mul_of_pos_left _ hPower
      exact_mod_cast hUpper
  have hLast :
      max ((e : Int) - 1074 + 52 - 52) (-1074) =
        (e : Int) - 1074 := by
    omega
  have hNumber : ((e : Int) - 1074 + 1074).toNat = e := by
    omega
  have hLastUp : ((e : Int) - 1074).toNat = up := by
    omega
  have hLastDown : (-((e : Int) - 1074)).toNat = down := by
    omega
  rw [roundMagnitude_congr hDen (Nat.two_pow_pos down) hValue]
  simp only [roundMagnitude]
  rw [if_neg (Nat.ne_of_gt hPositive), hLog, hLast, hNumber,
    hLastUp, hLastDown, Nat.pow_eq, Nat.pow_eq, Nat.mul_assoc,
    ← Nat.pow_add, ← Nat.pow_add, Nat.add_comm down up,
    divRound_mul_self _ (Nat.two_pow_pos _)]

end Binary64

end EmojiQuery

------------------------------------------------------------
-- Signs and Magnitudes
------------------------------------------------------------

namespace EmojiQuery

namespace Binary64

variable {m : Nat}

theorem magnitude_ofMagnitude
    (negative : Bool)
    (hSmall : m < signUnit) :
    (ofMagnitude negative m).magnitude = m := by
  simp only [signUnit] at hSmall
  cases negative with
  | false =>
      simp only [ofMagnitude, magnitude, signUnit,
        UInt64.toNat_ofNat', Bool.false_eq_true, if_false]
      omega
  | true =>
      simp only [ofMagnitude, magnitude, signUnit,
        UInt64.toNat_ofNat', if_true]
      omega

theorem isNegative_ofMagnitude
    (negative : Bool)
    (hSmall : m < signUnit) :
    (ofMagnitude negative m).isNegative = negative := by
  simp only [signUnit] at hSmall
  cases negative with
  | false =>
      simp only [ofMagnitude, isNegative, signUnit,
        UInt64.toNat_ofNat', Bool.false_eq_true, if_false,
        decide_eq_false_iff_not]
      omega
  | true =>
      simp only [ofMagnitude, isNegative, signUnit,
        UInt64.toNat_ofNat', if_true, decide_eq_true_eq]
      omega

/- Magnitudes up to the infinite leave room for a sign. -/
theorem lt_signUnit_of_le_infinite
    (hRange : m ≤ infinite) :
    m < signUnit := by
  have hRoom : infinite < signUnit := by
    decide
  omega

/- The significand and the exponent of a number give its ratio. -/
theorem ratio_ofMagnitude
    {e : Nat}
    (hLower : 2 ^ 52 ≤ m)
    (hUpper : m < 2 ^ 53)
    (hFinite : e ≤ 2045) :
    (ofMagnitude false (e * exponentUnit + m)).ratio =
      (m * 2 ^ (e - 1074), 2 ^ (1074 - e)) := by
  have hMagnitude :
      (ofMagnitude false (e * exponentUnit + m)).magnitude =
        e * exponentUnit + m := by
    apply magnitude_ofMagnitude
    simp only [exponentUnit, signUnit]
    omega
  have hNormal : exponentUnit ≤ e * exponentUnit + m := by
    simp only [exponentUnit]
    omega
  have hSignificand :
      (ofMagnitude false (e * exponentUnit + m)).significand =
        m := by
    rw [significand, hMagnitude, if_neg (Nat.not_lt.mpr hNormal)]
    simp only [exponentUnit]
    omega
  have hExponent :
      (ofMagnitude false (e * exponentUnit + m)).exponent =
        (e : Int) - 1074 := by
    rw [exponent, hMagnitude, if_neg (Nat.not_lt.mpr hNormal)]
    simp only [exponentUnit]
    omega
  have hUp : ((e : Int) - 1074).toNat = e - 1074 := by
    omega
  have hDown : (-((e : Int) - 1074)).toNat = 1074 - e := by
    omega
  simp only [ratio, hSignificand, hExponent, hUp, hDown,
    Nat.pow_eq]

/- The ratio of zero is zero. -/
theorem ratio_of_isZero
    {x : Binary64}
    (hZero : x.isZero = true) :
    x.ratio.1 = 0 := by
  have hMagnitude : x.magnitude = 0 := by
    simpa [isZero] using hZero
  have hSignificand : x.significand = 0 := by
    rw [significand, hMagnitude, if_pos (by decide)]
  simp only [ratio, hSignificand, Nat.zero_mul]

end Binary64

end EmojiQuery

------------------------------------------------------------
-- Integers
------------------------------------------------------------

namespace EmojiQuery

namespace Binary64

variable {n : Nat}

/- The number has at most 53 binary digits and then zeros. -/
def Fits
    (n : Nat) : Prop :=
  ∃ m k, m < 2 ^ 53 ∧ n = m * 2 ^ k

/- The digits of a number that fits fill a significand. -/
theorem Fits.exists_significand
    (hFits : Fits n)
    (hPositive : 0 < n) :
    ∃ m, 2 ^ 52 ≤ m ∧ m < 2 ^ 53 ∧
      n * 2 ^ (52 - n.log2) = m * 2 ^ (n.log2 - 52) := by
  rcases hFits with ⟨m, k, hSmall, rfl⟩
  have hNonzero : m ≠ 0 := by
    intro hZero
    rw [hZero, Nat.zero_mul] at hPositive
    exact Nat.lt_irrefl 0 hPositive
  have hLog : (m * 2 ^ k).log2 = m.log2 + k := by
    rw [Nat.log2_eq_iff (Nat.ne_of_gt hPositive),
      Nat.add_right_comm, Nat.pow_add, Nat.pow_add]
    constructor
    · exact Nat.mul_le_mul_right _ (Nat.log2_self_le hNonzero)
    · exact Nat.mul_lt_mul_of_pos_right Nat.lt_log2_self
        (Nat.two_pow_pos k)
  have hDigits : m.log2 ≤ 52 := by
    have := (Nat.log2_lt hNonzero).mpr hSmall
    omega
  refine ⟨m * 2 ^ (52 - m.log2), ?_, ?_, ?_⟩
  · calc 2 ^ 52 = 2 ^ m.log2 * 2 ^ (52 - m.log2) := by
          rw [← Nat.pow_add]
          congr 1
          omega
      _ ≤ m * 2 ^ (52 - m.log2) :=
          Nat.mul_le_mul_right _ (Nat.log2_self_le hNonzero)
  · calc m * 2 ^ (52 - m.log2)
        < 2 ^ (m.log2 + 1) * 2 ^ (52 - m.log2) :=
          Nat.mul_lt_mul_of_pos_right Nat.lt_log2_self
            (Nat.two_pow_pos _)
      _ = 2 ^ 53 := by
          rw [← Nat.pow_add]
          congr 1
          omega
  · rw [hLog, Nat.mul_assoc, Nat.mul_assoc, ← Nat.pow_add,
      ← Nat.pow_add]
    congr 2
    omega

/- An integer that needs no rounding is its own value. -/
theorem Fits.ratio_ofNat
    (hFits : Fits n)
    (hPositive : 0 < n)
    (hFinite : n.log2 ≤ 1022) :
    0 < (ofNat n).ratio.2 ∧
      (ofNat n).ratio.1 = n * (ofNat n).ratio.2 := by
  have hUp : n.log2 + 1022 - 1074 = n.log2 - 52 := by
    omega
  have hDown : 1074 - (n.log2 + 1022) = 52 - n.log2 :=
    Nat.add_sub_add_right 52 1022 n.log2
  have hPlace : n.log2 + 1022 ≤ 2045 := by
    omega
  rcases hFits.exists_significand hPositive with
    ⟨m, hLower, hUpper, hExact⟩
  have hMagnitude :
      roundMagnitude n 1 =
        (n.log2 + 1022) * exponentUnit + m := by
    rw [roundMagnitude_of_significand (e := n.log2 + 1022)
      (m := m) Nat.one_pos hLower hUpper]
    · apply Nat.min_eq_left
      simp only [exponentUnit, infinite]
      omega
    · rw [hUp, hDown, hExact, Nat.mul_one]
  rw [ofNat, ofRatio, hMagnitude,
    ratio_ofMagnitude hLower hUpper hPlace, hUp, hDown]
  exact ⟨Nat.two_pow_pos _, hExact.symm⟩

/- The significand of an integer, before it is rounded. -/
theorem quotient_bounds
    (hPositive : 0 < n) :
    2 ^ 52 ≤ n * 2 ^ (52 - n.log2) / 2 ^ (n.log2 - 52) ∧
      n * 2 ^ (52 - n.log2) / 2 ^ (n.log2 - 52) < 2 ^ 53 := by
  constructor
  · rw [Nat.le_div_iff_mul_le (Nat.two_pow_pos _),
      ← Nat.pow_add]
    calc 2 ^ (52 + (n.log2 - 52))
        = 2 ^ n.log2 * 2 ^ (52 - n.log2) := by
          rw [← Nat.pow_add]
          congr 1
          omega
      _ ≤ n * 2 ^ (52 - n.log2) :=
          Nat.mul_le_mul_right _
            (Nat.log2_self_le (Nat.ne_of_gt hPositive))
  · rw [Nat.div_lt_iff_lt_mul (Nat.two_pow_pos _),
      ← Nat.pow_add]
    calc n * 2 ^ (52 - n.log2)
        < 2 ^ (n.log2 + 1) * 2 ^ (52 - n.log2) :=
          Nat.mul_lt_mul_of_pos_right Nat.lt_log2_self
            (Nat.two_pow_pos _)
      _ = 2 ^ (53 + (n.log2 - 52)) := by
          rw [← Nat.pow_add]
          congr 1
          omega

/- An integer is rounded to a significand of 53 digits. -/
theorem exists_significand_of_pos
    (hPositive : 0 < n)
    (hFinite : n.log2 ≤ 1022) :
    ∃ e m, 2 ^ 52 ≤ m ∧ m < 2 ^ 53 ∧ e ≤ 2045 ∧
      roundMagnitude n 1 = e * exponentUnit + m := by
  have hLast :
      max ((n.log2 : Int) - 52) (-1074) =
        (n.log2 : Int) - 52 := by
    omega
  have hPlace :
      ((n.log2 : Int) - 52 + 1074).toNat = n.log2 + 1022 := by
    omega
  have hUp : ((n.log2 : Int) - 52).toNat = n.log2 - 52 := by
    omega
  have hDown : (-((n.log2 : Int) - 52)).toNat = 52 - n.log2 := by
    omega
  have hQuotient := quotient_bounds hPositive
  have hRounded :=
    divRound_bounds (n * 2 ^ (52 - n.log2)) (2 ^ (n.log2 - 52))
  have hMagnitude :
      roundMagnitude n 1 =
        min ((n.log2 + 1022) * exponentUnit +
          divRound (n * 2 ^ (52 - n.log2))
            (2 ^ (n.log2 - 52))) infinite := by
    simp only [roundMagnitude]
    rw [if_neg (Nat.ne_of_gt hPositive), logTwo_one hPositive,
      hLast, hPlace, hUp, hDown, Nat.one_mul, Nat.pow_eq,
      Nat.pow_eq]
  generalize
    divRound (n * 2 ^ (52 - n.log2)) (2 ^ (n.log2 - 52)) = m
    at hRounded hMagnitude
  have hFiniteResult :
      (n.log2 + 1022) * exponentUnit + m ≤ infinite := by
    simp only [exponentUnit, infinite]
    omega
  rw [Nat.min_eq_left hFiniteResult] at hMagnitude
  -- A significand that rounds up to the next power of two
  -- carries into the exponent.
  rcases Nat.lt_or_ge m (2 ^ 53) with hInside | hCarry
  · exact ⟨n.log2 + 1022, m, by omega, hInside, by omega,
      hMagnitude⟩
  · refine ⟨n.log2 + 1023, 2 ^ 52, by omega, by omega,
      by omega, ?_⟩
    rw [hMagnitude]
    simp only [exponentUnit]
    omega

/- A rounded integer is positive, and is rounded to itself. -/
theorem ofRatio_ratio_ofNat
    (hPositive : 0 < n)
    (hFinite : n.log2 ≤ 1022) :
    0 < (ofNat n).ratio.1 ∧ 0 < (ofNat n).ratio.2 ∧
      ofRatio (ofNat n).ratio.1 (ofNat n).ratio.2 = ofNat n := by
  rcases exists_significand_of_pos hPositive hFinite with
    ⟨e, m, hLower, hUpper, hPlace, hMagnitude⟩
  rw [ofNat, ofRatio, hMagnitude,
    ratio_ofMagnitude hLower hUpper hPlace]
  refine ⟨?_, Nat.two_pow_pos _, ?_⟩
  · exact Nat.mul_pos (by omega) (Nat.two_pow_pos _)
  · rw [ofRatio, roundMagnitude_of_significand
      (Nat.two_pow_pos _) hLower hUpper rfl, Nat.min_eq_left]
    simp only [exponentUnit, infinite]
    omega

end Binary64

end EmojiQuery
