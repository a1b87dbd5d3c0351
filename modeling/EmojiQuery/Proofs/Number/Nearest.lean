import Mathlib.Tactic.Ring
import EmojiQuery.Proofs.Number.Rounding

/-
  Rounding keeps the order of ratios, and a ratio that is near
  enough to a double precision number is rounded to it.

  Main declarations:
    * `divRound_eq_of_bounds`
    * `Binary64.roundMagnitude_of_place`
    * `Binary64.roundMagnitude_mono`
    * `Binary64.exists_parts`
    * `Binary64.roundMagnitude_of_near`
-/

------------------------------------------------------------
-- Nearest Quotients
------------------------------------------------------------

namespace EmojiQuery

/-
  A quotient within one half of an integer is rounded to it. In
  the middle between two integers only an even one is meant.
-/
theorem divRound_eq_of_bounds
    {num den m : Nat}
    (hDen : 0 < den)
    (hLower : 2 * (m * den) ≤ 2 * num + den)
    (hUpper : 2 * num ≤ 2 * (m * den) + den)
    (hOdd :
      m % 2 = 1 →
        2 * (m * den) < 2 * num + den ∧
          2 * num < 2 * (m * den) + den) :
    divRound num den = m := by
  have hSplit : num / den * den + num % den = num :=
    Nat.div_add_mod' num den
  have hRest : num % den < den := Nat.mod_lt num hDen
  generalize hQuotient : num / den = q at hSplit
  generalize hRemainder : num % den = r at hSplit hRest
  have hAtLeast : q ≤ m := by
    by_contra hLess
    have hStep : (m + 1) * den ≤ q * den :=
      Nat.mul_le_mul_right den (by omega)
    rw [Nat.add_mul] at hStep
    omega
  have hAtMost : m ≤ q + 1 := by
    by_contra hMore
    have hStep : (q + 2) * den ≤ m * den :=
      Nat.mul_le_mul_right den (by omega)
    rw [Nat.add_mul] at hStep
    omega
  unfold divRound
  simp only [hQuotient, hRemainder]
  rcases Nat.eq_or_lt_of_le hAtLeast with rfl | hAbove
  · split
    · rfl
    · split
      · omega
      · split
        · rfl
        · omega
  · obtain rfl : m = q + 1 := by
      omega
    rw [Nat.add_mul] at hLower hUpper hOdd
    split
    · omega
    · split
      · rfl
      · split
        · omega
        · rfl

/- A rounded quotient is within one half of the quotient. -/
theorem divRound_error
    (num : Nat)
    {den : Nat}
    (hDen : 0 < den) :
    2 * num ≤ 2 * (divRound num den * den) + den ∧
      2 * (divRound num den * den) ≤ 2 * num + den := by
  have hSplit : num / den * den + num % den = num :=
    Nat.div_add_mod' num den
  have hRest : num % den < den := Nat.mod_lt num hDen
  have hNext : (num / den + 1) * den = num / den * den + den := by
    rw [Nat.add_mul, Nat.one_mul]
  unfold divRound
  dsimp only
  split
  · omega
  · split
    · omega
    · split
      · omega
      · omega

/- Rounding keeps the order of quotients. -/
theorem divRound_mono
    {num den num' den' : Nat}
    (hDen : 0 < den)
    (hDen' : 0 < den')
    (hOrder : num * den' ≤ num' * den) :
    divRound num den ≤ divRound num' den' := by
  have hSame :
      ∀ {a b c : Nat}, a ≤ b → divRound a c ≤ divRound b c := by
    intro a b c hLess
    have hQuotient : a / c ≤ b / c := Nat.div_le_div_right hLess
    rcases Nat.eq_or_lt_of_le hQuotient with hEqual | hBelow
    · have hLeft := Nat.div_add_mod a c
      have hRight := Nat.div_add_mod b c
      have hRest : a % c ≤ b % c := by
        rw [← hEqual] at hRight
        omega
      unfold divRound
      simp only [← hEqual]
      repeat' split
      all_goals omega
    · have hLeft := (divRound_bounds a c).2
      have hRight := (divRound_bounds b c).1
      omega
  calc divRound num den
      = divRound (num * den') (den * den') :=
        (divRound_mul_right num den hDen').symm
    _ ≤ divRound (num' * den) (den * den') := hSame hOrder
    _ = divRound num' den' := by
        rw [Nat.mul_comm den den', divRound_mul_right num' den' hDen]

end EmojiQuery

------------------------------------------------------------
-- Places
------------------------------------------------------------

namespace EmojiQuery

namespace Binary64

variable {num den num' den' : Nat}

/-
  A ratio has its last place at the number `k`, counted from
  the last place of all: 53 binary digits stand before its
  end, the first of which is not zero unless `k` is.
-/
structure HasPlace
    (num den k : Nat) : Prop where
  upper :
    num * 2 ^ (1074 - k) < 2 ^ 53 * (den * 2 ^ (k - 1074))
  lower :
    k = 0 ∨ 2 ^ 52 * (den * 2 ^ (k - 1074)) ≤ num * 2 ^ (1074 - k)

/- The bounds of a place compare the value with powers of two. -/
theorem lt_place_iff
    (num : Nat)
    (hDen : 0 < den)
    (k d : Nat) :
    num * 2 ^ (1074 - k) < 2 ^ d * (den * 2 ^ (k - 1074)) ↔
      (num : ℚ) / den < 2 ^ ((k : Int) - 1074 + d) := by
  have hUp : ((k : Int) - 1074).toNat = k - 1074 := by
    omega
  have hDown : (-((k : Int) - 1074)).toNat = 1074 - k := by
    omega
  have hPositive : 0 < 2 ^ d * den :=
    Nat.mul_pos (Nat.two_pow_pos d) hDen
  have hTest := mul_pow_lt_iff num hPositive ((k : Int) - 1074)
  rw [hUp, hDown, Nat.pow_eq, Nat.pow_eq, Nat.mul_assoc] at hTest
  rw [hTest, zpow_add₀ (by norm_num), zpow_natCast]
  push_cast
  rw [mul_comm ((2 : ℚ) ^ d), ← div_div,
    div_lt_iff₀ (by positivity)]

/- Every ratio has a place. -/
theorem exists_hasPlace
    (hNum : 0 < num)
    (hDen : 0 < den) :
    ∃ k, HasPlace num den k := by
  have hRatio : (0 : ℚ) < num / den := by
    positivity
  obtain ⟨l, hLog⟩ : ∃ l, Int.log 2 ((num : ℚ) / den) = l :=
    ⟨_, rfl⟩
  have hLess : Int.log 2 ((num : ℚ) / den) < l + 1 := by
    omega
  have hAbove : (num : ℚ) / den < 2 ^ (l + 1) :=
    (Int.lt_zpow_iff_log_lt (by norm_num) hRatio).mpr hLess
  have hBelow : (2 : ℚ) ^ l ≤ num / den :=
    (Int.zpow_le_iff_le_log (by norm_num) hRatio).mpr hLog.ge
  refine ⟨(l + 1022).toNat, ?_, ?_⟩
  · rw [lt_place_iff num hDen]
    apply lt_of_lt_of_le hAbove
    exact zpow_le_zpow_right₀ (by norm_num) (by omega)
  · rcases Nat.eq_zero_or_pos (l + 1022).toNat with
      hZero | hPositive
    · exact .inl hZero
    · right
      rw [← Nat.not_lt, lt_place_iff num hDen, not_lt]
      apply le_trans _ hBelow
      exact zpow_le_zpow_right₀ (by norm_num) (by omega)

/- A ratio is rounded at its place. -/
theorem roundMagnitude_of_place
    {k : Nat}
    (hNum : 0 < num)
    (hDen : 0 < den)
    (hPlace : HasPlace num den k) :
    roundMagnitude num den =
      min
        (k * exponentUnit +
          divRound (num * 2 ^ (1074 - k)) (den * 2 ^ (k - 1074)))
        infinite := by
  have hRatio : (0 : ℚ) < num / den := by
    positivity
  have hUpper := hPlace.upper
  rw [lt_place_iff num hDen] at hUpper
  have hBelow : Int.log 2 ((num : ℚ) / den) < k - 1074 + 53 :=
    (Int.lt_zpow_iff_log_lt (by norm_num) hRatio).mp hUpper
  have hLast :
      max (logTwo num den - 52) (-1074) = (k : Int) - 1074 := by
    rw [logTwo_eq_log hNum hDen]
    rcases hPlace.lower with hZero | hLower
    · omega
    · rw [← Nat.not_lt, lt_place_iff num hDen, not_lt] at hLower
      have hAbove :
          (k : Int) - 1074 + 52 ≤ Int.log 2 ((num : ℚ) / den) :=
        (Int.zpow_le_iff_le_log (by norm_num) hRatio).mp hLower
      omega
  have hUp : ((k : Int) - 1074).toNat = k - 1074 := by
    omega
  have hDown : (-((k : Int) - 1074)).toNat = 1074 - k := by
    omega
  have hNumber : ((k : Int) - 1074 + 1074).toNat = k := by
    omega
  simp only [roundMagnitude]
  rw [if_neg (Nat.ne_of_gt hNum), hLast, hNumber, hUp, hDown,
    Nat.pow_eq, Nat.pow_eq]

/- A significand has at most one binary digit more than it shows. -/
theorem HasPlace.divRound_le
    {k : Nat}
    (hDen : 0 < den)
    (hPlace : HasPlace num den k) :
    divRound (num * 2 ^ (1074 - k)) (den * 2 ^ (k - 1074)) ≤
      2 ^ 53 := by
  have hPositive : 0 < den * 2 ^ (k - 1074) :=
    Nat.mul_pos hDen (Nat.two_pow_pos _)
  have hQuotient :=
    (Nat.div_lt_iff_lt_mul hPositive).mpr hPlace.upper
  have hRounded := (divRound_bounds (num * 2 ^ (1074 - k))
    (den * 2 ^ (k - 1074))).2
  omega

theorem HasPlace.le_divRound
    {k : Nat}
    (hDen : 0 < den)
    (hPlace : HasPlace num den k)
    (hAbove : k ≠ 0) :
    2 ^ 52 ≤
      divRound (num * 2 ^ (1074 - k)) (den * 2 ^ (k - 1074)) := by
  have hPositive : 0 < den * 2 ^ (k - 1074) :=
    Nat.mul_pos hDen (Nat.two_pow_pos _)
  have hLower := hPlace.lower.resolve_left hAbove
  have hQuotient := (Nat.le_div_iff_mul_le hPositive).mpr hLower
  have hRounded := (divRound_bounds (num * 2 ^ (1074 - k))
    (den * 2 ^ (k - 1074))).1
  omega

/- Greater ratios have no lower place. -/
theorem HasPlace.mono
    {k k' : Nat}
    (hDen : 0 < den)
    (hDen' : 0 < den')
    (hPlace : HasPlace num den k)
    (hPlace' : HasPlace num' den' k')
    (hOrder : num * den' ≤ num' * den) :
    k ≤ k' := by
  by_contra hLess
  have hLower := hPlace.lower.resolve_left (by omega)
  have hUpper := hPlace'.upper
  rw [← Nat.not_lt, lt_place_iff num hDen, not_lt] at hLower
  rw [lt_place_iff num' hDen'] at hUpper
  have hRatio : (num : ℚ) / den ≤ num' / den' := by
    rw [div_le_div_iff₀ (by exact_mod_cast hDen)
      (by exact_mod_cast hDen')]
    exact_mod_cast hOrder
  have hPower :
      (2 : ℚ) ^ ((k' : Int) - 1074 + 53) ≤
        2 ^ ((k : Int) - 1074 + 52) :=
    zpow_le_zpow_right₀ (by norm_num) (by omega)
  exact absurd (lt_of_le_of_lt (le_trans hLower hRatio) hUpper)
    (not_lt.mpr hPower)

/- Rounding keeps the order of ratios. -/
theorem roundMagnitude_mono
    (hDen : 0 < den)
    (hDen' : 0 < den')
    (hOrder : num * den' ≤ num' * den) :
    roundMagnitude num den ≤ roundMagnitude num' den' := by
  rcases Nat.eq_zero_or_pos num with rfl | hNum
  · rw [roundMagnitude, if_pos rfl]
    exact Nat.zero_le _
  · have hNum' : 0 < num' := by
      apply Nat.pos_of_ne_zero
      rintro rfl
      have hProduct := Nat.mul_pos hNum hDen'
      omega
    rcases exists_hasPlace hNum hDen with ⟨k, hPlace⟩
    rcases exists_hasPlace hNum' hDen' with ⟨k', hPlace'⟩
    rw [roundMagnitude_of_place hNum hDen hPlace,
      roundMagnitude_of_place hNum' hDen' hPlace']
    apply min_le_min_right
    -- Quotients are compared at one place; a lower place ends
    -- where the next begins.
    rcases Nat.eq_or_lt_of_le
        (hPlace.mono hDen hDen' hPlace' hOrder) with rfl | hBelow
    · apply Nat.add_le_add_left
      apply divRound_mono
      · exact Nat.mul_pos hDen (Nat.two_pow_pos _)
      · exact Nat.mul_pos hDen' (Nat.two_pow_pos _)
      · rw [Nat.mul_mul_mul_comm, Nat.mul_mul_mul_comm num']
        exact Nat.mul_le_mul_right _ hOrder
    · have hLeft := hPlace.divRound_le hDen
      have hRight := hPlace'.le_divRound hDen' (by omega)
      have hStep : (k + 1) * exponentUnit ≤ k' * exponentUnit :=
        Nat.mul_le_mul_right _ hBelow
      rw [Nat.add_mul, Nat.one_mul] at hStep
      simp only [exponentUnit] at hStep ⊢
      omega

end Binary64

end EmojiQuery

------------------------------------------------------------
-- Numbers Near a Ratio
------------------------------------------------------------

namespace EmojiQuery

namespace Binary64

variable {x : Binary64}
variable {num den k : Nat}

/-
  The place and the significand of a finite number make up its
  magnitude.
-/
structure HasParts
    (x : Binary64)
    (k : Nat) : Prop where
  magnitude_eq : x.magnitude = k * exponentUnit + x.significand
  exponent_eq : x.exponent = (k : Int) - 1074
  significand_lt : x.significand < 2 ^ 53
  le_significand : k = 0 ∨ 2 ^ 52 ≤ x.significand
  place_le : k ≤ 2045

theorem exists_hasParts
    (hFinite : x.isFinite = true) :
    ∃ k, HasParts x k := by
  rw [isFinite, decide_eq_true_eq] at hFinite
  simp only [infinite, exponentUnit] at hFinite
  rcases Nat.lt_or_ge x.magnitude exponentUnit with hSmall | hLarge
  · refine ⟨0, ?_, ?_, ?_, .inl rfl, by decide⟩
    · rw [significand, if_pos hSmall, Nat.zero_mul, Nat.zero_add]
    · rw [exponent, if_pos hSmall]
      rfl
    · rw [significand, if_pos hSmall]
      simp only [exponentUnit] at hSmall
      omega
  · have hNormal : ¬ x.magnitude < exponentUnit :=
      Nat.not_lt.mpr hLarge
    refine ⟨x.magnitude / exponentUnit - 1, ?_, ?_, ?_, .inr ?_, ?_⟩
    · rw [significand, if_neg hNormal]
      simp only [exponentUnit] at hLarge ⊢
      omega
    · rw [exponent, if_neg hNormal]
      simp only [exponentUnit] at hLarge ⊢
      omega
    · rw [significand, if_neg hNormal]
      simp only [exponentUnit]
      omega
    · rw [significand, if_neg hNormal]
      simp only [exponentUnit]
      omega
    · simp only [exponentUnit]
      omega

theorem HasParts.magnitude_lt
    (hParts : HasParts x k) :
    k * exponentUnit + x.significand < infinite := by
  have hPlace := hParts.place_le
  have hSignificand := hParts.significand_lt
  simp only [exponentUnit, infinite]
  omega

/-
  A ratio is near a number: within half a unit of its last
  place, and only within a quarter below a power of two, where
  the next number is half as far away. In the middle between
  two numbers only one with an even significand is near.
-/
structure Near
    (x : Binary64)
    (num den k : Nat) : Prop where
  lower :
    2 * (x.significand * (den * 2 ^ (k - 1074))) ≤
      2 * (num * 2 ^ (1074 - k)) + den * 2 ^ (k - 1074)
  upper :
    2 * (num * 2 ^ (1074 - k)) ≤
      2 * (x.significand * (den * 2 ^ (k - 1074))) +
        den * 2 ^ (k - 1074)
  odd :
    x.significand % 2 = 1 →
      2 * (x.significand * (den * 2 ^ (k - 1074))) <
          2 * (num * 2 ^ (1074 - k)) + den * 2 ^ (k - 1074) ∧
        2 * (num * 2 ^ (1074 - k)) <
          2 * (x.significand * (den * 2 ^ (k - 1074))) +
            den * 2 ^ (k - 1074)
  narrow :
    x.significand = 2 ^ 52 →
      k ≠ 0 →
        4 * (x.significand * (den * 2 ^ (k - 1074))) ≤
          4 * (num * 2 ^ (1074 - k)) + den * 2 ^ (k - 1074)

/- Below a power of two a ratio has the place before. -/
theorem roundMagnitude_below_power
    (hParts : HasParts x k)
    (hNum : 0 < num)
    (hDen : 0 < den)
    (hNear : Near x num den k)
    (hPower : x.significand = 2 ^ 52)
    (hPlace : k ≠ 0)
    (hBelow :
      num * 2 ^ (1074 - k) < 2 ^ 52 * (den * 2 ^ (k - 1074))) :
    roundMagnitude num den = x.magnitude := by
  have hNarrow := hNear.narrow hPower hPlace
  rw [hPower] at hNarrow
  have hAbove :
      ¬ num * 2 ^ (1074 - k) < 2 ^ 51 * (den * 2 ^ (k - 1074)) := by
    omega
  have hHere : HasPlace num den (k - 1) := by
    constructor
    · rw [lt_place_iff num hDen] at hBelow ⊢
      apply lt_of_lt_of_le hBelow
      exact zpow_le_zpow_right₀ (by norm_num) (by omega)
    · right
      rw [lt_place_iff num hDen, not_lt] at hAbove
      rw [← Nat.not_lt, lt_place_iff num hDen, not_lt]
      apply le_trans _ hAbove
      exact zpow_le_zpow_right₀ (by norm_num) (by omega)
  have hRounded :
      divRound (num * 2 ^ (1074 - (k - 1)))
          (den * 2 ^ (k - 1 - 1074)) =
        2 ^ 53 := by
    have hPositive : 0 < den * 2 ^ (k - 1 - 1074) :=
      Nat.mul_pos hDen (Nat.two_pow_pos _)
    rcases Nat.lt_or_ge 1074 k with hUp | hDown
    · have hSame : 1074 - (k - 1) = 1074 - k := by
        omega
      have hDouble :
          den * 2 ^ (k - 1074) = 2 * (den * 2 ^ (k - 1 - 1074)) := by
        rw [show k - 1074 = k - 1 - 1074 + 1 by omega, Nat.pow_succ]
        ring
      rw [hDouble] at hNarrow hBelow
      rw [hSame]
      apply divRound_eq_of_bounds hPositive
      · omega
      · omega
      · intro hOdd
        exact absurd hOdd (by decide)
    · have hDouble :
          num * 2 ^ (1074 - (k - 1)) = 2 * (num * 2 ^ (1074 - k)) := by
        rw [show 1074 - (k - 1) = 1074 - k + 1 by omega,
          Nat.pow_succ]
        ring
      have hSame : k - 1 - 1074 = k - 1074 := by
        omega
      rw [hSame] at hPositive
      rw [hDouble, hSame]
      apply divRound_eq_of_bounds hPositive
      · omega
      · omega
      · intro hOdd
        exact absurd hOdd (by decide)
  have hMagnitude := hParts.magnitude_eq
  have hRange := hParts.magnitude_lt
  rw [roundMagnitude_of_place hNum hDen hHere, hRounded,
    hMagnitude, hPower]
  rw [hPower] at hRange
  simp only [exponentUnit, infinite] at hRange ⊢
  omega

/- A ratio that is near a number is rounded to it. -/
theorem roundMagnitude_of_near
    (hParts : HasParts x k)
    (hNum : 0 < num)
    (hDen : 0 < den)
    (hNear : Near x num den k) :
    roundMagnitude num den = x.magnitude := by
  have hPositive : 0 < den * 2 ^ (k - 1074) :=
    Nat.mul_pos hDen (Nat.two_pow_pos _)
  by_cases hCarry :
      x.significand = 2 ^ 52 ∧ k ≠ 0 ∧
        num * 2 ^ (1074 - k) < 2 ^ 52 * (den * 2 ^ (k - 1074))
  · exact roundMagnitude_below_power hParts hNum hDen hNear
      hCarry.1 hCarry.2.1 hCarry.2.2
  · have hHere : HasPlace num den k := by
      constructor
      · have hLargest :
            x.significand * (den * 2 ^ (k - 1074)) ≤
              (2 ^ 53 - 1) * (den * 2 ^ (k - 1074)) :=
          Nat.mul_le_mul_right _
            (Nat.le_sub_one_of_lt hParts.significand_lt)
        have hUpper := hNear.upper
        omega
      · rcases Nat.eq_zero_or_pos k with hZero | hAbove
        · exact .inl hZero
        · right
          have hLeast := hParts.le_significand.resolve_left
            (Nat.ne_of_gt hAbove)
          rcases Nat.eq_or_lt_of_le hLeast with hPower | hInside
          · by_contra hBelow
            exact hCarry
              ⟨hPower.symm, Nat.ne_of_gt hAbove,
                Nat.not_le.mp hBelow⟩
          · have hStep :
                (2 ^ 52 + 1) * (den * 2 ^ (k - 1074)) ≤
                  x.significand * (den * 2 ^ (k - 1074)) :=
              Nat.mul_le_mul_right _ hInside
            have hLower := hNear.lower
            omega
    rw [roundMagnitude_of_place hNum hDen hHere,
      divRound_eq_of_bounds hPositive hNear.lower hNear.upper
        hNear.odd,
      hParts.magnitude_eq]
    exact Nat.min_eq_left (Nat.le_of_lt hParts.magnitude_lt)

end Binary64

end EmojiQuery
