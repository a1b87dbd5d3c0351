import EmojiQuery.Number.Shortest
import EmojiQuery.Proofs.Number.Nearest

/-
  The shortest decimal number of a double precision number
  rounds to it. The search for it ends on a grid that is fine
  enough, and the grid before that is too coarse for the digits
  to be many.

  Main declarations:
    * `Binary64.Cell.near_of_mem`
    * `Binary64.FineGrid`
    * `Binary64.Cell.search_spec`
    * `Binary64.exists_search_eq`
    * `Binary64.isDecimalOf_shortest`
-/

------------------------------------------------------------
-- Cells
------------------------------------------------------------

namespace EmojiQuery

namespace Binary64

variable {x : Binary64}
variable {k : Nat}

/- The cell of a number, by the place of the number. -/
theorem HasParts.cell_eq
    (hParts : HasParts x k) :
    x.cell =
      ⟨4 * 2 ^ (1074 - k),
        4 * x.significand * 2 ^ (k - 1074),
        (4 * x.significand -
          if x.significand = 2 ^ 52 ∧ k ≠ 0 then 1 else 2) *
            2 ^ (k - 1074),
        (4 * x.significand + 2) * 2 ^ (k - 1074),
        decide (x.significand % 2 = 0)⟩ := by
  have hUp : x.exponent.toNat = k - 1074 := by
    rw [hParts.exponent_eq]
    omega
  have hDown : (-x.exponent).toNat = 1074 - k := by
    rw [hParts.exponent_eq]
    omega
  have hNarrow :
      (x.significand = exponentUnit ∧ -1074 < x.exponent) ↔
        x.significand = 2 ^ 52 ∧ k ≠ 0 := by
    rw [hParts.exponent_eq]
    apply and_congr Iff.rfl
    omega
  simp only [cell, hUp, hDown, Nat.pow_eq, hNarrow]

/- A decimal number lies between the ends of a cell, or on a closed one. -/
theorem Cell.mem_iff
    (c : Cell)
    (n : Nat)
    (exp : Int) :
    c.mem n exp = true ↔
      (c.lower * 10 ^ (-exp).toNat ≤ n * 10 ^ exp.toNat * c.den ∧
          n * 10 ^ exp.toNat * c.den ≤
            c.upper * 10 ^ (-exp).toNat) ∧
        (c.closed = false →
          c.lower * 10 ^ (-exp).toNat < n * 10 ^ exp.toNat * c.den ∧
            n * 10 ^ exp.toNat * c.den <
              c.upper * 10 ^ (-exp).toNat) := by
  simp only [Cell.mem, Nat.pow_eq]
  cases c.closed with
  | true =>
      simp
  | false =>
      simp only [Bool.false_eq_true, if_false, Bool.and_eq_true,
        decide_eq_true_eq, true_implies]
      omega

/- A decimal number inside the cell of a number is near to it. -/
theorem Cell.near_of_mem
    (hParts : HasParts x k)
    (hNonzero : x.significand ≠ 0)
    {n : Nat}
    {exp : Int}
    (hMember : x.cell.mem n exp = true) :
    Near x (n * 10 ^ exp.toNat) (10 ^ (-exp).toNat) k := by
  have hValue :
      n * 10 ^ exp.toNat * (4 * 2 ^ (1074 - k)) =
        4 * (n * 10 ^ exp.toNat * 2 ^ (1074 - k)) := by
    ring
  have hEnd :
      ∀ a, a * 2 ^ (k - 1074) * 10 ^ (-exp).toNat =
        a * (10 ^ (-exp).toNat * 2 ^ (k - 1074)) := by
    intro a
    ring
  have hUnit :
      10 ^ (-exp).toNat * 2 ^ (k - 1074) ≤
        x.significand * (10 ^ (-exp).toNat * 2 ^ (k - 1074)) :=
    Nat.le_mul_of_pos_left _ (Nat.pos_of_ne_zero hNonzero)
  rw [Cell.mem_iff, hParts.cell_eq] at hMember
  simp only [hValue, hEnd, Nat.sub_mul, Nat.add_mul,
    Nat.mul_assoc 4, decide_eq_false_iff_not] at hMember
  rcases hMember with ⟨⟨hLower, hUpper⟩, hOpen⟩
  constructor
  · split at hLower <;> omega
  · omega
  · intro hOdd
    have hStrict := hOpen (by omega)
    split at hStrict <;> omega
  · intro hPower hPlace
    rw [if_pos ⟨hPower, hPlace⟩] at hLower
    omega

end Binary64

end EmojiQuery

------------------------------------------------------------
-- Grids
------------------------------------------------------------

namespace EmojiQuery

namespace Binary64

variable {x : Binary64}
variable {k : Nat}

/-
  The multiples of a power of ten are finer than half a unit
  of the last place `k`.
-/
def FineGrid
    (k : Nat)
    (exp : Int) : Prop :=
  2 * (10 ^ exp.toNat * 2 ^ (1074 - k)) <
    10 ^ (-exp).toNat * 2 ^ (k - 1074)

instance
    (k : Nat)
    (exp : Int) :
    Decidable (FineGrid k exp) := by
  unfold FineGrid
  infer_instance

/- A power, by the powers of its positive and its negative part. -/
theorem zpow_eq_div
    {b : Nat}
    (hBase : 0 < b)
    (e : Int) :
    (b : ℚ) ^ e =
      ((b ^ e.toNat : Nat) : ℚ) / ((b ^ (-e).toNat : Nat) : ℚ) := by
  have hNonzero : (b : ℚ) ≠ 0 := by
    exact_mod_cast Nat.ne_of_gt hBase
  push_cast
  rw [← zpow_natCast, ← zpow_natCast, ← zpow_sub₀ hNonzero]
  congr 1
  omega

theorem fineGrid_iff
    (k : Nat)
    (exp : Int) :
    FineGrid k exp ↔
      2 * (10 : ℚ) ^ exp < 2 ^ ((k : Int) - 1074) := by
  have hTwo := zpow_eq_div (b := 2) (by decide) ((k : Int) - 1074)
  have hTen := zpow_eq_div (b := 10) (by decide) exp
  have hUp : ((k : Int) - 1074).toNat = k - 1074 := by
    omega
  have hDown : (-((k : Int) - 1074)).toNat = 1074 - k := by
    omega
  rw [hUp, hDown, Nat.cast_ofNat] at hTwo
  rw [Nat.cast_ofNat] at hTen
  rw [hTwo, hTen, ← mul_div_assoc,
    div_lt_div_iff₀ (by positivity) (by positivity), FineGrid,
    ← Nat.cast_lt (α := ℚ)]
  push_cast
  ring_nf

/- A smaller power of ten makes a finer grid. -/
theorem FineGrid.mono
    {exp exp' : Int}
    (hFine : FineGrid k exp)
    (hLess : exp' ≤ exp) :
    FineGrid k exp' := by
  rw [fineGrid_iff] at hFine ⊢
  apply lt_of_le_of_lt _ hFine
  apply mul_le_mul_of_nonneg_left _ (by norm_num)
  exact zpow_le_zpow_right₀ (by norm_num) hLess

namespace Cell

/- Of two candidates the first one in the cell is taken. -/
theorem eq_some_of_candidates
    {c : Cell}
    {exp : Int}
    {n near far bound : Nat}
    (hNear : near ≤ bound)
    (hFar : far ≤ bound)
    (hSome :
      (if c.mem near exp && near ≠ 0 then some near
        else if c.mem far exp && far ≠ 0 then some far
        else none) = some n) :
    c.mem n exp = true ∧ n ≠ 0 ∧ n ≤ bound := by
  simp only [Bool.and_eq_true, decide_eq_true_eq] at hSome
  split at hSome
  · next hFirst =>
      obtain rfl := Option.some.inj hSome
      exact ⟨hFirst.1, hFirst.2, hNear⟩
  · split at hSome
    · next hSecond =>
        obtain rfl := Option.some.inj hSome
        exact ⟨hSecond.1, hSecond.2, hFar⟩
    · cases hSome

/- A neighbour lies in the cell, and is at most the next number. -/
theorem neighbour?_eq_some
    {c : Cell}
    {exp : Int}
    {n : Nat}
    (hSome : c.neighbour? exp = some n) :
    c.mem n exp = true ∧ n ≠ 0 ∧
      n ≤ c.value * 10 ^ (-exp).toNat / (c.den * 10 ^ exp.toNat) +
        1 := by
  apply eq_some_of_candidates _ _ hSome
  · exact (divRound_bounds _ _).2
  · split
    · exact Nat.le_refl _
    · exact Nat.le_succ _

/- A fine grid has a neighbour in the cell. -/
theorem exists_neighbour?_of_fineGrid
    (hParts : HasParts x k)
    (hNonzero : x.significand ≠ 0)
    {exp : Int}
    (hFine : FineGrid k exp) :
    ∃ n, x.cell.neighbour? exp = some n := by
  let num := x.cell.value * 10 ^ (-exp).toNat
  let den := x.cell.den * 10 ^ exp.toNat
  let unit := 10 ^ (-exp).toNat * 2 ^ (k - 1074)
  have hDen : den = 4 * (10 ^ exp.toNat * 2 ^ (1074 - k)) := by
    simp only [den, hParts.cell_eq]
    ring
  have hNum : num = 4 * (x.significand * unit) := by
    simp only [num, unit, hParts.cell_eq]
    ring
  have hPositive : 0 < den := by
    rw [hDen]
    positivity
  have hUnit : unit ≤ x.significand * unit :=
    Nat.le_mul_of_pos_left _ (Nat.pos_of_ne_zero hNonzero)
  have hStep : den < 2 * unit := by
    rw [hDen]
    simp only [FineGrid] at hFine
    omega
  have hError := divRound_error num hPositive
  have hNear : divRound num den ≠ 0 := by
    intro hZero
    rw [hZero, Nat.zero_mul] at hError
    omega
  have hEnd :
      ∀ a, a * 2 ^ (k - 1074) * 10 ^ (-exp).toNat = a * unit := by
    intro a
    simp only [unit]
    ring
  have hValue :
      divRound num den * 10 ^ exp.toNat * (4 * 2 ^ (1074 - k)) =
        divRound num den * den := by
    rw [hDen]
    ring
  have hMember : x.cell.mem (divRound num den) exp = true := by
    rw [Cell.mem_iff, hParts.cell_eq]
    simp only [hValue, hEnd, Nat.sub_mul, Nat.add_mul,
      Nat.mul_assoc 4]
    split <;> omega
  refine ⟨divRound num den, ?_⟩
  unfold neighbour?
  exact if_pos (by simpa using ⟨hMember, hNear⟩)

/-
  The search stops at the first grid with a neighbour: the one
  that it starts from, or one whose forerunner was too coarse.
-/
theorem search_spec
    {c : Cell}
    {fine : Int → Prop}
    (hFine : ∀ exp, fine exp → ∃ n, c.neighbour? exp = some n)
    (fuel : Nat)
    {exp : Int}
    (hEnd : fine (exp - fuel)) :
    ∃ n last, c.search (fuel + 1) exp = ⟨n, last⟩ ∧
      c.neighbour? last = some n ∧
        (last = exp ∨ ¬ fine (last + 1)) ∧
          exp - fuel ≤ last ∧ last ≤ exp := by
  induction fuel generalizing exp with
  | zero =>
      have hHere : fine exp := by
        simpa using hEnd
      rcases hFine exp hHere with ⟨n, hSome⟩
      exact ⟨n, exp, by rw [search, hSome], hSome, .inl rfl,
        by omega, Int.le_refl exp⟩
  | succ fuel ih =>
      cases hCase : c.neighbour? exp with
      | some n =>
          exact ⟨n, exp, by rw [search, hCase], hCase, .inl rfl,
            by omega, Int.le_refl exp⟩
      | none =>
          have hCoarse : ¬ fine exp := by
            intro hHere
            rcases hFine exp hHere with ⟨n, hSome⟩
            rw [hSome] at hCase
            cases hCase
          have hRest : fine (exp - 1 - fuel) := by
            have hSame :
                exp - 1 - (fuel : Int) =
                  exp - ((fuel + 1 : Nat) : Int) := by
              omega
            rwa [hSame]
          rcases ih hRest with
            ⟨n, last, hSearch, hSome, hStart, hLower, hUpper⟩
          refine ⟨n, last, ?_, hSome, .inr ?_, by omega, by omega⟩
          · rw [search, hCase]
            exact hSearch
          · rcases hStart with rfl | hNext
            · rwa [Int.sub_add_cancel]
            · exact hNext

end Cell

end Binary64

end EmojiQuery

------------------------------------------------------------
-- The First Grid
------------------------------------------------------------

namespace EmojiQuery

namespace Binary64

/- The exponent of ten from which the search starts, for a logarithm. -/
def startFor
    (l : Int) : Int :=
  l * 30103 / 100000 + 2

/- No number with a binary logarithm reaches the grid of its start. -/
theorem lt_pow_startFor
    {l : Int}
    (hLower : -1074 ≤ l)
    (hUpper : l ≤ 1023) :
    (2 : ℚ) ^ (l + 1) ≤ 10 ^ startFor l := by
  have hAll :
      ∀ i ∈ List.range 2098,
        2 ^ ((i : Int) - 1073).toNat *
            10 ^ (-startFor ((i : Int) - 1074)).toNat ≤
          10 ^ (startFor ((i : Int) - 1074)).toNat *
            2 ^ (-((i : Int) - 1073)).toNat := by
    decide +kernel
  have hHere := hAll (l + 1074).toNat
    (List.mem_range.mpr (by omega))
  have hLog : (((l + 1074).toNat : Nat) : Int) - 1074 = l := by
    omega
  have hNext : (((l + 1074).toNat : Nat) : Int) - 1073 = l + 1 := by
    omega
  rw [hLog, hNext] at hHere
  have hTwo := zpow_eq_div (b := 2) (by decide) (l + 1)
  have hTen := zpow_eq_div (b := 10) (by decide) (startFor l)
  rw [Nat.cast_ofNat] at hTwo hTen
  rw [hTwo, hTen, div_le_div_iff₀ (by positivity) (by positivity)]
  exact_mod_cast hHere

/- Twenty-three steps below the start, the grid is fine. -/
theorem fineGrid_of_startFor
    {k : Nat}
    (hPlace : k ≤ 2045) :
    FineGrid k (startFor ((k : Int) - 1022) - 23) := by
  have hAll :
      ∀ k ∈ List.range 2046,
        FineGrid k (startFor ((k : Int) - 1022) - 23) := by
    decide +kernel
  exact hAll k (List.mem_range.mpr (by omega))

variable {x : Binary64}
variable {k : Nat}

/- The value of a cell is that of its number. -/
theorem HasParts.cell_value
    (hParts : HasParts x k) :
    0 < x.cell.den ∧
      (x.cell.value : ℚ) / x.cell.den =
        x.significand * 2 ^ ((k : Int) - 1074) := by
  have hTwo := zpow_eq_div (b := 2) (by decide) ((k : Int) - 1074)
  have hUp : ((k : Int) - 1074).toNat = k - 1074 := by
    omega
  have hDown : (-((k : Int) - 1074)).toNat = 1074 - k := by
    omega
  rw [hUp, hDown, Nat.cast_ofNat] at hTwo
  rw [hParts.cell_eq, hTwo]
  refine ⟨Nat.mul_pos (by decide) (Nat.two_pow_pos _), ?_⟩
  rw [← mul_div_assoc, div_eq_div_iff (by positivity) (by positivity)]
  push_cast
  ring

/- The binary logarithm of a number, from its place. -/
theorem HasParts.logTwo_bounds
    (hParts : HasParts x k)
    (hNonzero : x.significand ≠ 0) :
    (k : Int) - 1074 ≤ logTwo x.cell.value x.cell.den ∧
      logTwo x.cell.value x.cell.den ≤ (k : Int) - 1022 ∧
        (x.cell.value : ℚ) / x.cell.den <
          2 ^ (logTwo x.cell.value x.cell.den + 1) := by
  rcases hParts.cell_value with ⟨hDen, hValue⟩
  have hPower : (0 : ℚ) < 2 ^ ((k : Int) - 1074) :=
    zpow_pos (by norm_num) _
  have hSignificand : (1 : ℚ) ≤ x.significand := by
    exact_mod_cast Nat.pos_of_ne_zero hNonzero
  have hRatio : (0 : ℚ) < x.cell.value / x.cell.den := by
    rw [hValue]
    positivity
  have hNum : 0 < x.cell.value := by
    apply Nat.pos_of_ne_zero
    intro hZero
    rw [hZero, Nat.cast_zero, zero_div] at hRatio
    exact lt_irrefl _ hRatio
  rw [logTwo_eq_log hNum hDen]
  obtain ⟨l, hLog⟩ :
      ∃ l, Int.log 2 ((x.cell.value : ℚ) / x.cell.den) = l :=
    ⟨_, rfl⟩
  rw [hLog]
  refine ⟨?_, ?_, ?_⟩
  · have hLower :
        (2 : ℚ) ^ ((k : Int) - 1074) ≤ x.cell.value / x.cell.den := by
      rw [hValue]
      exact le_mul_of_one_le_left hPower.le hSignificand
    have hAtLeast :
        (k : Int) - 1074 ≤
          Int.log 2 ((x.cell.value : ℚ) / x.cell.den) :=
      (Int.zpow_le_iff_le_log (by norm_num) hRatio).mp hLower
    omega
  · have hUpper :
        (x.cell.value : ℚ) / x.cell.den <
          2 ^ ((k : Int) - 1074 + 53) := by
      rw [hValue, zpow_add₀ (by norm_num), mul_comm]
      apply mul_lt_mul_of_pos_left _ hPower
      exact_mod_cast hParts.significand_lt
    have hBelow :
        Int.log 2 ((x.cell.value : ℚ) / x.cell.den) <
          (k : Int) - 1074 + 53 :=
      (Int.lt_zpow_iff_log_lt (by norm_num) hRatio).mp hUpper
    omega
  · have hLess :
        Int.log 2 ((x.cell.value : ℚ) / x.cell.den) < l + 1 := by
      omega
    exact (Int.lt_zpow_iff_log_lt (by norm_num) hRatio).mpr hLess

/- A quotient by a power of ten, compared through the values. -/
theorem div_pow_le
    {num den a : Nat}
    {exp : Int}
    (hDen : 0 < den)
    (hValue : (num : ℚ) / den ≤ a * 10 ^ exp) :
    num * 10 ^ (-exp).toNat / (den * 10 ^ exp.toNat) ≤ a := by
  have hTen := zpow_eq_div (b := 10) (by decide) exp
  rw [Nat.cast_ofNat] at hTen
  rw [hTen, ← mul_div_assoc,
    div_le_div_iff₀ (by exact_mod_cast hDen) (by positivity)]
    at hValue
  apply Nat.div_le_of_le_mul
  have hProduct :
      num * 10 ^ (-exp).toNat ≤ a * 10 ^ exp.toNat * den := by
    exact_mod_cast hValue
  calc num * 10 ^ (-exp).toNat ≤ a * 10 ^ exp.toNat * den := hProduct
    _ = den * 10 ^ exp.toNat * a := by ring

/- The search finds a number in the cell that has few digits. -/
theorem exists_search_eq
    (hParts : HasParts x k)
    (hNonzero : x.significand ≠ 0) :
    ∃ n exp,
      x.cell.search 24
          (logTenApprox x.cell.value x.cell.den + 2) =
        ⟨n, exp⟩ ∧
        x.cell.mem n exp = true ∧ n ≠ 0 ∧ n < 10 ^ 18 ∧
          -346 ≤ exp ∧ exp ≤ 311 := by
  rcases hParts.cell_value with ⟨hDen, hValue⟩
  rcases hParts.logTwo_bounds hNonzero with ⟨hLower, hUpper, hLess⟩
  generalize hLog : logTwo x.cell.value x.cell.den = l at *
  have hPlace := hParts.place_le
  have hStart :
      logTenApprox x.cell.value x.cell.den + 2 = startFor l := by
    rw [logTenApprox, hLog]
    rfl
  have hEnd : FineGrid k (startFor l - 23) := by
    apply (fineGrid_of_startFor hPlace).mono
    simp only [startFor]
    omega
  rw [hStart]
  rcases Cell.search_spec
      (fun _ => Cell.exists_neighbour?_of_fineGrid hParts hNonzero)
      23 hEnd with
    ⟨n, last, hSearch, hSome, hFirst, hAfter, hBefore⟩
  rcases Cell.neighbour?_eq_some hSome with ⟨hMember, hDigits, hBound⟩
  simp only [startFor] at hAfter hBefore
  refine ⟨n, last, hSearch, hMember, hDigits, ?_, by omega,
    by omega⟩
  -- The first grid is as coarse as the number itself. A later
  -- one is just too coarse for the place before it.
  rcases hFirst with rfl | hCoarse
  · have hQuotient :
        x.cell.value * 10 ^ (-startFor l).toNat /
            (x.cell.den * 10 ^ (startFor l).toNat) ≤ 1 := by
      apply div_pow_le hDen
      rw [Nat.cast_one, one_mul]
      exact le_trans hLess.le
        (lt_pow_startFor (by omega) (by omega))
    omega
  · have hQuotient :
        x.cell.value * 10 ^ (-last).toNat /
            (x.cell.den * 10 ^ last.toNat) ≤
          20 * x.significand := by
      apply div_pow_le hDen
      rw [fineGrid_iff, not_lt, zpow_add_one₀ (by norm_num)]
        at hCoarse
      rw [hValue]
      push_cast
      calc (x.significand : ℚ) * 2 ^ ((k : Int) - 1074)
          ≤ x.significand * (2 * (10 ^ last * 10)) :=
            mul_le_mul_of_nonneg_left hCoarse (by positivity)
        _ = 20 * x.significand * 10 ^ last := by ring
    have hSignificand := hParts.significand_lt
    omega

end Binary64

end EmojiQuery

------------------------------------------------------------
-- The Shortest Decimal Number
------------------------------------------------------------

namespace EmojiQuery

namespace Binary64

variable {x : Binary64}

/- Zeros at the end of the digits move into the exponent. -/
theorem exists_trim_eq
    (fuel : Nat)
    (d : Decimal) :
    ∃ j : Nat, d.digits = (trim fuel d).digits * 10 ^ j ∧
      (trim fuel d).exponent = d.exponent + j := by
  induction fuel generalizing d with
  | zero =>
      exact ⟨0, (Nat.mul_one _).symm, (Int.add_zero _).symm⟩
  | succ fuel ih =>
      rw [trim]
      split
      · next hZero =>
          rcases ih ⟨d.digits / 10, d.exponent + 1⟩ with
            ⟨j, hDigits, hExponent⟩
          refine ⟨j + 1, ?_, ?_⟩
          · rw [Nat.pow_succ, ← Nat.mul_assoc, ← hDigits]
            exact (Nat.div_mul_cancel
              (Nat.dvd_of_mod_eq_zero hZero.1)).symm
          · rw [hExponent]
            push_cast
            omega
      · exact ⟨0, (Nat.mul_one _).symm, (Int.add_zero _).symm⟩

/- Zeros at the end of the digits do not change what they round to. -/
theorem roundMagnitude_shift
    (n j : Nat)
    (exp : Int) :
    roundMagnitude (n * 10 ^ j * 10 ^ exp.toNat)
        (10 ^ (-exp).toNat) =
      roundMagnitude (n * 10 ^ (exp + j).toNat)
        (10 ^ (-(exp + j)).toNat) := by
  apply roundMagnitude_congr
  · positivity
  · positivity
  · have hPower :
        j + exp.toNat + (-(exp + j)).toNat =
          (exp + j).toNat + (-exp).toNat := by
      omega
    rw [Nat.mul_assoc, Nat.mul_assoc, Nat.mul_assoc, ← Nat.pow_add,
      ← Nat.pow_add, ← Nat.pow_add, ← Nat.add_assoc, hPower]

/-
  A decimal number of few digits, whose power of ten is not
  extreme, and which is rounded to a double precision number.
-/
structure IsDecimalOf
    (d : Decimal)
    (x : Binary64) : Prop where
  digits_ne_zero : d.digits ≠ 0
  digits_lt : d.digits < 10 ^ 18
  exponent_lower : -360 ≤ d.exponent
  exponent_upper : d.exponent ≤ 360
  rounds :
    roundMagnitude (d.digits * 10 ^ d.exponent.toNat)
        (10 ^ (-d.exponent).toNat) =
      x.magnitude

/- The shortest decimal number of a finite number is rounded to it. -/
theorem isDecimalOf_shortest
    (hFinite : x.isFinite = true)
    (hNonzero : x.magnitude ≠ 0) :
    IsDecimalOf x.shortest x := by
  rcases exists_hasParts hFinite with ⟨k, hParts⟩
  have hSignificand : x.significand ≠ 0 := by
    intro hZero
    have hMagnitude := hParts.magnitude_eq
    rcases hParts.le_significand with rfl | hLarge
    · rw [hZero] at hMagnitude
      omega
    · omega
  rcases exists_search_eq hParts hSignificand with
    ⟨n, exp, hSearch, hMember, hDigits, hBound, hLower, hUpper⟩
  rcases exists_trim_eq 400 ⟨n, exp⟩ with ⟨j, hTrim, hExponent⟩
  have hShortest : x.shortest = trim 400 ⟨n, exp⟩ := by
    unfold shortest
    simp only [hSearch]
  rw [← hShortest] at hTrim hExponent
  have hNonzeroDigits : x.shortest.digits ≠ 0 := by
    intro hZero
    rw [hZero, Nat.zero_mul] at hTrim
    exact hDigits hTrim
  have hZeros : j < 18 := by
    apply (Nat.pow_lt_pow_iff_right (a := 10) (by decide)).mp
    calc 10 ^ j ≤ x.shortest.digits * 10 ^ j :=
          Nat.le_mul_of_pos_left _ (Nat.pos_of_ne_zero hNonzeroDigits)
      _ = n := hTrim.symm
      _ < 10 ^ 18 := hBound
  have hPower : 0 < 10 ^ j := by
    positivity
  have hNum : 0 < n * 10 ^ exp.toNat :=
    Nat.mul_pos (Nat.pos_of_ne_zero hDigits) (by positivity)
  simp only at hExponent
  refine ⟨hNonzeroDigits, ?_, by omega, by omega, ?_⟩
  · calc x.shortest.digits
        ≤ x.shortest.digits * 10 ^ j :=
          Nat.le_mul_of_pos_right _ hPower
      _ = n := hTrim.symm
      _ < 10 ^ 18 := hBound
  · have hNear := Cell.near_of_mem hParts hSignificand hMember
    rw [hExponent, ← roundMagnitude_shift, ← hTrim]
    exact roundMagnitude_of_near hParts hNum (by positivity) hNear

end Binary64

end EmojiQuery
