import EmojiQuery.Pattern.Basic

/-
  Steps of a relation taken one after another. If no step goes
  back, and all stay in a text, then no number of steps above
  that of the positions makes a difference.

  Main declarations:
    * `Pattern.Rounds`
    * `Pattern.Advances`
    * `Pattern.Advances.exists_idle`
    * `Pattern.Advances.exists_rounds_iff`
-/

------------------------------------------------------------
-- Rounds
------------------------------------------------------------

namespace EmojiQuery

namespace Pattern

/- So many steps from one position to another. -/
def Rounds
    (R : Nat → Nat → Prop) :
    Nat → Nat → Nat → Prop
| 0, i, j => i = j
| n + 1, i, j => ∃ k, R i k ∧ Rounds R n k j

variable {R : Nat → Nat → Prop}
variable {top m n i j : Nat}

theorem rounds_add :
    Rounds R (m + n) i j ↔
      ∃ k, Rounds R m i k ∧ Rounds R n k j := by
  induction m generalizing i with
  | zero =>
      rw [Nat.zero_add]
      constructor
      · intro hRounds
        exact ⟨i, rfl, hRounds⟩
      · rintro ⟨k, rfl, hRounds⟩
        exact hRounds
  | succ m ih =>
      rw [Nat.add_right_comm]
      simp only [Rounds, ih]
      constructor
      · rintro ⟨l, hStep, k, hLeft, hRight⟩
        exact ⟨k, ⟨l, hStep, hLeft⟩, hRight⟩
      · rintro ⟨k, ⟨l, hStep, hLeft⟩, hRight⟩
        exact ⟨l, hStep, k, hLeft, hRight⟩

/- Steps that never go back, and stay in a text. -/
structure Advances
    (R : Nat → Nat → Prop)
    (top : Nat) : Prop where
  le : ∀ i j, R i j → i ≤ j
  bounded : ∀ i j, i ≤ top → R i j → j ≤ top

/- Nor do several of them. -/
theorem Advances.rounds
    (hAdvances : Advances R top)
    (n : Nat) :
    Advances (Rounds R n) top := by
  induction n with
  | zero =>
      constructor
      · rintro i _ rfl
        exact Nat.le_refl _
      · rintro i _ hTop rfl
        exact hTop
  | succ n ih =>
      constructor
      · rintro i j ⟨k, hStep, hRest⟩
        exact Nat.le_trans (hAdvances.le i k hStep)
          (ih.le k j hRest)
      · rintro i j hTop ⟨k, hStep, hRest⟩
        exact ih.bounded k j (hAdvances.bounded i k hTop hStep)
          hRest

/-
  One of more steps than there are positions in between stays
  where it is.
-/
theorem Advances.exists_idle
    (hAdvances : Advances R top)
    (hMany : j < i + n)
    (hRounds : Rounds R n i j) :
    ∃ a b k,
      n = a + (1 + b) ∧ Rounds R a i k ∧ R k k ∧
        Rounds R b k j := by
  induction n generalizing i with
  | zero =>
      rw [Rounds] at hRounds
      omega
  | succ n ih =>
      rcases hRounds with ⟨k, hStep, hRest⟩
      have hLe := hAdvances.le i k hStep
      by_cases hIdle : i = k
      · subst hIdle
        exact ⟨0, n, i, by omega, rfl, hStep, hRest⟩
      · rcases ih (by omega) hRest with
          ⟨a, b, l, rfl, hBefore, hSame, hAfter⟩
        exact ⟨a + 1, b, l, by omega, ⟨k, hStep, hBefore⟩,
          hSame, hAfter⟩

/- That step can be left out. -/
theorem Advances.rounds_pred
    (hAdvances : Advances R top)
    (hMany : j < i + (n + 1))
    (hRounds : Rounds R (n + 1) i j) :
    Rounds R n i j := by
  rcases hAdvances.exists_idle hMany hRounds with
    ⟨a, b, k, hSum, hBefore, _, hAfter⟩
  have hLess : n = a + b := by
    omega
  rw [hLess, rounds_add]
  exact ⟨k, hBefore, hAfter⟩

/- Or it can be taken once more. -/
theorem Advances.rounds_succ
    (hAdvances : Advances R top)
    (hMany : j < i + n)
    (hRounds : Rounds R n i j) :
    Rounds R (n + 1) i j := by
  rcases hAdvances.exists_idle hMany hRounds with
    ⟨a, b, k, hSum, hBefore, hIdle, hAfter⟩
  have hMore : n + 1 = a + (1 + (1 + b)) := by
    omega
  rw [hMore, rounds_add]
  refine ⟨k, hBefore, ?_⟩
  rw [rounds_add]
  refine ⟨k, ⟨k, hIdle, rfl⟩, ?_⟩
  rw [rounds_add]
  exact ⟨k, ⟨k, hIdle, rfl⟩, hAfter⟩

/-
  So beyond the number of positions in between, the number of
  steps makes no difference.
-/
theorem Advances.rounds_iff_of_many
    (hAdvances : Advances R top)
    (hFirst : j < i + m)
    (hSecond : j < i + n) :
    Rounds R m i j ↔ Rounds R n i j := by
  have hMore :
      ∀ l d, j < i + l →
        (Rounds R l i j ↔ Rounds R (l + d) i j) := by
    intro l d hMany
    induction d with
    | zero => exact Iff.rfl
    | succ d ih =>
        rw [ih]
        constructor
        · exact hAdvances.rounds_succ (n := l + d) (by omega)
        · exact hAdvances.rounds_pred (n := l + d) (by omega)
  rcases Nat.le_total m n with hLe | hLe
  · rw [hMore m (n - m) hFirst, Nat.add_sub_cancel' hLe]
  · rw [hMore n (m - n) hSecond, Nat.add_sub_cancel' hLe]

/- How often a pattern is repeated at least and at most. -/
def InCounts
    (least : Nat)
    (most : Option Nat)
    (n : Nat) : Prop :=
  least ≤ n ∧ ∀ m, most = some m → n ≤ max least m

/- How many rounds a matcher adds to the least number. -/
def moreRounds
    (rounds least : Nat)
    (most : Option Nat) : Nat :=
  match most with
  | none => rounds
  | some m => min (m - least) rounds

/-
  It makes no difference to repeat no more often, first for the
  least number and then beyond it, than a text has positions.
-/
theorem Advances.exists_rounds_iff
    (hAdvances : Advances R top)
    (hTop : i ≤ top)
    (least : Nat)
    (most : Option Nat) :
    (∃ n, InCounts least most n ∧ Rounds R n i j) ↔
      ∃ k ≤ moreRounds (top + 1) least most,
        Rounds R (min least (top + 1) + k) i j := by
  constructor
  · rintro ⟨n, ⟨hLeast, hMost⟩, hRounds⟩
    have hEnd := (hAdvances.rounds n).bounded i j hTop hRounds
    by_cases hFew :
        n ≤ min least (top + 1) +
          moreRounds (top + 1) least most
    · refine ⟨n - min least (top + 1), by omega, ?_⟩
      rw [Nat.add_sub_cancel' (by omega)]
      exact hRounds
    · refine ⟨_, Nat.le_refl _, ?_⟩
      -- Both numbers are above that of the positions.
      rw [hAdvances.rounds_iff_of_many _ (n := n)]
      · exact hRounds
      · cases most with
        | none =>
            rw [moreRounds] at hFew
            omega
        | some m =>
            have hUpper := hMost m rfl
            rw [moreRounds] at hFew
            omega
      · cases most with
        | none =>
            rw [moreRounds]
            omega
        | some m =>
            have hUpper := hMost m rfl
            rw [moreRounds] at hFew ⊢
            omega
  · rintro ⟨k, hMore, hRounds⟩
    have hEnd := (hAdvances.rounds _).bounded i j hTop hRounds
    refine ⟨max least (min least (top + 1) + k), ?_, ?_⟩
    · refine ⟨Nat.le_max_left _ _, ?_⟩
      rintro m rfl
      rw [moreRounds] at hMore
      omega
    · by_cases hFew : least ≤ min least (top + 1) + k
      · rw [Nat.max_eq_right hFew]
        exact hRounds
      · rw [hAdvances.rounds_iff_of_many _
          (n := min least (top + 1) + k)]
        · exact hRounds
        · omega
        · omega

end Pattern

end EmojiQuery
