import EmojiQuery.Number.Binary64

/-
  The order of double precision numbers, and the greatest
  number of a list.

  Main declarations:
    * `Binary64.IsGreatest`
    * `Binary64.mem_foldl_max`
    * `Binary64.le_foldl_max`
    * `Binary64.IsMaximum`
    * `Binary64.IsMaximum.between_iff`
    * `Binary64.IsMaximum.between_iff_bounded`
-/

namespace EmojiQuery

namespace Binary64

------------------------------------------------------------
-- Order
------------------------------------------------------------

/- Every number is at most itself. -/
theorem le_refl_of_number
    {x : Binary64}
    (hNumber : x.isNaN = false) :
    x ≤ x :=
  ⟨hNumber, hNumber, Int.le_refl _⟩

protected theorem le_trans
    {x y z : Binary64}
    (hLeft : x ≤ y)
    (hRight : y ≤ z) :
    x ≤ z :=
  ⟨hLeft.1, hRight.2.1, Int.le_trans hLeft.2.2 hRight.2.2⟩

/- Of two numbers, one is below the other or at most it. -/
protected theorem le_of_not_lt
    {x y : Binary64}
    (hLeft : x.isNaN = false)
    (hRight : y.isNaN = false)
    (hNot : ¬ x < y) :
    y ≤ x := by
  refine ⟨hRight, hLeft, ?_⟩
  apply Int.not_lt.mp
  intro hKey
  exact hNot ⟨hLeft, hRight, hKey⟩

/- A number that is at most another is not above it. -/
protected theorem not_lt_of_le
    {x y : Binary64}
    (hLe : x ≤ y) :
    ¬ y < x := by
  intro hLess
  exact Int.not_le.mpr hLess.2.2 hLe.2.2

protected theorem le_of_lt
    {x y : Binary64}
    (hLess : x < y) :
    x ≤ y :=
  ⟨hLess.1, hLess.2.1, Int.le_of_lt hLess.2.2⟩

------------------------------------------------------------
-- The greater of two numbers
------------------------------------------------------------

/- The greater of two is one of them. -/
theorem max_eq_or
    (x y : Binary64) :
    x.max y = x ∨ x.max y = y := by
  unfold Binary64.max
  split
  · exact Or.inr rfl
  · split
    · exact Or.inl rfl
    · split
      · exact Or.inr rfl
      · exact Or.inl rfl

/- A number on the left is at most the greater of two. -/
protected theorem le_max_left
    {x : Binary64}
    (y : Binary64)
    (hNumber : x.isNaN = false) :
    x ≤ x.max y := by
  unfold Binary64.max
  rw [if_neg (by simp [hNumber])]
  split
  · exact le_refl_of_number hNumber
  · split
    · next hLess =>
        exact Binary64.le_of_lt hLess
    · exact le_refl_of_number hNumber

/- A number on the right is at most the greater of two. -/
protected theorem le_max_right
    (x : Binary64)
    {y : Binary64}
    (hNumber : y.isNaN = false) :
    y ≤ x.max y := by
  unfold Binary64.max
  split
  · exact le_refl_of_number hNumber
  · next hLeft =>
      rw [if_neg (by simp [hNumber])]
      split
      · exact le_refl_of_number hNumber
      · next hNot =>
          exact Binary64.le_of_not_lt (by simpa using hLeft) hNumber hNot

------------------------------------------------------------
-- The greatest of many numbers
------------------------------------------------------------

/- `x` is the greatest number with a property. NaNs do not count. -/
def IsGreatest
    (P : Binary64 → Prop)
    (x : Binary64) : Prop :=
  P x ∧ x.isNaN = false ∧
    ∀ y, P y → y.isNaN = false → y ≤ x

/- The running greatest is one of the numbers. -/
theorem mem_foldl_max
    (x : Binary64)
    (xs : List Binary64) :
    xs.foldl Binary64.max x ∈ x :: xs := by
  induction xs generalizing x with
  | nil =>
      simp
  | cons y ys ih =>
      rw [List.foldl_cons]
      rcases List.mem_cons.mp (ih (x.max y)) with hHead | hTail
      · rw [hHead]
        rcases max_eq_or x y with hLeft | hRight
        · simp [hLeft]
        · simp [hRight]
      · simp [hTail]

/- No number is above the running greatest. -/
theorem le_foldl_max
    {x y : Binary64}
    {xs : List Binary64}
    (hMember : y ∈ x :: xs)
    (hNumber : y.isNaN = false) :
    y ≤ xs.foldl Binary64.max x := by
  induction xs generalizing x y with
  | nil =>
      rw [List.mem_singleton.mp hMember] at hNumber ⊢
      exact le_refl_of_number hNumber
  | cons z zs ih =>
      -- The first two are replaced by the greater of them,
      -- which is a number if either is.
      have hStep :
          ∀ {w : Binary64}, w ≤ x.max z →
            w ≤ zs.foldl Binary64.max (x.max z) := by
        intro w hLe
        exact Binary64.le_trans hLe (ih List.mem_cons_self hLe.2.1)
      rw [List.foldl_cons]
      rcases List.mem_cons.mp hMember with rfl | hRest
      · exact hStep (Binary64.le_max_left z hNumber)
      · rcases List.mem_cons.mp hRest with rfl | hTail
        · exact hStep (Binary64.le_max_right x hNumber)
        · exact ih (List.mem_cons_of_mem _ hTail) hNumber

/-
  The numbers with a property are compared with each other:
  nothing is left if there are none, and otherwise one that no
  number is above. A NaN is left only among NaNs.
-/
inductive IsMaximum
    (P : Binary64 → Prop) :
    Option Binary64 → Prop where
| absent
    (hNone : ∀ x, ¬ P x) :
    IsMaximum P none
| attained
    {x : Binary64}
    (hHas : P x)
    (hAbove : ∀ y, P y → y.isNaN = false → y ≤ x) :
    IsMaximum P (some x)

/- The running greatest is what is left of a list. -/
theorem isMaximum_foldl_max
    (x : Binary64)
    (xs : List Binary64) :
    IsMaximum (· ∈ x :: xs) (some (xs.foldl Binary64.max x)) :=
  .attained (mem_foldl_max x xs) fun _ => le_foldl_max

/- Only numbers decide which number is the greatest. -/
theorem isGreatest_congr
    {P Q : Binary64 → Prop}
    (hSame : ∀ x, x.isNaN = false → (P x ↔ Q x))
    (x : Binary64) :
    IsGreatest P x ↔ IsGreatest Q x := by
  unfold IsGreatest
  constructor
  · rintro ⟨hHas, hNumber, hAbove⟩
    refine ⟨(hSame x hNumber).mp hHas, hNumber, ?_⟩
    intro y hOther hOtherNumber
    exact hAbove y ((hSame y hOtherNumber).mpr hOther) hOtherNumber
  · rintro ⟨hHas, hNumber, hAbove⟩
    refine ⟨(hSame x hNumber).mpr hHas, hNumber, ?_⟩
    intro y hOther hOtherNumber
    exact hAbove y ((hSame y hOtherNumber).mp hOther) hOtherNumber

namespace IsMaximum

variable {P : Binary64 → Prop}
variable {m : Option Binary64}
variable {lower upper : Binary64}

theorem eq_none_iff
    (hMax : IsMaximum P m) :
    m = none ↔ ∀ x, ¬ P x := by
  cases hMax with
  | absent hNone =>
      simp [hNone]
  | attained hHas _ =>
      simp only [reduceCtorEq, false_iff]
      intro hNone
      exact hNone _ hHas

/- What is left has the property, and no number is above it. -/
theorem of_eq_some
    {x : Binary64}
    (hMax : IsMaximum P m)
    (hSome : m = some x) :
    P x ∧ ∀ y, P y → y.isNaN = false → y ≤ x := by
  subst hSome
  cases hMax with
  | attained hHas hAbove => exact ⟨hHas, hAbove⟩

/- A NaN is left just when there is nothing else. -/
theorem isNaN_iff
    (hMax : IsMaximum P m) :
    (∃ x, m = some x ∧ x.isNaN = true) ↔
      (∃ x, P x) ∧ ∀ x, P x → x.isNaN = true := by
  cases hMax with
  | absent hNone =>
      simp [hNone]
  | @attained x hHas hAbove =>
      constructor
      · rintro ⟨_, hSome, hNaN⟩
        obtain rfl := Option.some.inj hSome
        refine ⟨⟨x, hHas⟩, ?_⟩
        intro y hOther
        cases hNumber : y.isNaN with
        | true => rfl
        | false =>
            have hLe := hAbove y hOther hNumber
            exact hLe.2.1.symm.trans hNaN
      · rintro ⟨_, hAll⟩
        exact ⟨x, rfl, hAll x hHas⟩

/- It lies in a range just when the greatest number does. -/
theorem between_iff
    (hMax : IsMaximum P m) :
    (∃ x, m = some x ∧ lower ≤ x ∧ x ≤ upper) ↔
      ∃ x, IsGreatest P x ∧ lower ≤ x ∧ x ≤ upper := by
  cases hMax with
  | absent hNone =>
      simp [IsGreatest, hNone]
  | @attained x hHas hAbove =>
      constructor
      · rintro ⟨_, hSome, hLower, hUpper⟩
        obtain rfl := Option.some.inj hSome
        exact ⟨x, ⟨hHas, hLower.2.1, hAbove⟩, hLower, hUpper⟩
      · rintro ⟨y, ⟨hOther, hNumber, hGreatest⟩, hLower, hUpper⟩
        have hLe := hAbove y hOther hNumber
        have hGe := hGreatest x hHas hLe.2.1
        exact ⟨x, rfl, Binary64.le_trans hLower hLe,
          Binary64.le_trans hGe hUpper⟩

/-
  It lies between bounds in order just when no number is above
  the upper one, and some number is not below the lower one.
-/
theorem between_iff_bounded
    (hMax : IsMaximum P m)
    (hOrder : lower ≤ upper) :
    (∃ x, m = some x ∧ lower ≤ x ∧ x ≤ upper) ↔
      (∃ x, P x ∧ x.isNaN = false) ∧
        (∀ x, P x → ¬ upper < x) ∧ ∃ x, P x ∧ lower ≤ x := by
  constructor
  · rintro ⟨x, hSome, hLower, hUpper⟩
    rcases hMax.of_eq_some hSome with ⟨hHas, hAbove⟩
    refine ⟨⟨x, hHas, hLower.2.1⟩, ?_, ⟨x, hHas, hLower⟩⟩
    intro y hOther hBeyond
    have hLe := Binary64.le_trans (hAbove y hOther hBeyond.2.1) hUpper
    exact Binary64.not_lt_of_le hLe hBeyond
  · rintro ⟨_, hNone, y, hOther, hLower⟩
    cases hMax with
    | absent hAbsent =>
        exact absurd hOther (hAbsent y)
    | @attained x hHas hAbove =>
        have hLe := hAbove y hOther hLower.2.1
        exact ⟨x, rfl, Binary64.le_trans hLower hLe,
          Binary64.le_of_not_lt hOrder.2.1 hLe.2.1 (hNone x hHas)⟩

end IsMaximum

end Binary64

end EmojiQuery
