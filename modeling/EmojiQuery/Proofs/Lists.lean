import Mathlib.Data.List.Forall2
import Mathlib.Data.List.TakeWhile

/-
  Facts about lists that the other theories share: ascending
  lists, repetitions that are removed, the longest run of
  members at the front, a member added at the end, and lists
  whose members are all read by one function that may fail.

  Main declarations:
    * `eq_of_ascending`
    * `mem_eraseReps_iff`
    * `pairwise_eraseReps`
    * `takeWhile_dropWhile_iff`
    * `takeWhile_dropWhile_append`
    * `getElem?_concat_iff`
    * `map_eq_ok_iff`
    * `mapM_eq_ok_iff`
    * `mapM_eq_error_iff`
    * `exists_mapM_eq_ok_iff`
    * `forall_mem_iff_of_forall₂`
-/

------------------------------------------------------------
-- Ascending Lists
------------------------------------------------------------

namespace EmojiQuery

/- Ascending lists with the same members are equal. -/
theorem eq_of_ascending
    {α : Type}
    {r : α → α → Prop}
    (hAsymm : ∀ a b, r a b → ¬ r b a)
    {xs ys : List α}
    (hLeft : xs.Pairwise r)
    (hRight : ys.Pairwise r)
    (hMembers : ∀ a, a ∈ xs ↔ a ∈ ys) :
    xs = ys := by
  have hDistinct :
      ∀ {zs : List α}, zs.Pairwise r → zs.Nodup := by
    intro zs hAscending
    apply hAscending.imp
    rintro a b hLess rfl
    exact hAsymm a a hLess hLess
  have hOrder :
      ∀ a b, a ∈ xs → b ∈ ys → r a b → r b a → a = b := by
    intro a b _ _ hLess hGreater
    exact absurd hGreater (hAsymm a b hLess)
  have hPerm : xs.Perm ys :=
    (List.perm_ext_iff_of_nodup (hDistinct hLeft)
      (hDistinct hRight)).mpr hMembers
  exact hPerm.eq_of_pairwise hOrder hLeft hRight

/- In an ascending list some member is above all but the last. -/
theorem exists_above_of_mem_dropLast
    {α : Type}
    {r : α → α → Prop}
    {xs : List α}
    (hAscending : xs.Pairwise r)
    {a : α}
    (hMember : a ∈ xs.dropLast) :
    ∃ b ∈ xs, r a b := by
  have hNonempty : xs ≠ [] := by
    rintro rfl
    cases hMember
  rw [← List.dropLast_append_getLast hNonempty,
    List.pairwise_append] at hAscending
  exact ⟨xs.getLast hNonempty, List.getLast_mem hNonempty,
    hAscending.2.2 a hMember _ List.mem_cons_self⟩

/- A member of an ascending list that another is above is not the last. -/
theorem mem_dropLast_of_below
    {α : Type}
    {r : α → α → Prop}
    (hAsymm : ∀ a b, r a b → ¬ r b a)
    {xs : List α}
    (hAscending : xs.Pairwise r)
    {a b : α}
    (hMember : a ∈ xs)
    (hAbove : b ∈ xs)
    (hLess : r a b) :
    a ∈ xs.dropLast := by
  have hNonempty : xs ≠ [] := List.ne_nil_of_mem hMember
  have hSplit := List.dropLast_append_getLast hNonempty
  rw [← hSplit, List.pairwise_append] at hAscending
  rw [← hSplit, List.mem_append, List.mem_singleton] at hMember
  rw [← hSplit, List.mem_append, List.mem_singleton] at hAbove
  rcases hMember with hInside | rfl
  · exact hInside
  · rcases hAbove with hBelow | rfl
    · exact absurd hLess
        (hAsymm _ _ (hAscending.2.2 b hBelow _ (by simp)))
    · exact absurd hLess (hAsymm _ _ hLess)

end EmojiQuery

------------------------------------------------------------
-- Repetitions
------------------------------------------------------------

namespace EmojiQuery

/- What was kept so far stands in front of what is kept later. -/
theorem eraseRepsBy_loop_eq_append
    {α : Type}
    (same : α → α → Bool)
    (a : α)
    (xs kept : List α) :
    List.eraseRepsBy.loop same a xs kept =
      kept.reverse ++ List.eraseRepsBy.loop same a xs [] := by
  induction xs generalizing a kept with
  | nil =>
      simp [List.eraseRepsBy.loop]
  | cons b xs ih =>
      simp only [List.eraseRepsBy.loop]
      cases same a b with
      | true =>
          exact ih a kept
      | false =>
          rw [ih b (a :: kept), ih b [a]]
          simp

variable {α : Type}
variable [BEq α] [LawfulBEq α]

/- A member is kept unless the same one comes after it. -/
theorem eraseReps_cons_cons
    (a b : α)
    (xs : List α) :
    (a :: b :: xs).eraseReps =
      if a == b then (b :: xs).eraseReps
      else a :: (b :: xs).eraseReps := by
  simp only [List.eraseReps, List.eraseRepsBy,
    List.eraseRepsBy.loop]
  cases hSame : a == b with
  | true =>
      rw [eq_of_beq hSame]
      rfl
  | false =>
      exact eraseRepsBy_loop_eq_append (· == ·) b xs [a]

@[simp] theorem mem_eraseReps_iff
    {xs : List α}
    {x : α} :
    x ∈ xs.eraseReps ↔ x ∈ xs := by
  induction xs with
  | nil =>
      rfl
  | cons a xs ih =>
      cases xs with
      | nil =>
          rfl
      | cons b xs =>
          rw [eraseReps_cons_cons, List.mem_cons, ← ih]
          split
          · next hSame =>
              rw [eq_of_beq hSame, ih]
              simp
          · exact List.mem_cons

/- An ascending list ascends strictly without its repetitions. -/
theorem pairwise_eraseReps
    {r : α → α → Prop}
    (hAntisymm : ∀ a b, r a b → r b a → a = b)
    {xs : List α}
    (hAscending : xs.Pairwise r) :
    xs.eraseReps.Pairwise fun a b => r a b ∧ a ≠ b := by
  induction xs with
  | nil =>
      exact .nil
  | cons a xs ih =>
      rw [List.pairwise_cons] at hAscending
      cases xs with
      | nil =>
          exact List.pairwise_singleton _ a
      | cons b xs =>
          rw [eraseReps_cons_cons]
          split
          · exact ih hAscending.2
          · next hDiffer =>
              apply List.Pairwise.cons _ (ih hAscending.2)
              intro x hMember
              rw [mem_eraseReps_iff] at hMember
              refine ⟨hAscending.1 x hMember, ?_⟩
              -- a later repetition would have the next member between
              rintro rfl
              apply hDiffer
              rw [beq_iff_eq]
              rcases List.mem_cons.mp hMember with rfl | hLater
              · rfl
              · apply hAntisymm a b
                · exact hAscending.1 b List.mem_cons_self
                · exact (List.pairwise_cons.mp hAscending.2).1 a hLater

end EmojiQuery

------------------------------------------------------------
-- Runs at the Front
------------------------------------------------------------

namespace EmojiQuery

/-
  A list is cut behind the longest run at its front: all
  members of the run pass, and the next one does not.
-/
theorem takeWhile_dropWhile_iff
    {α : Type}
    (p : α → Bool)
    (s front rest : List α) :
    (s.takeWhile p = front ∧ s.dropWhile p = rest) ↔
      s = front ++ rest ∧ (∀ a ∈ front, p a = true) ∧
        ∀ a, rest.head? = some a → p a = false := by
  constructor
  · rintro ⟨rfl, rfl⟩
    refine ⟨List.takeWhile_append_dropWhile.symm,
      fun a => List.mem_takeWhile_imp, ?_⟩
    intro a hHead
    have hStop := List.head?_dropWhile_not p s
    rw [hHead] at hStop
    exact hStop
  · rintro ⟨rfl, hFront, hRest⟩
    have hStop : rest.takeWhile p = [] ∧
        rest.dropWhile p = rest := by
      cases rest with
      | nil =>
          exact ⟨rfl, rfl⟩
      | cons a as =>
          have hHead : p a = false := hRest a rfl
          simp [hHead]
    rw [List.takeWhile_append_of_pos hFront,
      List.dropWhile_append_of_pos hFront, hStop.1, hStop.2]
    simp

/-
  A list is cut where it was before more was added at its end,
  unless the run had reached the end and now goes on.
-/
theorem takeWhile_dropWhile_append
    {α : Type}
    (p : α → Bool)
    {s t : List α}
    (hStop :
      s.dropWhile p = [] →
        ∀ a, t.head? = some a → p a = false) :
    (s ++ t).takeWhile p = s.takeWhile p ∧
      (s ++ t).dropWhile p = s.dropWhile p ++ t := by
  rcases (takeWhile_dropWhile_iff p s _ _).mp ⟨rfl, rfl⟩ with
    ⟨hText, hFront, hNext⟩
  rw [takeWhile_dropWhile_iff]
  refine ⟨?_, hFront, ?_⟩
  · rw [← List.append_assoc, ← hText]
  · intro a hHead
    cases hRest : s.dropWhile p with
    | nil =>
        rw [hRest] at hHead
        exact hStop hRest a hHead
    | cons b rest =>
        rw [hRest] at hHead hNext
        exact hNext a hHead

end EmojiQuery

------------------------------------------------------------
-- The Last Member
------------------------------------------------------------

namespace EmojiQuery

/- Behind a list stands only the member added to it. -/
theorem getElem?_concat_iff
    {α : Type}
    (xs : List α)
    (a b : α)
    (i : Nat) :
    (xs ++ [a])[i]? = some b ↔
      xs[i]? = some b ∨ (i = xs.length ∧ a = b) := by
  rcases Nat.lt_trichotomy i xs.length with hLt | rfl | hGt
  · rw [List.getElem?_append_left hLt]
    simp [Nat.ne_of_lt hLt]
  · simp
  · have hOutside : (xs ++ [a])[i]? = none := by
      rw [List.getElem?_eq_none_iff, List.length_append,
        List.length_singleton]
      omega
    have hAfter : xs[i]? = none := by
      rw [List.getElem?_eq_none_iff]
      omega
    simp [hOutside, hAfter, Nat.ne_of_gt hGt]

end EmojiQuery

------------------------------------------------------------
-- Reading All Members
------------------------------------------------------------

namespace EmojiQuery

variable {α β ε : Type}

/- A converted result comes from a result. -/
theorem map_eq_ok_iff
    (f : α → β)
    (x : Except ε α)
    (b : β) :
    x.map f = .ok b ↔ ∃ a, x = .ok a ∧ f a = b := by
  cases x with
  | error e =>
      simp [Except.map]
  | ok a =>
      simp [Except.map]

/- A conversion fails only with the error of what it converts. -/
theorem map_eq_error_iff
    (f : α → β)
    (x : Except ε α)
    (e : ε) :
    x.map f = .error e ↔ x = .error e := by
  cases x with
  | error e =>
      simp [Except.map]
  | ok a =>
      simp [Except.map]

/- Two steps succeed one after the other. -/
theorem bind_eq_ok_iff
    (x : Except ε α)
    (f : α → Except ε β)
    (b : β) :
    (x >>= f) = .ok b ↔ ∃ a, x = .ok a ∧ f a = .ok b := by
  cases x with
  | error e =>
      simp [bind, Except.bind]
  | ok a =>
      simp [bind, Except.bind]

/- Two steps fail with the error of the first that fails. -/
theorem bind_eq_error_iff
    (x : Except ε α)
    (f : α → Except ε β)
    (e : ε) :
    (x >>= f) = .error e ↔
      x = .error e ∨ ∃ a, x = .ok a ∧ f a = .error e := by
  cases x with
  | error e =>
      simp [bind, Except.bind]
  | ok a =>
      simp [bind, Except.bind]

/- What was read is all that there is to be read. -/
theorem exists_ok_and_iff
    {x : Except ε α}
    {a : α}
    (hRead : x = .ok a)
    (P : α → Prop) :
    (∃ b, x = .ok b ∧ P b) ↔ P a := by
  simp [hRead]

/- All members were read, each to its own result. -/
theorem mapM_eq_ok_iff
    (f : α → Except ε β)
    (xs : List α)
    (ys : List β) :
    xs.mapM f = .ok ys ↔
      List.Forall₂ (fun x y => f x = .ok y) xs ys := by
  induction xs generalizing ys with
  | nil =>
      rw [List.mapM_nil, List.forall₂_nil_left_iff]
      constructor
      · intro hNil
        exact (Except.ok.inj hNil).symm
      · rintro rfl
        rfl
  | cons x xs ih =>
      rw [List.mapM_cons, List.forall₂_cons_left_iff]
      cases hHead : f x with
      | error e =>
          simp [bind, Except.bind]
      | ok y =>
          simp only [← ih]
          cases hTail : xs.mapM f with
          | error e =>
              simp [bind, Except.bind]
          | ok us =>
              simp [bind, Except.bind, pure, Except.pure,
                eq_comm]

/-
  A list is refused with the error of the first member that is
  refused; all members before it can be read.
-/
theorem mapM_eq_error_iff
    (f : α → Except ε β)
    (xs : List α)
    (e : ε) :
    xs.mapM f = .error e ↔
      ∃ before x after, xs = before ++ x :: after ∧
        (∀ a ∈ before, ∃ b, f a = .ok b) ∧ f x = .error e := by
  induction xs with
  | nil =>
      simp [pure, Except.pure]
  | cons x xs ih =>
      rw [List.mapM_cons, bind_eq_error_iff]
      constructor
      · rintro (hHead | ⟨y, hHead, hRest⟩)
        · exact ⟨[], x, xs, rfl, by simp, hHead⟩
        · rcases (bind_eq_error_iff _ _ _).mp hRest with
            hTail | ⟨ys, _, hNever⟩
          · rcases ih.mp hTail with
              ⟨before, z, after, rfl, hBefore, hError⟩
            refine ⟨x :: before, z, after, rfl, ?_, hError⟩
            rw [List.forall_mem_cons]
            exact ⟨⟨y, hHead⟩, hBefore⟩
          · cases hNever
      · rintro ⟨before, z, after, hList, hBefore, hError⟩
        cases before with
        | nil =>
            rw [List.nil_append, List.cons.injEq] at hList
            rw [hList.1]
            exact .inl hError
        | cons b before =>
            rw [List.cons_append, List.cons.injEq] at hList
            rcases hList with ⟨rfl, hRest⟩
            rw [List.forall_mem_cons] at hBefore
            rcases hBefore with ⟨⟨y, hHead⟩, hBefore⟩
            have hTail : xs.mapM f = .error e :=
              ih.mpr ⟨before, z, after, hRest, hBefore, hError⟩
            refine .inr ⟨y, hHead, ?_⟩
            rw [bind_eq_error_iff]
            exact .inl hTail

/- All members can be read together if each can be read. -/
theorem exists_mapM_eq_ok_iff
    (f : α → Except ε β)
    (xs : List α) :
    (∃ ys, xs.mapM f = .ok ys) ↔
      ∀ x ∈ xs, ∃ y, f x = .ok y := by
  simp only [mapM_eq_ok_iff]
  induction xs with
  | nil =>
      simp
  | cons x xs ih =>
      simp only [List.forall₂_cons_left_iff,
        List.forall_mem_cons, ← ih]
      constructor
      · rintro ⟨_, y, ys, hHead, hTail, _⟩
        exact ⟨⟨y, hHead⟩, ⟨ys, hTail⟩⟩
      · rintro ⟨⟨y, hHead⟩, ⟨ys, hTail⟩⟩
        exact ⟨y :: ys, y, ys, hHead, hTail, rfl⟩

/- Members that agree in pairs agree all together. -/
theorem forall_mem_iff_of_forall₂
    {R : α → β → Prop}
    {P : α → Prop}
    {Q : β → Prop}
    {xs : List α}
    {ys : List β}
    (hPairs : List.Forall₂ R xs ys)
    (hAgree : ∀ x y, R x y → (P x ↔ Q y)) :
    (∀ x ∈ xs, P x) ↔ ∀ y ∈ ys, Q y := by
  induction hPairs with
  | nil =>
      simp
  | cons hHead _ ih =>
      rw [List.forall_mem_cons, List.forall_mem_cons, ih,
        hAgree _ _ hHead]

end EmojiQuery
