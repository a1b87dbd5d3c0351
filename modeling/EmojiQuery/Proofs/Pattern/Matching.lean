import EmojiQuery.Proofs.Pattern.Rounds

/-
  What a pattern matches, said of two positions at a time and
  without a bound on repetitions. The matcher, which carries a
  set of positions through the pattern and stops repeating
  early, finds just what is matched.

  Main declarations:
    * `Pattern.Tracks`
    * `Pattern.Explored.within`
    * `Pattern.Leads`
    * `Pattern.tracks_ends`
    * `Pattern.found_iff`
-/

------------------------------------------------------------
-- Positions
------------------------------------------------------------

namespace EmojiQuery

namespace Positions

variable {xs ys : List Nat}
variable {j : Nat}

theorem mem_unite_iff :
    j ∈ unite xs ys ↔ j ∈ xs ∨ j ∈ ys := by
  fun_induction unite xs ys with
  | case1 ys => simp
  | case2 xs hSome => simp
  | case3 x xs y ys hLess ih => grind
  | case4 x xs y ys hLess hMore ih => grind
  | case5 x xs y ys hLess hMore ih => grind

theorem pairwise_unite
    (hLeft : xs.Pairwise (· < ·))
    (hRight : ys.Pairwise (· < ·)) :
    (unite xs ys).Pairwise (· < ·) := by
  fun_induction unite xs ys with
  | case1 ys => exact hRight
  | case2 xs hSome => exact hLeft
  | case3 x xs y ys hLess ih =>
      rw [List.pairwise_cons] at hLeft ⊢
      refine ⟨?_, ih hLeft.2 hRight⟩
      intro j hMember
      rw [mem_unite_iff, List.mem_cons] at hMember
      rw [List.pairwise_cons] at hRight
      grind
  | case4 x xs y ys hLess hMore ih =>
      rw [List.pairwise_cons] at hRight ⊢
      refine ⟨?_, ih hLeft hRight.2⟩
      intro j hMember
      rw [mem_unite_iff, List.mem_cons] at hMember
      rw [List.pairwise_cons] at hLeft
      grind
  | case5 x xs y ys hLess hMore ih =>
      rw [List.pairwise_cons] at hLeft hRight ⊢
      refine ⟨?_, ih hLeft.2 hRight.2⟩
      intro j hMember
      rw [mem_unite_iff] at hMember
      grind

theorem mem_without_iff
    (hLeft : xs.Pairwise (· < ·))
    (hRight : ys.Pairwise (· < ·)) :
    j ∈ without xs ys ↔ j ∈ xs ∧ j ∉ ys := by
  fun_induction without xs ys with
  | case1 ys => simp
  | case2 xs hSome => simp
  | case3 x xs y ys hLess ih => grind [List.pairwise_cons]
  | case4 x xs y ys hLess hMore ih => grind [List.pairwise_cons]
  | case5 x xs y ys hLess hMore ih => grind [List.pairwise_cons]

theorem without_sublist
    (xs ys : List Nat) :
    (without xs ys).Sublist xs := by
  fun_induction without xs ys with
  | case1 ys => exact List.Sublist.refl _
  | case2 xs hSome => exact List.Sublist.refl _
  | case3 x xs y ys hLess ih => exact ih.cons_cons x
  | case4 x xs y ys hLess hMore ih => exact ih
  | case5 x xs y ys hLess hMore ih => exact ih.cons x

end Positions

end EmojiQuery

------------------------------------------------------------
-- Steps on Sets of Positions
------------------------------------------------------------

namespace EmojiQuery

namespace Pattern

variable {R : Nat → Nat → Prop}
variable {top n i j : Nat}

/-
  A step on sets of positions, which are kept in order, takes
  just the steps of a relation.
-/
structure Tracks
    (R : Nat → Nat → Prop)
    (top : Nat)
    (step : List Nat → List Nat) : Prop where
  pairwise :
    ∀ s, s.Pairwise (· < ·) → (∀ i ∈ s, i ≤ top) →
      (step s).Pairwise (· < ·)
  mem_iff :
    ∀ s, s.Pairwise (· < ·) → (∀ i ∈ s, i ≤ top) →
      ∀ j, j ∈ step s ↔ ∃ i ∈ s, R i j

variable {step : List Nat → List Nat}
variable {s seen front : List Nat}

/- It stays in the text as well. -/
theorem Tracks.bounded
    (hTracks : Tracks R top step)
    (hAdvances : Advances R top)
    (hOrder : s.Pairwise (· < ·))
    (hTop : ∀ i ∈ s, i ≤ top) :
    ∀ j ∈ step s, j ≤ top := by
  intro j hMember
  rcases (hTracks.mem_iff s hOrder hTop j).mp hMember with
    ⟨i, hFrom, hStep⟩
  exact hAdvances.bounded i j (hTop i hFrom) hStep

/- One step after another takes the steps of both. -/
theorem Tracks.andThen
    {S : Nat → Nat → Prop}
    {next : List Nat → List Nat}
    (hFirst : Tracks R top step)
    (hSecond : Tracks S top next)
    (hAdvances : Advances R top) :
    Tracks (fun i j => ∃ k, R i k ∧ S k j) top
      (fun s => next (step s)) := by
  constructor
  · intro s hOrder hTop
    exact hSecond.pairwise _ (hFirst.pairwise s hOrder hTop)
      (hFirst.bounded hAdvances hOrder hTop)
  · intro s hOrder hTop j
    rw [hSecond.mem_iff _ (hFirst.pairwise s hOrder hTop)
      (hFirst.bounded hAdvances hOrder hTop)]
    simp only [hFirst.mem_iff s hOrder hTop]
    constructor
    · rintro ⟨k, ⟨i, hFrom, hLeft⟩, hRight⟩
      exact ⟨i, hFrom, k, hLeft, hRight⟩
    · rintro ⟨i, hFrom, k, hLeft, hRight⟩
      exact ⟨k, ⟨i, hFrom, hLeft⟩, hRight⟩

/- A step that is iterated takes as many steps. -/
theorem Tracks.iterate
    (hTracks : Tracks R top step)
    (hAdvances : Advances R top)
    (n : Nat) :
    Tracks (Rounds R n) top (Positions.iterate step n) := by
  induction n with
  | zero =>
      refine ⟨fun s hOrder _ => hOrder, ?_⟩
      intro s _ _ j
      simp [Positions.iterate, Rounds]
  | succ n ih =>
      have hMore := hTracks.andThen ih hAdvances
      constructor
      · intro s hOrder hTop
        rw [Positions.iterate]
        split
        · exact .nil
        · exact hMore.pairwise s hOrder hTop
      · intro s hOrder hTop j
        rw [Positions.iterate]
        split
        · next hEmpty =>
            rw [List.isEmpty_iff.mp hEmpty]
            simp
        · exact hMore.mem_iff s hOrder hTop j

/-
  What is seen, when every step from it has been taken except
  from the front. The sets are kept in order.
-/
structure Explored
    (R : Nat → Nat → Prop)
    (top : Nat)
    (seen front : List Nat) : Prop where
  seen_order : seen.Pairwise (· < ·)
  front_order : front.Pairwise (· < ·)
  front_seen : ∀ i ∈ front, i ∈ seen
  seen_top : ∀ i ∈ seen, i ≤ top
  closed : ∀ i ∈ seen, i ∉ front → ∀ j, R i j → j ∈ seen

/- At first every position seen is on the front. -/
theorem Explored.start
    (hOrder : s.Pairwise (· < ·))
    (hTop : ∀ i ∈ s, i ≤ top) :
    Explored R top s s where
  seen_order := hOrder
  front_order := hOrder
  front_seen := fun _ hMember => hMember
  seen_top := hTop
  closed := fun _ hSeen hFront => (hFront hSeen).elim

namespace Explored

variable (hExplored : Explored R top seen front)
include hExplored

theorem front_top :
    ∀ i ∈ front, i ≤ top := by
  intro i hFront
  exact hExplored.seen_top i (hExplored.front_seen i hFront)

/- What is fresh is reached from the front and not seen yet. -/
theorem mem_fresh_iff
    (hTracks : Tracks R top step) :
    j ∈ Positions.without (step front) seen ↔
      (∃ i ∈ front, R i j) ∧ j ∉ seen := by
  rw [Positions.mem_without_iff
    (hTracks.pairwise front hExplored.front_order
      hExplored.front_top) hExplored.seen_order,
    hTracks.mem_iff front hExplored.front_order
      hExplored.front_top]

/- Each step from what is seen leads to that or is fresh. -/
theorem mem_next
    (hTracks : Tracks R top step)
    (hSeen : i ∈ seen)
    (hStep : R i j) :
    j ∈ Positions.unite seen
      (Positions.without (step front) seen) := by
  rw [Positions.mem_unite_iff, hExplored.mem_fresh_iff hTracks]
  by_cases hKnown : j ∈ seen
  · exact .inl hKnown
  · by_cases hFront : i ∈ front
    · exact .inr ⟨⟨i, hFront, hStep⟩, hKnown⟩
    · exact .inl (hExplored.closed i hSeen hFront j hStep)

/- What is fresh becomes the next front. -/
theorem advance
    (hTracks : Tracks R top step)
    (hAdvances : Advances R top) :
    Explored R top
      (Positions.unite seen (Positions.without (step front) seen))
      (Positions.without (step front) seen) := by
  have hFresh :=
    (hTracks.pairwise front hExplored.front_order
      hExplored.front_top).sublist
      (Positions.without_sublist (step front) seen)
  refine
    ⟨Positions.pairwise_unite hExplored.seen_order hFresh, hFresh,
      ?_, ?_, ?_⟩
  · intro i hMember
    exact Positions.mem_unite_iff.mpr (.inr hMember)
  · intro i hMember
    rcases Positions.mem_unite_iff.mp hMember with hOld | hNew
    · exact hExplored.seen_top i hOld
    · rcases (hExplored.mem_fresh_iff hTracks).mp hNew with
        ⟨⟨k, hFront, hStep⟩, _⟩
      exact hAdvances.bounded k i
        (hExplored.front_top k hFront) hStep
  · intro i hMember hOld j hStep
    rw [Positions.mem_unite_iff] at hMember
    exact hExplored.mem_next hTracks
      (hMember.resolve_right hOld) hStep

/- Nothing else is reached once nothing is fresh. -/
theorem mem_of_rounds
    (hTracks : Tracks R top step)
    (hDone : Positions.without (step front) seen = [])
    (hSeen : i ∈ seen)
    (hRounds : Rounds R n i j) :
    j ∈ seen := by
  induction n generalizing i with
  | zero =>
      cases hRounds
      exact hSeen
  | succ n ih =>
      rcases hRounds with ⟨k, hStep, hRest⟩
      have hNext := hExplored.mem_next hTracks hSeen hStep
      rw [hDone, Positions.mem_unite_iff] at hNext
      exact ih (hNext.resolve_right List.not_mem_nil) hRest

end Explored

/- What is reached from what is seen in at most so many steps. -/
theorem Explored.within
    (hExplored : Explored R top seen front)
    (hTracks : Tracks R top step)
    (hAdvances : Advances R top)
    (n : Nat) :
    (Positions.within step n seen front).Pairwise (· < ·) ∧
      ∀ j, j ∈ Positions.within step n seen front ↔
        ∃ i ∈ seen, ∃ k ≤ n, Rounds R k i j := by
  induction n generalizing seen front with
  | zero =>
      refine ⟨hExplored.seen_order, ?_⟩
      intro j
      simp [Positions.within, Rounds]
  | succ n ih =>
      rw [Positions.within]
      simp only [List.isEmpty_iff]
      split
      · next hDone =>
          refine ⟨hExplored.seen_order, ?_⟩
          intro j
          constructor
          · intro hSeen
            exact ⟨j, hSeen, 0, Nat.zero_le _, rfl⟩
          · rintro ⟨i, hSeen, k, _, hRounds⟩
            exact hExplored.mem_of_rounds hTracks hDone hSeen
              hRounds
      · rcases ih (hExplored.advance hTracks hAdvances) with
          ⟨hOrder, hMember⟩
        refine ⟨hOrder, ?_⟩
        intro j
        rw [hMember]
        constructor
        · rintro ⟨i, hNext, k, hLe, hRounds⟩
          rcases Positions.mem_unite_iff.mp hNext with
            hSeen | hFresh
          · exact ⟨i, hSeen, k, Nat.le_succ_of_le hLe, hRounds⟩
          · rcases (hExplored.mem_fresh_iff hTracks).mp hFresh with
              ⟨⟨l, hFront, hStep⟩, _⟩
            exact ⟨l, hExplored.front_seen l hFront, k + 1,
              Nat.succ_le_succ hLe, i, hStep, hRounds⟩
        · rintro ⟨i, hSeen, k, hLe, hRounds⟩
          cases k with
          | zero =>
              exact ⟨i, Positions.mem_unite_iff.mpr (.inl hSeen),
                0, Nat.zero_le _, hRounds⟩
          | succ k =>
              rcases hRounds with ⟨l, hStep, hRest⟩
              exact ⟨l, hExplored.mem_next hTracks hSeen hStep, k,
                Nat.le_of_succ_le_succ hLe, hRest⟩

------------------------------------------------------------
-- Matches
------------------------------------------------------------

/- The pattern matches a text from one position to another. -/
def Leads
    (text : List Char) :
    Pattern → Nat → Nat → Prop
| .empty, i, j => i = j
| .chars set, i, j =>
    ∃ c, text[i]? = some c ∧ set.contains c.toNat = true ∧
      j = i + 1
| .look l, i, j =>
    l.holds (if i = 0 then none else text[i - 1]?) text[i]? =
        true ∧
      i = j
| .capture p, i, j => p.Leads text i j
| .cat p q, i, j => ∃ k, p.Leads text i k ∧ q.Leads text k j
| .alt p q, i, j => p.Leads text i j ∨ q.Leads text i j
| .rep p least most, i, j =>
    ∃ n, InCounts least most n ∧
      Rounds (fun i j => p.Leads text i j) n i j

variable {text : List Char}

/- A match does not go back, nor beyond the text. -/
theorem advances_leads
    (text : List Char)
    (p : Pattern) :
    Advances (p.Leads text) text.length := by
  induction p with
  | empty =>
      constructor
      · rintro i _ rfl
        exact Nat.le_refl _
      · rintro i _ hTop rfl
        exact hTop
  | chars set =>
      constructor
      · rintro i _ ⟨c, _, _, rfl⟩
        exact Nat.le_succ i
      · rintro i _ _ ⟨c, hAt, _, rfl⟩
        exact (List.getElem?_eq_some_iff.mp hAt).1
  | look l =>
      constructor
      · rintro i _ ⟨_, rfl⟩
        exact Nat.le_refl _
      · rintro i _ hTop ⟨_, rfl⟩
        exact hTop
  | capture p ih => exact ih
  | cat p q ihp ihq =>
      constructor
      · rintro i j ⟨k, hLeft, hRight⟩
        exact Nat.le_trans (ihp.le i k hLeft) (ihq.le k j hRight)
      · rintro i j hTop ⟨k, hLeft, hRight⟩
        exact ihq.bounded k j (ihp.bounded i k hTop hLeft) hRight
  | alt p q ihp ihq =>
      constructor
      · rintro i j (hLeft | hRight)
        · exact ihp.le i j hLeft
        · exact ihq.le i j hRight
      · rintro i j hTop (hLeft | hRight)
        · exact ihp.bounded i j hTop hLeft
        · exact ihq.bounded i j hTop hRight
  | rep p least most ih =>
      constructor
      · rintro i j ⟨n, _, hRounds⟩
        exact (ih.rounds n).le i j hRounds
      · rintro i j hTop ⟨n, _, hRounds⟩
        exact (ih.rounds n).bounded i j hTop hRounds

/- A repetition takes the rounds of what it repeats. -/
theorem Tracks.rep
    {p : Pattern}
    (hTracks :
      Tracks (p.Leads text) text.length (p.ends text.toArray))
    (least : Nat)
    (most : Option Nat) :
    Tracks ((Pattern.rep p least most).Leads text) text.length
      ((Pattern.rep p least most).ends text.toArray) := by
  have hAdvances := advances_leads text p
  have hLeast := hTracks.iterate hAdvances
    (min least (text.length + 1))
  have hBound := hAdvances.rounds (min least (text.length + 1))
  have hWithin
      (s : List Nat)
      (hOrder : s.Pairwise (· < ·))
      (hTop : ∀ i ∈ s, i ≤ text.length) :=
    (Explored.start (hLeast.pairwise s hOrder hTop)
      (hLeast.bounded hBound hOrder hTop)).within hTracks
      hAdvances (moreRounds (text.length + 1) least most)
  constructor
  · intro s hOrder hTop
    exact (hWithin s hOrder hTop).1
  · intro s hOrder hTop j
    have hMember :
        j ∈ (Pattern.rep p least most).ends text.toArray s ↔ _ :=
      (hWithin s hOrder hTop).2 j
    rw [hMember]
    simp only [hLeast.mem_iff s hOrder hTop, Leads]
    constructor
    · rintro ⟨k, ⟨i, hFrom, hLeft⟩, n, hLe, hRight⟩
      refine ⟨i, hFrom, ?_⟩
      rw [hAdvances.exists_rounds_iff (hTop i hFrom)]
      exact ⟨n, hLe, rounds_add.mpr ⟨k, hLeft, hRight⟩⟩
    · rintro ⟨i, hFrom, hCounted⟩
      rw [hAdvances.exists_rounds_iff (hTop i hFrom)] at hCounted
      rcases hCounted with ⟨n, hLe, hRounds⟩
      rcases rounds_add.mp hRounds with ⟨k, hLeft, hRight⟩
      exact ⟨k, ⟨i, hFrom, hLeft⟩, n, hLe, hRight⟩

/- The matcher takes just the steps of a match. -/
theorem tracks_ends
    (text : List Char)
    (p : Pattern) :
    Tracks (p.Leads text) text.length (p.ends text.toArray) := by
  induction p with
  | empty =>
      refine ⟨fun s hOrder _ => hOrder, ?_⟩
      intro s _ _ j
      simp [ends, Leads]
  | chars set =>
      constructor
      · intro s hOrder _
        refine hOrder.filterMap _ ?_
        intro i k hLess a hLeft b hRight
        split at hLeft <;> split at hRight <;> grind
      · intro s _ _ j
        simp only [ends, List.mem_filterMap, Leads]
        constructor
        · rintro ⟨i, hFrom, hStep⟩
          refine ⟨i, hFrom, ?_⟩
          split at hStep
          · next c hAt => grind
          · cases hStep
        · rintro ⟨i, hFrom, c, hAt, hSet, rfl⟩
          exact ⟨i, hFrom, by simp [hAt, hSet]⟩
  | look l =>
      constructor
      · intro s hOrder _
        exact hOrder.filter _
      · intro s _ _ j
        simp [ends, Leads]
  | capture p ih => exact ih
  | cat p q ihp ihq =>
      exact ihp.andThen ihq (advances_leads text p)
  | alt p q ihp ihq =>
      constructor
      · intro s hOrder hTop
        exact Positions.pairwise_unite
          (ihp.pairwise s hOrder hTop) (ihq.pairwise s hOrder hTop)
      · intro s hOrder hTop j
        rw [ends, Positions.mem_unite_iff,
          ihp.mem_iff s hOrder hTop, ihq.mem_iff s hOrder hTop]
        simp only [Leads]
        constructor
        · rintro (⟨i, hFrom, hLeft⟩ | ⟨i, hFrom, hRight⟩)
          · exact ⟨i, hFrom, .inl hLeft⟩
          · exact ⟨i, hFrom, .inr hRight⟩
        · rintro ⟨i, hFrom, hLeft | hRight⟩
          · exact .inl ⟨i, hFrom, hLeft⟩
          · exact .inr ⟨i, hFrom, hRight⟩
  | rep p least most ih => exact ih.rep least most

/- So a pattern is found where it matches somewhere. -/
theorem found_iff
    (p : Pattern)
    (text : String) :
    p.found text = true ↔
      ∃ i ≤ text.toList.length, ∃ j, p.Leads text.toList i j := by
  have hTracks := tracks_ends text.toList p
  have hMember :
      ∀ j, j ∈ p.ends text.toList.toArray
          (List.range (text.toList.length + 1)) ↔
        ∃ i ∈ List.range (text.toList.length + 1),
          p.Leads text.toList i j :=
    hTracks.mem_iff _ List.pairwise_lt_range
      (fun i hMember => Nat.lt_succ_iff.mp
        (List.mem_range.mp hMember))
  simp only [List.mem_range, Nat.lt_succ_iff] at hMember
  rw [found, Bool.not_eq_true', List.isEmpty_eq_false_iff_exists_mem]
  constructor
  · rintro ⟨j, hEnd⟩
    rcases (hMember j).mp hEnd with ⟨i, hTop, hLeads⟩
    exact ⟨i, hTop, j, hLeads⟩
  · rintro ⟨i, hTop, j, hLeads⟩
    exact ⟨j, (hMember j).mpr ⟨i, hTop, hLeads⟩⟩

end Pattern

end EmojiQuery
