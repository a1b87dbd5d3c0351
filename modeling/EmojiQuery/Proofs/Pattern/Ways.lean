import EmojiQuery.Proofs.Pattern.Matching
import Mathlib.Logic.Basic

/-
  The order in which a pattern tries to match, and what its
  groups take. The first way to match at a place is preferred:
  alternatives are tried from left to right, and repetitions go
  on for as long as they can. The ways end where the pattern
  matches, so there is a first one just where the matcher finds
  the pattern.

  Main declarations:
    * `Way`
    * `Pattern.ways`
    * `Pattern.ways_ne_nil_iff`
    * `Pattern.groups?`
    * `Pattern.isSome_groups?_iff`
    * `Pattern.allGroups`
-/

------------------------------------------------------------
-- Ways
------------------------------------------------------------

namespace EmojiQuery

/- What the groups took, first to last, and what is left. -/
structure Way where
  groups : List (List Char)
  rest : List Char

namespace Way

/- Go on with what is left. -/
def andThen
    (w : Way)
    (next : List Char → List Way) : List Way :=
  (next w.rest).map fun v =>
    { v with groups := w.groups ++ v.groups }

/- Take a step so many times. -/
def times
    (step : List Char → List Way) :
    Nat → List Char → List Way
| 0, s => [⟨[], s⟩]
| n + 1, s => (step s).flatMap fun w => w.andThen (times step n)

/- Take a step at most so many times, more often first. -/
def upTo
    (step : List Char → List Way) :
    Nat → List Char → List Way
| 0, s => [⟨[], s⟩]
| n + 1, s =>
    (step s).flatMap (fun w => w.andThen (upTo step n)) ++
      [⟨[], s⟩]

/- There is nothing to add to what no group took. -/
@[simp] theorem andThen_nil
    (s : List Char)
    (next : List Char → List Way) :
    andThen ⟨[], s⟩ next = next s := by
  simp [andThen]

theorem exists_andThen_iff
    {w : Way}
    {next : List Char → List Way}
    {r : List Char} :
    (∃ v ∈ w.andThen next, v.rest = r) ↔
      ∃ v ∈ next w.rest, v.rest = r := by
  simp [andThen]

end Way

namespace Pattern

/- The character before what is left of a text. -/
def before?
    (text s : List Char) : Option Char :=
  let i := text.length - s.length
  if i = 0 then none else text[i - 1]?

/- The ways to match at the front of what is left of a text. -/
def ways
    (text : List Char) :
    Pattern → List Char → List Way
| .empty, s => [⟨[], s⟩]
| .chars _, [] => []
| .chars set, c :: s =>
    if set.contains c.toNat then [⟨[], s⟩] else []
| .look l, s =>
    if l.holds (before? text s) s.head? then [⟨[], s⟩] else []
| .capture p, s =>
    (p.ways text s).map fun w =>
      { w with
        groups := s.take (s.length - w.rest.length) :: w.groups }
| .cat p q, s =>
    (p.ways text s).flatMap fun w => w.andThen (q.ways text)
| .alt p q, s => p.ways text s ++ q.ways text s
| .rep p least most, s =>
    let rounds := text.length + 1
    (Way.times (p.ways text) (min least rounds) s).flatMap fun w =>
      w.andThen
        (Way.upTo (p.ways text) (moreRounds rounds least most))

------------------------------------------------------------
-- Ways and matches
------------------------------------------------------------

/- The ways from each place end where a relation leads. -/
def Follows
    (R : Nat → Nat → Prop)
    (text : List Char)
    (step : List Char → List Way) : Prop :=
  ∀ i ≤ text.length, ∀ r,
    (∃ w ∈ step (text.drop i), w.rest = r) ↔
      ∃ j, R i j ∧ text.drop j = r

variable {R S : Nat → Nat → Prop}
variable {text : List Char}
variable {step next : List Char → List Way}

theorem Follows.andThen
    (hFirst : Follows R text step)
    (hSecond : Follows S text next)
    (hAdvances : Advances R text.length) :
    Follows (fun i j => ∃ k, R i k ∧ S k j) text
      (fun s => (step s).flatMap fun w => w.andThen next) := by
  intro i hTop r
  have hSplit :
      (∃ v ∈ (step (text.drop i)).flatMap
          (fun w => w.andThen next), v.rest = r) ↔
        ∃ w ∈ step (text.drop i), ∃ v ∈ next w.rest,
          v.rest = r := by
    simp only [List.mem_flatMap, ← Way.exists_andThen_iff]
    grind
  rw [hSplit]
  constructor
  · rintro ⟨w, hWay, hRest⟩
    rcases (hFirst i hTop w.rest).mp ⟨w, hWay, rfl⟩ with
      ⟨k, hStep, hPlace⟩
    rw [← hPlace, hSecond k (hAdvances.bounded i k hTop hStep) r]
      at hRest
    rcases hRest with ⟨j, hNext, hEnd⟩
    exact ⟨j, ⟨k, hStep, hNext⟩, hEnd⟩
  · rintro ⟨j, ⟨k, hStep, hNext⟩, hEnd⟩
    rcases (hFirst i hTop (text.drop k)).mpr ⟨k, hStep, rfl⟩ with
      ⟨w, hWay, hPlace⟩
    refine ⟨w, hWay, ?_⟩
    rw [hPlace, hSecond k (hAdvances.bounded i k hTop hStep) r]
    exact ⟨j, hNext, hEnd⟩

/- Steps taken so many times are as many rounds. -/
theorem Follows.times
    (hStep : Follows R text step)
    (hAdvances : Advances R text.length)
    (n : Nat) :
    Follows (Rounds R n) text (Way.times step n) := by
  induction n with
  | zero =>
      intro i _ r
      simp [Way.times, Rounds]
  | succ n ih => exact hStep.andThen ih hAdvances

/- Steps taken at most so often are at most as many rounds. -/
theorem Follows.upTo
    (hStep : Follows R text step)
    (hAdvances : Advances R text.length)
    (n : Nat) :
    Follows (fun i j => ∃ k ≤ n, Rounds R k i j) text
      (Way.upTo step n) := by
  induction n with
  | zero =>
      intro i _ r
      simp [Way.upTo, Rounds]
  | succ n ih =>
      intro i hTop r
      have hMore := hStep.andThen ih hAdvances i hTop r
      have hSplit :
          (∃ w ∈ Way.upTo step (n + 1) (text.drop i),
              w.rest = r) ↔
            (∃ w ∈ (step (text.drop i)).flatMap
                (fun w => w.andThen (Way.upTo step n)),
              w.rest = r) ∨ text.drop i = r := by
        simp only [Way.upTo, List.mem_append, List.mem_singleton]
        grind
      rw [hSplit, hMore]
      constructor
      · rintro (⟨j, ⟨k, hFirst, l, hLe, hRest⟩, hEnd⟩ | hEnd)
        · exact ⟨j, ⟨l + 1, by omega, k, hFirst, hRest⟩, hEnd⟩
        · exact ⟨i, ⟨0, by omega, rfl⟩, hEnd⟩
      · rintro ⟨j, ⟨l, hLe, hRounds⟩, hEnd⟩
        cases l with
        | zero =>
            cases hRounds
            exact .inr hEnd
        | succ l =>
            rcases hRounds with ⟨k, hFirst, hRest⟩
            exact .inl
              ⟨j, ⟨k, hFirst, l, by omega, hRest⟩, hEnd⟩

/- The ways to match end where the pattern leads. -/
theorem follows_ways
    (text : List Char)
    (p : Pattern) :
    Follows (p.Leads text) text (p.ways text) := by
  induction p with
  | empty =>
      intro i _ r
      simp [ways, Leads]
  | chars set =>
      intro i hTop r
      rcases Nat.lt_or_eq_of_le hTop with hLess | rfl
      · rw [List.drop_eq_getElem_cons hLess]
        simp only [ways, Leads, List.getElem?_eq_getElem hLess]
        split <;> simp_all
      · simp [ways, Leads]
  | look l =>
      intro i hTop r
      have hPlace : text.length - (text.drop i).length = i := by
        rw [List.length_drop]
        omega
      simp only [ways, Leads, before?, hPlace, List.head?_drop]
      generalize (if i = 0 then none else text[i - 1]?) = before
      by_cases hHolds : l.holds before text[i]? = true
      · simp [hHolds]
      · simp [hHolds]
  | capture p ih =>
      intro i hTop r
      simpa [ways, Leads] using ih i hTop r
  | cat p q ihp ihq => exact ihp.andThen ihq (advances_leads text p)
  | alt p q ihp ihq =>
      intro i hTop r
      have hLeft := ihp i hTop r
      have hRight := ihq i hTop r
      simp only [ways, Leads, List.mem_append]
      grind
  | rep p least most ih =>
      have hAdvances := advances_leads text p
      have hLeast := ih.times hAdvances
        (min least (text.length + 1))
      have hMore := ih.upTo hAdvances
        (moreRounds (text.length + 1) least most)
      intro i hTop r
      rw [ways, hLeast.andThen hMore (hAdvances.rounds _) i hTop r]
      simp only [Leads, hAdvances.exists_rounds_iff hTop,
        rounds_add]
      grind

/- So there is one just where the pattern leads somewhere. -/
theorem ways_ne_nil_iff
    (p : Pattern)
    {i : Nat}
    (hTop : i ≤ text.length) :
    p.ways text (text.drop i) ≠ [] ↔ ∃ j, p.Leads text i j := by
  have hFollows := follows_ways text p i hTop
  constructor
  · intro hSome
    rcases List.exists_mem_of_ne_nil _ hSome with ⟨w, hWay⟩
    rcases (hFollows w.rest).mp ⟨w, hWay, rfl⟩ with ⟨j, hLeads, _⟩
    exact ⟨j, hLeads⟩
  · rintro ⟨j, hLeads⟩
    rcases (hFollows (text.drop j)).mpr ⟨j, hLeads, rfl⟩ with
      ⟨w, hWay, _⟩
    exact List.ne_nil_of_mem hWay

------------------------------------------------------------
-- First matches
------------------------------------------------------------

/- The preferred way at the first place where there is one. -/
def first?
    (text : List Char)
    (p : Pattern) :
    List Char → Option Way
| [] => (p.ways text []).head?
| c :: s => (p.ways text (c :: s)).head?.or (first? text p s)

/- What the groups take where a pattern first matches. -/
def groups?
    (p : Pattern)
    (text : List Char) : Option (List (List Char)) :=
  (first? text p text).map Way.groups

theorem isSome_first?_iff
    (text : List Char)
    (p : Pattern)
    (s : List Char) :
    (first? text p s).isSome = true ↔
      ∃ t, t <:+ s ∧ p.ways text t ≠ [] := by
  induction s with
  | nil => simp [first?, List.isSome_head?]
  | cons c s ih =>
      rw [first?, Option.isSome_or, Bool.or_eq_true,
        List.isSome_head?, ih]
      simp only [List.suffix_cons_iff, or_and_right, exists_or,
        exists_eq_left]

/- A pattern first matches somewhere if it is found at all. -/
theorem isSome_groups?_iff
    (p : Pattern)
    (text : String) :
    (p.groups? text.toList).isSome = true ↔ p.found text = true := by
  rw [groups?, Option.isSome_map, isSome_first?_iff, found_iff]
  constructor
  · rintro ⟨t, hSuffix, hWays⟩
    rw [List.suffix_iff_eq_drop] at hSuffix
    rw [hSuffix, ways_ne_nil_iff p (Nat.sub_le _ _)] at hWays
    exact ⟨_, Nat.sub_le _ _, hWays⟩
  · rintro ⟨i, hTop, hLeads⟩
    exact ⟨text.toList.drop i, List.drop_suffix _ _,
      (ways_ne_nil_iff p hTop).mpr hLeads⟩

------------------------------------------------------------
-- All matches
------------------------------------------------------------

/-
  The way to match that is taken next, if it is at this place.
  Where a match has just ended, an empty one is passed over.
-/
def next?
    (text : List Char)
    (p : Pattern)
    (fresh : Bool)
    (s : List Char) : Option Way :=
  (p.ways text s).head?.filter fun w =>
    fresh || w.rest.length < s.length

/- All matches, each from where the one before it ended. -/
def all
    (text : List Char)
    (p : Pattern)
    (fresh : Bool)
    (s : List Char) : List Way :=
  match _hNext : next? text p fresh s with
  | some w =>
      w ::
        if w.rest.length < s.length then
          all text p false w.rest
        else
          all text p false s
  | none =>
      match s with
      | [] => []
      | _ :: t => all text p true t
termination_by (s.length, fresh.toNat)
decreasing_by
  · next hLess => exact Prod.Lex.left _ _ hLess
  · next hEmpty =>
      have hFresh : fresh = true := by
        simpa [hEmpty] using (Option.filter_eq_some_iff.mp _hNext).2
      rw [hFresh]
      exact Prod.Lex.right _ Nat.zero_lt_one
  · exact Prod.Lex.left _ _ (Nat.lt_succ_self _)

variable {p : Pattern}
variable {fresh : Bool}
variable {s : List Char}
variable {w : Way}

/- A match that takes something is followed by what is left. -/
theorem all_of_next?_eq_some
    (hNext : next? text p fresh s = some w)
    (hLess : w.rest.length < s.length) :
    all text p fresh s = w :: all text p false w.rest := by
  rw [all]
  split
  · next hOther =>
      rw [hNext, Option.some.injEq] at hOther
      rw [← hOther, if_pos hLess]
  · next hNone =>
      rw [hNext] at hNone
      cases hNone

/- No match at the end of the text is the last. -/
theorem all_nil_of_next?_eq_none
    (hNext : next? text p fresh [] = none) :
    all text p fresh [] = [] := by
  rw [all]
  split
  · next hSome =>
      rw [hNext] at hSome
      cases hSome
  · rfl

/- A character at which nothing matches is passed over. -/
theorem all_cons_of_next?_eq_none
    {c : Char}
    (hNext : next? text p fresh (c :: s) = none) :
    all text p fresh (c :: s) = all text p true s := by
  rw [all]
  split
  · next hSome =>
      rw [hNext] at hSome
      cases hSome
  · rfl

/- What the groups take in each match of a pattern. -/
def allGroups
    (p : Pattern)
    (text : List Char) : List (List (List Char)) :=
  (all text p true text).map Way.groups

end Pattern

end EmojiQuery
