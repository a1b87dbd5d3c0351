import EmojiQuery.Proofs.Number.Signed
import EmojiQuery.Proofs.Query.Values

/-
  The grammar of ranges, and which fault is reported for a text
  that is none. A text is cut at its first separator; without
  one, the whole of it is either bound. The lower part is
  examined before the upper one, and both before their order.

  Main declarations:
    * `IsCut`
    * `Interval.IsSplit`
    * `Interval.FirstFault`
    * `Interval.parse_eq_ok_iff`
    * `Interval.parse_eq_error_iff_firstFault`
    * `Interval.parse_integers_iff`
-/

------------------------------------------------------------
-- The First Separator
------------------------------------------------------------

namespace EmojiQuery

variable {sep s before after : List Char}

/- A text is cut at its first separator. -/
structure IsCut
    (sep s before after : List Char) : Prop where
  eq_append : s = before ++ sep ++ after
  first :
    ∀ front back, s = front ++ sep ++ back →
      before.length ≤ front.length

/- A text is cut in one way only. -/
theorem IsCut.unique
    {before' after' : List Char}
    (hLeft : IsCut sep s before after)
    (hRight : IsCut sep s before' after') :
    before = before' ∧ after = after' := by
  have hText := hLeft.eq_append.symm.trans hRight.eq_append
  have hLength : before.length = before'.length :=
    Nat.le_antisymm (hLeft.first _ _ hRight.eq_append)
      (hRight.first _ _ hLeft.eq_append)
  rw [List.append_assoc, List.append_assoc] at hText
  have hParts := List.append_inj hText hLength
  exact ⟨hParts.1, List.append_cancel_left hParts.2⟩

/- A separator that is not at the front is found behind it. -/
theorem exists_append_of_not_prefix
    {c : Char}
    {front back : List Char}
    (hFront : ¬ sep <+: c :: s)
    (hText : c :: s = front ++ sep ++ back) :
    ∃ rest, front = c :: rest ∧ s = rest ++ sep ++ back := by
  cases front with
  | nil =>
      exact absurd ⟨back, hText.symm⟩ hFront
  | cons b rest =>
      rw [List.cons_append, List.cons_append,
        List.cons.injEq] at hText
      exact ⟨rest, by rw [hText.1], hText.2⟩

/- What is found is the first separator. -/
theorem isCut_of_cut?
    (hCut : cut? sep s = some (before, after)) :
    IsCut sep s before after := by
  refine ⟨append_of_cut? hCut, ?_⟩
  induction s generalizing before with
  | nil =>
      simp [cut?] at hCut
  | cons c s ih =>
      rw [cut?] at hCut
      split at hCut
      · rw [Option.some.injEq, Prod.mk.injEq] at hCut
        intro front back _
        rw [← hCut.1]
        exact Nat.zero_le _
      · next hFront =>
          rw [List.isPrefixOf_iff_prefix] at hFront
          simp only [Option.map_eq_some_iff, Prod.mk.injEq] at hCut
          rcases hCut with ⟨⟨inner, rest⟩, hRest, rfl, rfl⟩
          intro front back hText
          rcases exists_append_of_not_prefix hFront hText with
            ⟨front, rfl, hInner⟩
          exact Nat.succ_le_succ (ih hRest front back hInner)

/- Without a separator nothing is found. -/
theorem cut?_eq_none_iff
    (hSep : sep ≠ []) :
    cut? sep s = none ↔ ¬ sep <:+: s := by
  induction s with
  | nil =>
      simp [cut?, hSep]
  | cons c s ih =>
      rw [cut?, List.infix_cons_iff, ← List.isPrefixOf_iff_prefix]
      cases sep.isPrefixOf (c :: s) with
      | true =>
          simp
      | false =>
          simp [ih]

end EmojiQuery

------------------------------------------------------------
-- Faults of Ranges
------------------------------------------------------------

namespace EmojiQuery

namespace Interval

/-
  The two parts of a range: what stands before and after the
  first separator, or twice the whole text.
-/
inductive IsSplit
    (s : List Char) :
    List Char → List Char → Prop where
| pair
    {lower upper : List Char}
    (hCut : IsCut ['.', '.'] s lower upper) :
    IsSplit s lower upper
| single
    (hNone : ¬ ['.', '.'] <:+: s) :
    IsSplit s s s

/- What is wrong with a part, and the words that say so. -/
inductive PartFault
    {α : Type}
    (IsBound : List Char → α → Prop)
    (part : List Char) :
    RangeFault → String → Prop where
| missing
    (hEmpty : part = []) :
    PartFault IsBound part .missingBound "missing bound"
| notNumber
    (hNonempty : part ≠ [])
    (hNone : ∀ a, ¬ IsBound part a) :
    PartFault IsBound part (.notNumber (String.ofList part))
      (quote (String.ofList part) ++ " is not a number")

/- The first thing that is wrong with two parts. -/
inductive FirstFault
    {α : Type}
    [LT α]
    (IsBound : List Char → α → Prop)
    (lower upper : List Char) :
    RangeFault → String → Prop where
| lower
    {fault : RangeFault}
    {words : String}
    (hPart : PartFault IsBound lower fault words) :
    FirstFault IsBound lower upper fault words
| upper
    {a : α}
    {fault : RangeFault}
    {words : String}
    (hLower : IsBound lower a)
    (hPart : PartFault IsBound upper fault words) :
    FirstFault IsBound lower upper fault words
| order
    {a b : α}
    (hLower : IsBound lower a)
    (hUpper : IsBound upper b)
    (hReversed : b < a) :
    FirstFault IsBound lower upper .reversed
      "lower bound must be <= upper bound"

/- A text has two parts in just one way. -/
theorem isSplit_iff
    (s lower upper : List Char) :
    IsSplit s lower upper ↔
      (cut? ['.', '.'] s).getD (s, s) = (lower, upper) := by
  have hSep : ['.', '.'] ≠ [] := List.cons_ne_nil _ _
  cases hCut : cut? ['.', '.'] s with
  | none =>
      have hNone := (cut?_eq_none_iff hSep).mp hCut
      rw [Option.getD_none, Prod.mk.injEq]
      constructor
      · intro hSplit
        cases hSplit with
        | pair hIs =>
            exact absurd ⟨lower, upper, hIs.eq_append.symm⟩ hNone
        | single => exact ⟨rfl, rfl⟩
      · rintro ⟨rfl, rfl⟩
        exact .single hNone
  | some parts =>
      have hIs := isCut_of_cut? hCut
      rw [Option.getD_some]
      constructor
      · intro hSplit
        cases hSplit with
        | pair hOther =>
            rcases hIs.unique hOther with ⟨rfl, rfl⟩
            rfl
        | single hNone =>
            exact absurd ⟨_, _, hIs.eq_append.symm⟩ hNone
      · rintro rfl
        exact .pair hIs

variable {α : Type}
variable {read : List Char → Option α}
variable {IsBound : List Char → α → Prop}
variable {raw : String}
variable {part lower upper : List Char}

/- A part is read if it is a bound. -/
theorem readBound_eq_ok_iff
    (hBound :
      ∀ part a, IsBound part a ↔ part ≠ [] ∧ read part = some a)
    (a : α) :
    readBound read raw part = .ok a ↔ IsBound part a := by
  rw [hBound, readBound]
  cases part with
  | nil =>
      simp [fail]
  | cons c cs =>
      cases read (c :: cs) with
      | none =>
          simp [fail]
      | some b =>
          simp

/- A part that is no bound is refused with its fault. -/
theorem readBound_eq_error_iff
    (hBound :
      ∀ part a, IsBound part a ↔ part ≠ [] ∧ read part = some a)
    (e : SearchError) :
    readBound read raw part = .error e ↔
      ∃ fault, e = .malformedRange raw fault ∧
        PartFault IsBound part fault fault.reason := by
  constructor
  · intro hRead
    unfold readBound at hRead
    split at hRead
    · next hEmpty =>
        rw [List.isEmpty_iff] at hEmpty
        exact ⟨_, (Except.error.inj hRead).symm, .missing hEmpty⟩
    · next hNonempty =>
        rw [List.isEmpty_iff] at hNonempty
        split at hRead
        · cases hRead
        · next hNone =>
            refine ⟨_, (Except.error.inj hRead).symm,
              .notNumber hNonempty ?_⟩
            intro a hIs
            rw [hBound, hNone] at hIs
            cases hIs.2
  · rintro ⟨fault, rfl, hPart⟩
    generalize fault.reason = words at hPart
    cases hPart with
    | missing hEmpty =>
        rw [hEmpty]
        rfl
    | notNumber hNonempty hNone =>
        have hRead : read part = none := by
          rw [Option.eq_none_iff_forall_not_mem]
          intro a hSome
          exact hNone a ((hBound part a).mpr ⟨hNonempty, hSome⟩)
        have hFilled : part.isEmpty = false := by
          simpa using hNonempty
        rw [readBound, hFilled, hRead]
        rfl

variable [LT α] [DecidableLT α]

/- Bounds make a range unless they are reversed. -/
theorem between_eq_ok_iff
    (a b : α)
    (r : Interval α) :
    between raw a b = .ok r ↔ ¬ b < a ∧ r = ⟨a, b⟩ := by
  rw [between]
  split
  · next hReversed =>
      simp [fail, hReversed]
  · next hOrder =>
      simp [hOrder, eq_comm]

theorem between_eq_error_iff
    (a b : α)
    (e : SearchError) :
    between raw a b = .error e ↔
      b < a ∧ e = .malformedRange raw .reversed := by
  rw [between]
  split
  · next hReversed =>
      simp [fail, hReversed, eq_comm]
  · next hOrder =>
      simp [hOrder]

/- The two parts are read one after the other. -/
theorem parse_of_isSplit
    (read : List Char → Option α)
    (hSplit : IsSplit raw.toList lower upper) :
    parse read raw =
      readBound read raw lower >>= fun a =>
        readBound read raw upper >>= fun b =>
          between raw a b := by
  have hParts := (isSplit_iff _ _ _).mp hSplit
  rw [parse, bounds?, hParts]

/- A range has the bounds that its parts write, in order. -/
theorem parse_eq_ok_iff
    (hBound :
      ∀ part a, IsBound part a ↔ part ≠ [] ∧ read part = some a)
    (hSplit : IsSplit raw.toList lower upper)
    (r : Interval α) :
    parse read raw = .ok r ↔
      IsBound lower r.lower ∧ IsBound upper r.upper ∧
        ¬ r.upper < r.lower := by
  rw [parse_of_isSplit read hSplit]
  simp only [bind_eq_ok_iff, readBound_eq_ok_iff hBound,
    between_eq_ok_iff]
  constructor
  · rintro ⟨a, hLower, b, hUpper, hOrder, rfl⟩
    exact ⟨hLower, hUpper, hOrder⟩
  · rintro ⟨hLower, hUpper, hOrder⟩
    exact ⟨r.lower, hLower, r.upper, hUpper, hOrder, rfl⟩

/- A text that is no range is refused with its first fault. -/
theorem parse_eq_error_iff_firstFault
    (hBound :
      ∀ part a, IsBound part a ↔ part ≠ [] ∧ read part = some a)
    (hSplit : IsSplit raw.toList lower upper)
    (e : SearchError) :
    parse read raw = .error e ↔
      ∃ fault, e = .malformedRange raw fault ∧
        FirstFault IsBound lower upper fault fault.reason := by
  rw [parse_of_isSplit read hSplit]
  simp only [bind_eq_error_iff, readBound_eq_ok_iff hBound,
    readBound_eq_error_iff hBound, between_eq_error_iff]
  constructor
  · rintro (⟨fault, rfl, hPart⟩ |
      ⟨a, hLower, ⟨fault, rfl, hPart⟩ |
        ⟨b, hUpper, hReversed, rfl⟩⟩)
    · exact ⟨fault, rfl, .lower hPart⟩
    · exact ⟨fault, rfl, .upper hLower hPart⟩
    · exact ⟨.reversed, rfl, .order hLower hUpper hReversed⟩
  · rintro ⟨fault, rfl, hFirst⟩
    generalize hWords : fault.reason = words at hFirst
    cases hFirst with
    | lower hPart =>
        exact .inl ⟨fault, rfl, hWords ▸ hPart⟩
    | @upper a _ _ hLower hPart =>
        exact .inr ⟨a, hLower, .inl ⟨fault, rfl, hWords ▸ hPart⟩⟩
    | @order a b hLower hUpper hReversed =>
        exact .inr ⟨a, hLower, .inr ⟨b, hUpper, hReversed, rfl⟩⟩

end Interval

end EmojiQuery

------------------------------------------------------------
-- Ranges of Integers
------------------------------------------------------------

namespace EmojiQuery

namespace Interval

/-
  Every text has two parts. It is a range of integers just if
  both parts are bounds and these are in order. Otherwise it
  is refused with its first fault, and with the words for it.
-/
theorem parse_integers_iff
    (radix : Radix)
    (raw : String) :
    ∃ lower upper,
      (∀ before after,
        IsSplit raw.toList before after ↔
          before = lower ∧ after = upper) ∧
        (∀ r,
          parse radix.read raw = .ok r ↔
            radix.IsBound lower r.lower ∧
              radix.IsBound upper r.upper ∧
                r.lower ≤ r.upper) ∧
        ∀ e,
          parse radix.read raw = .error e ↔
            ∃ fault, e = .malformedRange raw fault ∧
              FirstFault radix.IsBound lower upper fault
                fault.reason := by
  have hBound :
      ∀ part a, radix.IsBound part a ↔
        part ≠ [] ∧ radix.read part = some a := by
    intro part a
    rw [radix.read_eq_some_iff]
    exact ⟨fun hIs => ⟨hIs.ne_nil, hIs⟩, And.right⟩
  rcases hParts :
      (cut? ['.', '.'] raw.toList).getD
        (raw.toList, raw.toList) with
    ⟨lower, upper⟩
  have hSplit : IsSplit raw.toList lower upper :=
    (isSplit_iff _ _ _).mpr hParts
  refine ⟨lower, upper, ?_, ?_, ?_⟩
  · intro before after
    rw [isSplit_iff, hParts, Prod.mk.injEq, eq_comm,
      eq_comm (a := upper)]
  · intro r
    rw [parse_eq_ok_iff hBound hSplit, Int64.not_lt]
  · exact parse_eq_error_iff_firstFault hBound hSplit

/-
  A sign stands behind the mark. Of three points the first two
  are the separator.
-/
example :
    parse Radix.hexadecimal.read "0x-1F..+0001f" =
        .ok ⟨-31, 31⟩ ∧
      parse Radix.decimal.read "1...2" =
        .error (.malformedRange "1...2" (.notNumber ".2")) := by
  decide +kernel

end Interval

end EmojiQuery
