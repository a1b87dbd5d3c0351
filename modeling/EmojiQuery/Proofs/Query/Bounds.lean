import EmojiQuery.Proofs.Query.Writing
import EmojiQuery.Query.Interval

/-
  Ranges as they are written: two bounds with a separator
  between them, or one bound that is both. The separator is
  found where it was put if no bound holds one, nor ends in a
  part of one.

  Main declarations:
    * `Undivided`
    * `Interval.WritesBound`
    * `Interval.parse_pair`
    * `Interval.parse_single`
    * `Clause.Span.isPlain_of_graphic`
-/

------------------------------------------------------------
-- Texts Without Separators
------------------------------------------------------------

namespace EmojiQuery

/-
  No two points stand next to each other in a text, nor could
  a point that follows it meet one at its end.
-/
def Undivided
    (s : List Char) : Prop :=
  ∀ t, cut? ['.', '.'] (s ++ t) =
    (cut? ['.', '.'] t).map fun (before, after) =>
      (s ++ before, after)

namespace Undivided

variable {s t : List Char}

theorem append
    (hLeft : Undivided s)
    (hRight : Undivided t) :
    Undivided (s ++ t) := by
  intro u
  rw [List.append_assoc, hLeft, hRight, Option.map_map]
  apply congrArg (Option.map · (cut? ['.', '.'] u))
  funext p
  simp

/- A character that does not begin a separator is passed over. -/
theorem cons
    {c : Char}
    (hStart : ∀ u, ¬ ['.', '.'] <+: c :: (s ++ u))
    (hRest : Undivided s) :
    Undivided (c :: s) := by
  intro u
  have hPrefix :
      ¬ List.isPrefixOf ['.', '.'] (c :: (s ++ u)) = true := by
    rw [List.isPrefixOf_iff_prefix]
    exact hStart u
  rw [List.cons_append, cut?, if_neg hPrefix, hRest,
    Option.map_map]
  rfl

theorem nil :
    Undivided [] := by
  intro u
  rw [List.nil_append]
  cases cut? ['.', '.'] u with
  | none =>
      rfl
  | some p =>
      rfl

theorem of_not_mem
    (hNone : '.' ∉ s) :
    Undivided s := by
  induction s with
  | nil =>
      exact nil
  | cons c s ih =>
      rw [List.mem_cons, not_or] at hNone
      apply cons _ (ih hNone.2)
      intro u hPrefix
      rw [List.cons_prefix_cons] at hPrefix
      exact hNone.1 hPrefix.1

/- A text without separators that does not end in a point. -/
theorem of_not_infix
    (hNone : ¬ ['.', '.'] <:+: s)
    (hEnd : s.getLast? ≠ some '.') :
    Undivided s := by
  induction s with
  | nil =>
      exact nil
  | cons c s ih =>
      rw [List.infix_cons_iff, not_or] at hNone
      cases s with
      | nil =>
          apply cons _ nil
          intro u hPrefix
          rw [List.cons_prefix_cons] at hPrefix
          exact hEnd (congrArg some hPrefix.1.symm)
      | cons b s =>
          rw [List.getLast?_cons_cons] at hEnd
          apply cons _ (ih hNone.2 hEnd)
          -- the separator would stand at the front of the text
          intro u hPrefix
          apply hNone.1
          simpa using hPrefix

end Undivided

end EmojiQuery

------------------------------------------------------------
-- Bounds and Ranges
------------------------------------------------------------

namespace EmojiQuery

namespace Interval

variable {α : Type}
variable {read : List Char → Option α}
variable {lower upper : String}
variable {a b : α}

/- A text is read as a bound, and holds no separator. -/
structure WritesBound
    (read : List Char → Option α)
    (s : String)
    (a : α) : Prop where
  undivided : Undivided s.toList
  ne_nil : s.toList ≠ []
  read_eq : read s.toList = some a

theorem WritesBound.readBound_eq
    (hWrites : WritesBound read lower a)
    (raw : String) :
    readBound read raw lower.toList = .ok a := by
  have hNonempty : lower.toList.isEmpty = false := by
    simpa using hWrites.ne_nil
  rw [readBound, hNonempty, hWrites.read_eq]
  rfl

/- A text without separators is one bound. -/
theorem bounds?_single
    (hUndivided : Undivided lower.toList) :
    bounds? lower = none := by
  have hCut := hUndivided []
  rw [List.append_nil] at hCut
  rw [bounds?, hCut]
  rfl

/- Two texts are found on both sides of the first separator. -/
theorem bounds?_pair
    (hUndivided : Undivided lower.toList)
    (upper : String) :
    bounds? (lower ++ ".." ++ upper) =
      some (lower.toList, upper.toList) := by
  have hText :
      (lower ++ ".." ++ upper).toList =
        lower.toList ++ '.' :: '.' :: upper.toList := by
    simp
  rw [bounds?, hText, hUndivided]
  simp [cut?]

variable [LT α] [DecidableLT α]

/- One bound is read as both. -/
theorem parse_single
    (hWrites : WritesBound read lower a) :
    parse read lower = between lower a a := by
  unfold parse
  rw [bounds?_single hWrites.undivided]
  simp only [Option.getD_none, hWrites.readBound_eq, bind,
    Except.bind]

/- Two bounds are read one after the other. -/
theorem parse_pair
    (hLower : WritesBound read lower a)
    (hUpper : WritesBound read upper b) :
    parse read (lower ++ ".." ++ upper) =
      between (lower ++ ".." ++ upper) a b := by
  unfold parse
  rw [bounds?_pair hLower.undivided]
  simp only [Option.getD_some, hLower.readBound_eq,
    hUpper.readBound_eq, bind, Except.bind]

/- Where both bounds are written, none is left to be assumed. -/
theorem parseFrom_pair
    (assumed : α)
    (hLower : WritesBound read lower a)
    (hUpper : WritesBound read upper b) :
    parseFrom read assumed (lower ++ ".." ++ upper) =
      between (lower ++ ".." ++ upper) a b := by
  rw [parseFrom, bounds?_pair hLower.undivided,
    if_pos Option.isSome_some, parse_pair hLower hUpper]

end Interval

end EmojiQuery

------------------------------------------------------------
-- Ranges as Values of Clauses
------------------------------------------------------------

namespace EmojiQuery

namespace Clause.Span

/- A text of visible characters above the quote is one value. -/
theorem isPlain_of_graphic
    {s : List Char}
    (hNonempty : s ≠ [])
    (hChars : ∀ c ∈ s, 35 ≤ c.toNat ∧ c.toNat ≤ 126) :
    IsPlain s := by
  refine ⟨hNonempty, ?_, ?_⟩
  · intro c hMember
    have hBounds := hChars c hMember
    simp only [Unicode.isBlank, Bool.or_eq_false_iff,
      Bool.and_eq_false_iff, decide_eq_false_iff_not]
    omega
  · intro hHead
    have hQuote := hChars _ (List.mem_of_head? hHead)
    exact absurd hQuote (by decide)

end Clause.Span

end EmojiQuery
