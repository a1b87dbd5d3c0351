import EmojiQuery.Proofs.Query.Meaning
import EmojiQuery.Proofs.Query.Ranges

/-
  Ranges of integers and of real numbers alike. What is read as
  a range is not empty, for no bound is read as a NaN. An upper
  bound that is assumed is not read, and must be a number for
  this to hold.

  Main declarations:
    * `BoundKind`
    * `BoundKind.not_lt_iff_le`
    * `Interval.Proper`
    * `BoundKind.proper_iff_of_parse`
-/

------------------------------------------------------------
-- Kinds of Bounds
------------------------------------------------------------

namespace EmojiQuery

/- The bounds of a range are integers, or they are real numbers. -/
inductive BoundKind where
| integer (radix : Radix)
| real

namespace BoundKind

/- What bounds of a kind are. -/
def Value :
    BoundKind → Type
| .integer _ => Int64
| .real => Binary64

instance (k : BoundKind) : LE k.Value :=
  match k with
  | .integer _ => inferInstanceAs (LE Int64)
  | .real => inferInstanceAs (LE Binary64)

instance (k : BoundKind) : LT k.Value :=
  match k with
  | .integer _ => inferInstanceAs (LT Int64)
  | .real => inferInstanceAs (LT Binary64)

instance (k : BoundKind) : DecidableLE k.Value :=
  match k with
  | .integer _ => inferInstanceAs (DecidableLE Int64)
  | .real => inferInstanceAs (DecidableLE Binary64)

instance (k : BoundKind) : DecidableLT k.Value :=
  match k with
  | .integer _ => inferInstanceAs (DecidableLT Int64)
  | .real => inferInstanceAs (DecidableLT Binary64)

/- How a bound is read. -/
def read :
    (k : BoundKind) → List Char → Option k.Value
| .integer radix => radix.read
| .real => readRealBound?

/- Every integer is a number, and every real one but the NaNs. -/
def IsNumber :
    (k : BoundKind) → k.Value → Prop
| .integer _, _ => True
| .real, x => Binary64.isNaN x = false

variable {k : BoundKind}
variable {a b c : k.Value}

/- What is read is a number. -/
theorem isNumber_of_read
    {part : List Char}
    (hRead : k.read part = some a) :
    k.IsNumber a := by
  cases k with
  | integer radix =>
      trivial
  | real =>
      have hFilter := (Option.filter_eq_some_iff.mp hRead).2
      rw [Bool.not_eq_true'] at hFilter
      exact hFilter

/- Numbers that are compared are numbers. -/
theorem isNumber_of_le
    (hLe : a ≤ b) :
    k.IsNumber a ∧ k.IsNumber b := by
  cases k with
  | integer radix =>
      exact ⟨trivial, trivial⟩
  | real =>
      exact ⟨hLe.1, hLe.2.1⟩

/- Between numbers the order is total. -/
theorem not_lt_iff_le
    (hLeft : k.IsNumber a)
    (hRight : k.IsNumber b) :
    ¬ b < a ↔ a ≤ b := by
  cases k with
  | integer radix =>
      exact Int64.not_lt
  | real =>
      exact ⟨Binary64.le_of_not_lt hRight hLeft,
        Binary64.not_lt_of_le⟩

theorem le_self
    (hNumber : k.IsNumber a) :
    a ≤ a := by
  cases k with
  | integer radix =>
      exact Int64.le_refl a
  | real =>
      exact Binary64.le_refl_of_number hNumber

protected theorem le_trans
    (hLeft : a ≤ b)
    (hRight : b ≤ c) :
    a ≤ c := by
  cases k with
  | integer radix =>
      exact Int64.le_trans hLeft hRight
  | real =>
      exact Binary64.le_trans hLeft hRight

end BoundKind

end EmojiQuery

------------------------------------------------------------
-- Ranges That Are Read
------------------------------------------------------------

namespace EmojiQuery

namespace Interval

/- The bounds of a range are in order, and belong to it. -/
structure Proper
    {α : Type}
    [LE α]
    [DecidableLE α]
    (r : Interval α) : Prop where
  lower_le_upper : r.lower ≤ r.upper
  contains_lower : r.contains r.lower = true
  contains_upper : r.contains r.upper = true

variable {α : Type}
variable [LT α] [DecidableLT α]
variable {read : List Char → Option α}
variable {raw : String}

/- Every text has two parts, which may be the same. -/
theorem exists_isSplit
    (s : List Char) :
    ∃ lower upper, IsSplit s lower upper := by
  rcases hParts : (cut? ['.', '.'] s).getD (s, s) with
    ⟨lower, upper⟩
  exact ⟨lower, upper, (isSplit_iff s lower upper).mpr hParts⟩

theorem bounds?_eq_none_iff
    (raw : String) :
    bounds? raw = none ↔ ¬ ['.', '.'] <:+: raw.toList :=
  cut?_eq_none_iff (List.cons_ne_nil _ _)

/- Where both bounds are written, none is assumed. -/
theorem parseFrom_of_infix
    (read : List Char → Option α)
    (assumed : α)
    (hSeparator : ['.', '.'] <:+: raw.toList) :
    parseFrom read assumed raw = parse read raw := by
  have hSome : (bounds? raw).isSome = true := by
    rw [Option.isSome_iff_ne_none, ne_eq, bounds?_eq_none_iff,
      not_not]
    exact hSeparator
  rw [parseFrom, if_pos hSome]

/- Where one bound is written, the other is assumed. -/
theorem parseFrom_of_not_infix
    (read : List Char → Option α)
    (assumed : α)
    (hSingle : ¬ ['.', '.'] <:+: raw.toList) :
    parseFrom read assumed raw =
      readBound read raw raw.toList >>= fun lower =>
        between raw lower assumed := by
  rw [parseFrom, (bounds?_eq_none_iff raw).mpr hSingle]
  rfl

end Interval

namespace BoundKind

variable {k : BoundKind}
variable {r : Interval k.Value}
variable {raw : String}

/- Nothing is read from the empty text. -/
theorem ne_nil_of_read
    {part : List Char}
    {a : k.Value}
    (hRead : k.read part = some a) :
    part ≠ [] := by
  rintro rfl
  cases k with
  | integer radix =>
      cases radix with
      | decimal => cases hRead
      | hexadecimal => cases hRead
  | real =>
      have hNone : readRealBound? [] = none := by
        decide +kernel
      cases hNone.symm.trans hRead

theorem read_eq_some_iff_ne_nil_and
    (k : BoundKind)
    (part : List Char)
    (a : k.Value) :
    k.read part = some a ↔ part ≠ [] ∧ k.read part = some a :=
  ⟨fun hRead => ⟨ne_nil_of_read hRead, hRead⟩, And.right⟩

/- A range is read from two bounds that are in order. -/
theorem parse_eq_ok_iff
    {lower upper : List Char}
    (hSplit : Interval.IsSplit raw.toList lower upper) :
    Interval.parse k.read raw = .ok r ↔
      k.read lower = some r.lower ∧ k.read upper = some r.upper ∧
        r.lower ≤ r.upper := by
  rw [Interval.parse_eq_ok_iff k.read_eq_some_iff_ne_nil_and hSplit]
  apply and_congr_right
  intro hLower
  apply and_congr_right
  intro hUpper
  exact not_lt_iff_le (isNumber_of_read hLower)
    (isNumber_of_read hUpper)

/- Bounds in order make a range that has both of them. -/
theorem proper_of_le
    (hOrder : r.lower ≤ r.upper) :
    r.Proper := by
  rcases isNumber_of_le hOrder with ⟨hLower, hUpper⟩
  refine ⟨hOrder, ?_, ?_⟩
  · rw [Interval.contains_iff]
    exact ⟨le_self hLower, hOrder⟩
  · rw [Interval.contains_iff]
    exact ⟨hOrder, le_self hUpper⟩

theorem proper_of_parse
    (hParse : Interval.parse k.read raw = .ok r) :
    r.Proper := by
  rcases Interval.exists_isSplit raw.toList with
    ⟨lower, upper, hSplit⟩
  exact proper_of_le ((parse_eq_ok_iff hSplit).mp hParse).2.2

/-
  A range that is read has its bounds in order, and both of them
  belong to it, unless its upper bound was assumed and is a NaN.
  What lies between members of a range is one too, and a NaN
  belongs to no range.
-/
theorem proper_iff_of_parse
    (k : BoundKind)
    (raw : String) :
    (∀ r, Interval.parse k.read raw = .ok r → r.Proper) ∧
      (∀ assumed r,
        Interval.parseFrom k.read assumed raw = .ok r →
          (r.Proper ↔
            k.IsNumber assumed ∨ ['.', '.'] <:+: raw.toList)) ∧
      (∀ (r : Interval k.Value) (x y z : k.Value),
        x ≤ y → y ≤ z →
          r.contains x = true → r.contains z = true →
            r.contains y = true) ∧
      ∀ (r : Interval k.Value) (x : k.Value),
        ¬ k.IsNumber x → r.contains x = false := by
  refine ⟨fun r => proper_of_parse, ?_, ?_, ?_⟩
  · intro assumed r hParse
    by_cases hSeparator : ['.', '.'] <:+: raw.toList
    · rw [Interval.parseFrom_of_infix _ _ hSeparator] at hParse
      exact iff_of_true (proper_of_parse hParse) (.inr hSeparator)
    · rw [Interval.parseFrom_of_not_infix _ _ hSeparator] at hParse
      rcases (bind_eq_ok_iff _ _ _).mp hParse with
        ⟨lower, hBound, hBetween⟩
      rcases (Interval.between_eq_ok_iff _ _ _).mp hBetween with
        ⟨hOrder, rfl⟩
      have hRead :=
        (Interval.readBound_eq_ok_iff k.read_eq_some_iff_ne_nil_and
          lower).mp hBound
      have hLower := isNumber_of_read hRead
      constructor
      · intro hProper
        exact .inl (isNumber_of_le hProper.lower_le_upper).2
      · rintro (hUpper | hInfix)
        · exact proper_of_le ((not_lt_iff_le hLower hUpper).mp hOrder)
        · exact absurd hInfix hSeparator
  · intro r x y z hLower hUpper hFirst hLast
    rw [Interval.contains_iff] at hFirst hLast ⊢
    exact ⟨BoundKind.le_trans hFirst.1 hLower,
      BoundKind.le_trans hUpper hLast.2⟩
  · intro r x hNaN
    rw [Bool.eq_false_iff, ne_eq, Interval.contains_iff]
    intro hMember
    exact hNaN (isNumber_of_le hMember.1).2

/- A lower bound of one half, with one as the assumed upper bound. -/
theorem proper_iff_of_parse_half :
    let k := BoundKind.real
    let r : Interval Binary64 := ⟨⟨0x3FE0000000000000⟩, .one⟩
    Interval.parseFrom k.read Binary64.one "0.5" = .ok r ∧
      k.IsNumber Binary64.one ∧ r.Proper := by
  intro k r
  have hParse :
      Interval.parseFrom readRealBound? .one "0.5" = .ok r := by
    decide +kernel
  have hNumber : k.IsNumber Binary64.one := by
    change Binary64.isNaN .one = false
    decide
  exact ⟨hParse, hNumber,
    ((proper_iff_of_parse k "0.5").2.1 .one r hParse).mpr
      (.inl hNumber)⟩

/- With a NaN in its place the range is read, but has no number. -/
theorem empty_of_assumed_nan :
    let r : Interval Binary64 := ⟨⟨0x3FE0000000000000⟩, .nan⟩
    Interval.parseFrom readRealBound? .nan "0.5" = .ok r ∧
      ¬ r.lower ≤ r.upper ∧ ∀ x, r.contains x = false := by
  intro r
  refine ⟨by decide +kernel, by decide, ?_⟩
  intro x
  rw [Bool.eq_false_iff, ne_eq, Interval.contains_iff]
  intro hMember
  exact absurd hMember.2.2.1 (by decide)

end BoundKind

end EmojiQuery
