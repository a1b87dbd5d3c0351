/-
  This file defines sets of code points as ascending lists of
  closed ranges, with the Boolean operations on them and a
  reader for the written form in which the tables of this
  library are kept.

  Key definitions include:
    * `CodepointSet`
    * `CodepointSet.contains`
    * `CodepointSet.ofRanges`
    * `CodepointSet.union`
    * `CodepointSet.complement`
    * `CodepointSet.inter`
    * `CodepointSet.diff`
    * `CodepointSet.symmDiff`
    * `CodepointSet.ofText`
-/

namespace EmojiQuery

/-
  A set of code points, as closed ranges that ascend and
  leave at least one code point between neighbours.
-/
structure CodepointSet where
  ranges : List (Nat × Nat)
deriving DecidableEq, Repr

namespace CodepointSet

------------------------------------------------------------
-- Membership
------------------------------------------------------------

/- The greatest code point. -/
def top : Nat :=
  0x10FFFF

/- The set without members. -/
def empty : CodepointSet :=
  ⟨[]⟩

/- The set of all code points. -/
def full : CodepointSet :=
  ⟨[(0, top)]⟩

/- The closed range from `lo` to `hi`. -/
def range
    (lo hi : Nat) : CodepointSet :=
  ⟨[(lo, hi)]⟩

/- The set with one member. -/
def single
    (n : Nat) : CodepointSet :=
  range n n

/-
  Membership in ascending ranges. The search stops at the
  first range that starts after `n`.
-/
def rangesContain
    (n : Nat) :
    List (Nat × Nat) → Bool
| [] => false
| (lo, hi) :: rest =>
    if n < lo then
      false
    else if n ≤ hi then
      true
    else
      rangesContain n rest

/- Membership of a code point. -/
def contains
    (s : CodepointSet)
    (n : Nat) : Bool :=
  rangesContain n s.ranges

/- Whether the set has no members. -/
def isEmpty
    (s : CodepointSet) : Bool :=
  s.ranges.isEmpty

/- Whether every member is an ASCII code point. -/
def isAscii
    (s : CodepointSet) : Bool :=
  s.ranges.all fun r => r.2 < 0x80

theorem contains_range
    (lo hi n : Nat) :
    (range lo hi).contains n = true ↔ lo ≤ n ∧ n ≤ hi := by
  simp [range, contains, rangesContain]

theorem contains_single
    (m n : Nat) :
    (single m).contains n = true ↔ n = m := by
  rw [single, contains_range]
  omega

------------------------------------------------------------
-- Construction
------------------------------------------------------------

/-
  Join neighbouring ranges that overlap or touch, in a list
  that ascends by lower ends.
-/
def fuse :
    List (Nat × Nat) → List (Nat × Nat)
| [] => []
| [r] => [r]
| (a, b) :: (c, d) :: rest =>
    if c ≤ b + 1 then
      fuse ((a, max b d) :: rest)
    else
      (a, b) :: fuse ((c, d) :: rest)
termination_by rs => rs.length

/- The set covered by ranges in any order. -/
def ofRanges
    (rs : List (Nat × Nat)) : CodepointSet :=
  ⟨fuse (rs.mergeSort fun p q => p.1 ≤ q.1)⟩

/- The members of either set. -/
def union
    (s t : CodepointSet) : CodepointSet :=
  ofRanges (s.ranges ++ t.ranges)

/- The union of a list of sets. -/
def unions
    (ss : List CodepointSet) : CodepointSet :=
  ofRanges (ss.flatMap ranges)

/-
  The ranges between ascending ranges, from `n` up to the
  greatest code point.
-/
def gaps :
    Nat → List (Nat × Nat) → List (Nat × Nat)
| n, [] => if n ≤ top then [(n, top)] else []
| n, (lo, hi) :: rest =>
    if n < lo then
      (n, lo - 1) :: gaps (hi + 1) rest
    else
      gaps (hi + 1) rest

/- The code points that are not members. -/
def complement
    (s : CodepointSet) : CodepointSet :=
  ⟨gaps 0 s.ranges⟩

/- The members of both sets. -/
def inter
    (s t : CodepointSet) : CodepointSet :=
  (s.complement.union t.complement).complement

/- The members of the first set alone. -/
def diff
    (s t : CodepointSet) : CodepointSet :=
  s.inter t.complement

/- The members of exactly one of the sets. -/
def symmDiff
    (s t : CodepointSet) : CodepointSet :=
  (s.union t).diff (s.inter t)

/- Complement the set if the flag asks for it. -/
def negateIf
    (negated : Bool)
    (s : CodepointSet) : CodepointSet :=
  if negated then s.complement else s

------------------------------------------------------------
-- Written form
------------------------------------------------------------

/- The value of a lower-case hexadecimal digit. -/
def hexDigit
    (c : Char) : Nat :=
  if c.isDigit then c.toNat - '0'.toNat else c.toNat - 'a'.toNat + 10

/-
  A reader's state inside one line of a table: the ranges
  read so far, the lower end before a hyphen, and the number
  being read.
-/
structure TextState where
  done : List (Nat × Nat)
  lower : Option Nat
  number : Nat

namespace TextState

/- Close the range being read. -/
def close
    (st : TextState) : List (Nat × Nat) :=
  (st.lower.getD st.number, st.number) :: st.done

/- Take one character of a line. -/
def step
    (st : TextState)
    (c : Char) : TextState :=
  if c = ' ' then
    ⟨st.close, none, 0⟩
  else if c = '-' then
    { st with lower := some st.number, number := 0 }
  else
    { st with number := 16 * st.number + hexDigit c }

end TextState

/-
  The ranges of one line: hexadecimal code points `c` and
  ranges `a-b`, separated by single spaces.
-/
def rangesOfLine
    (line : String) : List (Nat × Nat) :=
  (line.foldl TextState.step ⟨[], none, 0⟩).close

/- The set written in the lines of a table. -/
def ofText
    (lines : List String) : CodepointSet :=
  ofRanges (lines.flatMap rangesOfLine)

end CodepointSet

end EmojiQuery
