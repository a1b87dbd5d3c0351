import EmojiQuery.Unicode.CodepointSet
import EmojiQuery.Unicode.CaseTable

/-
  This file closes sets of code points under simple case
  folding, over all of Unicode and over ASCII alone.

  Key definitions include:
    * `caseOrbits`
    * `CodepointSet.foldCase`
    * `CodepointSet.foldAsciiCase`
-/

namespace EmojiQuery

namespace Unicode

/- The numbers of one class in the table. -/
def orbitOfText
    (text : List Char) : List Nat :=
  (text.splitOn ' ').map fun word =>
    word.foldl
      (fun n c => 16 * n + CodepointSet.hexDigit c)
      0

/- The classes of code points that fold to the same code point. -/
def caseOrbits : List (List Nat) :=
  caseOrbitLines.flatMap fun line =>
    (line.toList.splitOn ';').map orbitOfText

end Unicode

namespace CodepointSet

/- Add every code point that folds like a member. -/
def foldCase
    (s : CodepointSet) : CodepointSet :=
  let touched :=
    Unicode.caseOrbits.filter fun orbit => orbit.any s.contains
  ofRanges
    (s.ranges ++ touched.flatten.map fun n => (n, n))

/- The ASCII letters of one case that lie in a range, moved by `shift`. -/
def shiftLetters
    (first last : Nat)
    (move : Nat → Nat)
    (r : Nat × Nat) : List (Nat × Nat) :=
  let lo := max r.1 first
  let hi := min r.2 last
  if lo ≤ hi then [(move lo, move hi)] else []

/- Add the other case of every ASCII letter among the members. -/
def foldAsciiCase
    (s : CodepointSet) : CodepointSet :=
  ofRanges
    (s.ranges ++
      s.ranges.flatMap (shiftLetters 0x41 0x5A (· + 32)) ++
      s.ranges.flatMap (shiftLetters 0x61 0x7A (· - 32)))

end CodepointSet

end EmojiQuery
