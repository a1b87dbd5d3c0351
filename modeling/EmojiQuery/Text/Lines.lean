/-
  This file splits text into lines. A line ends with a line
  feed, and a carriage return before it does not belong to the
  line.

  Key definitions include:
    * `lines`
-/

namespace EmojiQuery

/- Drop a carriage return at the end. -/
def dropReturn
    (s : List Char) : List Char :=
  if s.getLast? = some '\r' then s.dropLast else s

/-
  The lines of a text. What follows the last line feed is a
  line if there is anything.
-/
def lines
    (s : List Char) : List (List Char) :=
  let parts := s.splitOn '\n'
  parts.dropLast.map dropReturn ++
    (parts.getLast?.toList.filter fun last => !last.isEmpty)

end EmojiQuery
