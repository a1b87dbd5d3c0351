import EmojiQuery.Dataset.Summary
import EmojiQuery.Query.Basic

/-
  This file lists what queries find, and how many sequences
  are shown on each level, line by line.

  Key definitions include:
    * `Record.line`
    * `Results.listing`
    * `LevelSummary.line`
-/

namespace EmojiQuery

/- A record: its text, code points, first level and notes. -/
def Record.line
    (r : Record) : List Char :=
  r.text.toList ++
    '\t' :: r.label.toList ++
    '\t' :: "added ".toList ++ r.introduced?.elim ['-'] Level.text ++
    '\t' :: r.notes.toList

/-
  The results of a query: the levels shown, the first records
  up to a limit, how many more there are, and how many there
  are in all.
-/
def Results.listing
    (limit : Nat)
    (r : Results) : List (List Char) :=
  ("api levels: ".toList ++
    [' '].intercalate (r.levels.map Level.text)) ::
  (r.found.take limit).map (fun m => m.record.line) ++
  (if limit < r.count then
    ["... ".toList ++ Numeral.write 10 (r.count - limit) ++
      " more".toList]
  else
    []) ++
  [Numeral.write 10 r.count ++ " results".toList]

/- A number with its sign, which is never left out. -/
def signed
    (i : Int) : List Char :=
  (if i < 0 then '-' else '+') :: Numeral.write 10 i.natAbs

/- A row of the summary, in columns that are flush right. -/
def LevelSummary.line
    (s : LevelSummary) : List Char :=
  "api ".toList ++ s.level.text.leftpad 3 ' ' ++
    "  ".toList ++ (Numeral.write 10 s.supported).leftpad 5 ' ' ++
    " supported  ".toList ++ (signed s.change).leftpad 6 ' '

end EmojiQuery
