import EmojiQuery.Number.Numeral
import EmojiQuery.Unicode.Printable

/-
  This file quotes text for messages. Quotes, backslashes and
  the usual controls get a backslash, and every other
  character without a visible form of its own is written as
  its number in braces.

  Key definitions include:
    * `quoteChar`
    * `quote`
-/

namespace EmojiQuery

/- One character inside quotes. -/
def quoteChar
    (c : Char) : List Char :=
  match c with
  | '\x00' => ['\\', '0']
  | '\t' => ['\\', 't']
  | '\r' => ['\\', 'r']
  | '\n' => ['\\', 'n']
  | '\\' => ['\\', '\\']
  | '"' => ['\\', '"']
  | _ =>
      if Unicode.isPrintable c then
        [c]
      else
        ['\\', 'u', '\x7b'] ++ Numeral.write 16 c.toNat ++ ['\x7d']

/- A text in double quotes. -/
def quote
    (s : String) : String :=
  String.ofList ('"' :: s.toList.flatMap quoteChar ++ ['"'])

end EmojiQuery
