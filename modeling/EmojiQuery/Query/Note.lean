import EmojiQuery.Pattern.Footprint
import EmojiQuery.Search.Error
import EmojiQuery.Text.Utf8

/-
  This file defines tests of notes. A value between slashes is
  a pattern, any other value a text to be found; quotes around
  either are dropped first. What is enclosed is what the groups
  of the patterns `^"([^"]+)"$` and `^/([^/]+)/$` take, as
  `NoteTest.groups?_enclosing` states.

  Key definitions include:
    * `NoteTest`
    * `NoteTest.enclosed?`
    * `NoteTest.parse`
    * `NoteTest.accepts`
-/

namespace EmojiQuery

/- A test of notes. -/
inductive NoteTest where
/- The notes hold a text. -/
| holds (text : String)
/- A pattern matches somewhere in the notes. -/
| matching (pattern : Pattern)
deriving Repr

namespace NoteTest

/-
  What stands between a delimiter at the start and one at the
  end, if it is not empty and holds no delimiter itself.
-/
def enclosed?
    (delimiter : Char) :
    List Char → Option (List Char)
| [] => none
| c :: s =>
    let inner := s.takeWhile (· ≠ delimiter)
    if c = delimiter && !inner.isEmpty &&
        s.drop inner.length = [delimiter] then
      some inner
    else
      none

/- The test that a value describes. -/
def parse
    (raw : String) : Except SearchError NoteTest :=
  let value := (enclosed? '"' raw.toList).getD raw.toList
  match enclosed? '/' value with
  | none => .ok (.holds (String.ofList value))
  | some text =>
      match Pattern.compile? (String.ofList text) with
      | some p => .ok (.matching p)
      | none => .error (.malformedPattern (String.ofList text))

/- Whether notes pass the test. Texts are looked for as bytes. -/
def accepts
    (notes : String) :
    NoteTest → Bool
| .holds text => occursIn (utf8 text) (utf8 notes)
| .matching p => p.found notes

end NoteTest

end EmojiQuery
