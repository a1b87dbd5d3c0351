import EmojiQuery.Pattern.Basic
import EmojiQuery.Unicode.Blank
import EmojiQuery.Unicode.CaseFold

/-
  This file defines the options under which a place in a
  pattern is read, and the ways of stepping over text that
  they decide: in verbose patterns blanks and comments may
  stand between the parts.

  Key definitions include:
    * `Mode`
    * `Mode.fold`
    * `Mode.foldAndNegate`
    * `Mode.skip`
    * `Mode.takeRun`
-/

namespace EmojiQuery

/- The options in force at a place in a pattern. -/
structure Mode where
  ignoreCase : Bool := false
  multiLine : Bool := false
  dotAll : Bool := false
  crlf : Bool := false
  unicode : Bool := true
  verbose : Bool := false
deriving DecidableEq, Repr

namespace Mode

------------------------------------------------------------
-- Options
------------------------------------------------------------

/-
  Switch the option with a given letter. The letter `U`, which
  only prefers shorter matches, changes nothing here.
-/
def switch
    (mode : Mode)
    (on : Bool) :
    Char → Option Mode
| 'i' => some { mode with ignoreCase := on }
| 'm' => some { mode with multiLine := on }
| 's' => some { mode with dotAll := on }
| 'R' => some { mode with crlf := on }
| 'u' => some { mode with unicode := on }
| 'x' => some { mode with verbose := on }
| 'U' => some mode
| _ => none

/- Which characters words are made of. -/
def scope
    (mode : Mode) : WordScope :=
  if mode.unicode then .unicode else .ascii

/- Close a set under case folding, if case is ignored. -/
def fold
    (mode : Mode)
    (s : CodepointSet) : CodepointSet :=
  if !mode.ignoreCase then
    s
  else if mode.unicode then
    s.foldCase
  else
    s.foldAsciiCase

/-
  Fold a set and then complement it if asked to. Without
  Unicode a complement would admit single bytes outside
  ASCII, and is refused.
-/
def foldAndNegate
    (mode : Mode)
    (negated : Bool)
    (s : CodepointSet) :
    Option CodepointSet :=
  if mode.unicode then
    some ((mode.fold s).negateIf negated)
  else if negated then
    none
  else
    some (mode.fold s)

------------------------------------------------------------
-- Stepping over text
------------------------------------------------------------

/- Drop blanks and comments. -/
def dropComments :
    Bool → List Char → List Char
| _, [] => []
| true, c :: t => dropComments (c ≠ '\n') t
| false, c :: t =>
    if Unicode.isBlank c then
      dropComments false t
    else if c = '#' then
      dropComments true t
    else
      c :: t

/- Drop what a verbose pattern ignores. -/
def skip
    (mode : Mode)
    (s : List Char) : List Char :=
  if mode.verbose then dropComments false s else s

/-
  The next character that counts, seen from inside brackets. A
  comment sign is looked past, but the comment is not.
-/
def peekPast
    (mode : Mode)
    (s : List Char) : Option Char :=
  if mode.verbose then
    match s.dropWhile Unicode.isBlank with
    | '#' :: t =>
        (t.dropWhile Unicode.isBlank).head?.or s.head?
    | c :: _ => some c
    | [] => s.head?
  else
    s.head?

/- Take accepted characters, at most `n`, skipping after each. -/
def takeAtMost
    (mode : Mode)
    (accept : Char → Bool) :
    Nat → List Char → List Char × List Char
| 0, s => ([], s)
| _ + 1, [] => ([], [])
| n + 1, c :: t =>
    if accept c then
      let (taken, rest) := takeAtMost mode accept n (mode.skip t)
      (c :: taken, rest)
    else
      ([], c :: t)

/- Take the longest run of accepted characters. -/
def takeRun
    (mode : Mode)
    (accept : Char → Bool)
    (s : List Char) : List Char × List Char :=
  takeAtMost mode accept s.length s

end Mode

end EmojiQuery
