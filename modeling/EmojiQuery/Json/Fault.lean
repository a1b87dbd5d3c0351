/-
  This file classifies what can be wrong with a JSON text and
  holds the monad in which JSON is read: bytes are taken from
  the front, and the first fault ends the reading.

  Key definitions include:
    * `Json.Fault`
    * `Json.Reader`
    * `Json.token`
-/

namespace EmojiQuery.Json

/- What is wrong with a JSON text. -/
inductive Fault where
/- The text ends inside a value. -/
| ending
/- The text is not JSON. -/
| grammar
/- The text is JSON of the wrong shape. -/
| shape
/- The text could not be obtained. -/
| source
deriving DecidableEq, Repr

/- A reader of a value from the front of the remaining bytes. -/
abbrev Reader (α : Type) :=
  StateT (List UInt8) (Except Fault) α

/- The byte of an ASCII character. -/
def byte
    (c : Char) : UInt8 :=
  .ofNat c.toNat

/- Whether a byte may stand between tokens. -/
def isBlank
    (b : UInt8) : Bool :=
  b = 0x20 || b = 0x0A || b = 0x09 || b = 0x0D

/- Drop blanks. -/
def skipBlanks :
    List UInt8 → List UInt8
| [] => []
| b :: bs => if isBlank b then skipBlanks bs else b :: bs

/- Drop blanks and look at the first byte that is left. -/
def token : Reader (Option UInt8) :=
  fun s =>
    let s := skipBlanks s
    .ok (s.head?, s)

/- Drop one byte. -/
def advance : Reader Unit :=
  modify List.tail

end EmojiQuery.Json
