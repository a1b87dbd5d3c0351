/-
  This file spells text in UTF-8 and looks for one sequence of
  bytes inside another.

  Key definitions include:
    * `utf8`
    * `ofUtf8?`
    * `occursIn`
-/

namespace EmojiQuery

/- The bytes of a text. -/
def utf8
    (s : String) : List UInt8 :=
  s.toList.flatMap String.utf8EncodeChar

/- The text that bytes spell. -/
def ofUtf8?
    (bs : List UInt8) : Option String :=
  String.fromUTF8? ⟨bs.toArray⟩

/- Whether a list stands somewhere inside another without gaps. -/
def occursIn
    {α : Type}
    [BEq α]
    (needle : List α) :
    List α → Bool
| [] => needle.isEmpty
| b :: bs => needle.isPrefixOf (b :: bs) || occursIn needle bs

end EmojiQuery
