import EmojiQuery.Json.Scalar

/-
  This file steps over JSON values of no interest. Only their
  grammar is checked: strings need not be text, numbers may
  have any size, and brackets may be nested to any depth.

  Key definitions include:
    * `Json.skipString`
    * `Json.skipNumber`
    * `Json.skipValue`
-/

namespace EmojiQuery.Json

------------------------------------------------------------
-- Scalars
------------------------------------------------------------

/- Step over what follows a backslash. -/
def skipEscape :
    List UInt8 → Except Fault (List UInt8)
| [] => .error .ending
| b :: s =>
    if b = byte 'u' then
      (readUnit s).map Prod.snd
    else if (escapeLetter? b).isSome then
      .ok s
    else
      .error .grammar

/-
  Step over the rest of a string after its opening quote. Each
  round takes at least one byte, so the bytes themselves can
  count the rounds.
-/
def skipStringBytes :
    List UInt8 → List UInt8 → Except Fault (List UInt8)
| _, [] => .error .ending
| [], _ :: _ => .error .ending
| _ :: rounds, b :: s =>
    if b = byte '"' then
      .ok s
    else if b = byte '\\' then
      (skipEscape s).bind (skipStringBytes rounds)
    else if b < 0x20 then
      .error .grammar
    else
      skipStringBytes rounds s

/- Step over the rest of a string after its opening quote. -/
def skipString
    (s : List UInt8) : Except Fault (List UInt8) :=
  skipStringBytes s s

/- Step over one or more digits. -/
def skipDigits
    (s : List UInt8) : Except Fault (List UInt8) :=
  if s.head?.any isDigit then .ok (dropDigits s) else .error .grammar

/- Step over an exponent after its letter. -/
def skipExponent
    (s : List UInt8) : Except Fault (List UInt8) :=
  match s with
  | b :: t =>
      if b = byte '+' || b = byte '-' then
        skipDigits t
      else
        skipDigits s
  | [] => .error .grammar

/- Step over an exponent if one follows. -/
def skipTail
    (s : List UInt8) : Except Fault (List UInt8) :=
  match s with
  | b :: t =>
      if b = byte 'e' || b = byte 'E' then skipExponent t else .ok s
  | [] => .ok s

/- Step over what follows the integer part of a number. -/
def skipReal
    (s : List UInt8) : Except Fault (List UInt8) :=
  match s with
  | b :: t =>
      if b = byte '.' then
        (skipDigits t).bind skipTail
      else
        skipTail s
  | [] => .ok s

/- Step over a number after its sign. -/
def skipNumber :
    List UInt8 → Except Fault (List UInt8)
| [] => .error .grammar
| b :: s =>
    if b = byte '0' then
      if s.head?.any isDigit then .error .grammar else skipReal s
    else if isDigit b then
      skipReal (dropDigits s)
    else
      .error .grammar

------------------------------------------------------------
-- Values
------------------------------------------------------------

/- A bracket that is open. -/
inductive Bracket where
| list
| object
deriving DecidableEq, Repr

/- The byte that closes a bracket. -/
def Bracket.closing :
    Bracket → UInt8
| .list => byte ']'
| .object => byte '\x7d'

/- What is expected next. -/
inductive Expected where
/- A value. -/
| value
/- The first item of the innermost bracket, or its end. -/
| first
/- The next item of the innermost bracket. -/
| item
/- A comma or the end of the innermost bracket. -/
| next
deriving DecidableEq, Repr

/-
  A place inside a value: what is expected, the brackets that
  are open, innermost first, and the remaining bytes.
-/
structure Place where
  expected : Expected
  outer : List Bracket
  rest : List UInt8

/-
  Step over the value that starts with the byte `b`, or only
  over its opening bracket.
-/
def skipStart
    (outer : List Bracket)
    (b : UInt8)
    (s : List UInt8) : Except Fault Place :=
  let after (r : Except Fault (List UInt8)) : Except Fault Place :=
    r.map fun s => ⟨.next, outer, s⟩
  if b = byte 'n' then after (readWord ['u', 'l', 'l'] s)
  else if b = byte 't' then after (readWord ['r', 'u', 'e'] s)
  else if b = byte 'f' then after (readWord ['a', 'l', 's', 'e'] s)
  else if b = byte '-' then after (skipNumber s)
  else if isDigit b then after (skipNumber (b :: s))
  else if b = byte '"' then after (skipString s)
  else if b = byte '[' then .ok ⟨.first, .list :: outer, s⟩
  else if b = byte '\x7b' then .ok ⟨.first, .object :: outer, s⟩
  else .error .grammar

/- Step over a colon. A value follows it. -/
def skipColon
    (outer : List Bracket)
    (s : List UInt8) : Except Fault Place :=
  match skipBlanks s with
  | [] => .error .ending
  | b :: s =>
      if b = byte ':' then .ok ⟨.value, outer, s⟩ else .error .grammar

/-
  Step over the item that starts with the byte `b`. Of an
  object, only the key and its colon are taken.
-/
def skipItem
    (outer : List Bracket)
    (b : UInt8)
    (s : List UInt8) : Except Fault Place :=
  if outer.head? = some .object then
    if b = byte '"' then
      (skipString s).bind (skipColon outer)
    else
      .error .grammar
  else
    skipStart outer b s

/- Step over what starts with the byte `b`. -/
def skipNext
    (outer : List Bracket)
    (b : UInt8)
    (s : List UInt8) :
    Expected → Except Fault Place
| .value => skipStart outer b s
| .item => skipItem outer b s
| .first =>
    if outer.head?.map Bracket.closing = some b then
      .ok ⟨.next, outer.tail, s⟩
    else
      skipItem outer b s
| .next =>
    if outer.head?.map Bracket.closing = some b then
      .ok ⟨.next, outer.tail, s⟩
    else if b = byte ',' then
      .ok ⟨.item, outer, s⟩
    else
      .error .grammar

/- Whether a place is behind the whole value. -/
def Place.isEnd
    (p : Place) : Bool :=
  p.expected = .next && p.outer.isEmpty

/-
  Go on to the end of the whole value. Each round takes at
  least one byte, so the bytes themselves can count the rounds.
-/
def skipRounds :
    List UInt8 → Place → Except Fault (List UInt8)
| [], p => if p.isEnd then .ok p.rest else .error .ending
| _ :: rounds, p =>
    if p.isEnd then
      .ok p.rest
    else
      match skipBlanks p.rest with
      | [] => .error .ending
      | b :: s =>
          (skipNext p.outer b s p.expected).bind (skipRounds rounds)

/- Step over one value. -/
def skipValue : Reader Unit :=
  fun s => (skipRounds s ⟨.value, [], s⟩).map fun s => ((), s)

end EmojiQuery.Json
