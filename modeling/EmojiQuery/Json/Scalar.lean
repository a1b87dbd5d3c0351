import EmojiQuery.Json.Fault
import EmojiQuery.Number.Scaled
import EmojiQuery.Text.Utf8

/-
  This file reads the scalars of JSON: fixed words, strings
  and numbers. Integers are exact as far as 64 bits reach;
  every other number is read by scaling its first digits.

  Key definitions include:
    * `Json.word`
    * `Json.stringBytes`
    * `Json.string`
    * `Json.Number`
    * `Json.number`
-/

namespace EmojiQuery.Json

------------------------------------------------------------
-- Words
------------------------------------------------------------

/- Read the rest of a fixed word. -/
def readWord :
    List Char → List UInt8 → Except Fault (List UInt8)
| [], s => .ok s
| _ :: _, [] => .error .ending
| c :: cs, b :: bs =>
    if b = byte c then readWord cs bs else .error .grammar

/- Read the rest of a fixed word. -/
def word
    (rest : String) : Reader Unit :=
  fun s => (readWord rest.toList s).map fun s => ((), s)

------------------------------------------------------------
-- Strings
------------------------------------------------------------

/- The value of four hexadecimal digits. -/
def hexUnit?
    (a b c d : UInt8) : Option Nat :=
  let digit (x : UInt8) : Option Nat :=
    Numeral.digitValue? (Char.ofNat x.toNat)
  do
    let a ← digit a
    let b ← digit b
    let c ← digit c
    let d ← digit d
    some (((a * 16 + b) * 16 + c) * 16 + d)

/- Read four hexadecimal digits. -/
def readUnit :
    List UInt8 → Except Fault (Nat × List UInt8)
| a :: b :: c :: d :: rest =>
    match hexUnit? a b c d with
    | some n => .ok (n, rest)
    | none => .error .grammar
| _ => .error .ending

/- Whether a unit is the first half of a pair. -/
def isHighHalf
    (n : Nat) : Bool :=
  0xD800 ≤ n && n ≤ 0xDBFF

/- Whether a unit is the second half of a pair. -/
def isLowHalf
    (n : Nat) : Bool :=
  0xDC00 ≤ n && n ≤ 0xDFFF

/-
  Read a numbered character after the letter that announces
  it. The halves of a pair are only admitted together.
-/
def readNumbered
    (s : List UInt8) :
    Except Fault (List UInt8 × List UInt8) := do
  let (n, s) ← readUnit s
  if isLowHalf n then
    .error .grammar
  else if isHighHalf n then
    match s with
    | [] => .error .ending
    | b :: s =>
        if b ≠ byte '\\' then
          .error .grammar
        else
          match s with
          | [] => .error .ending
          | b :: s =>
              if b ≠ byte 'u' then
                .error .grammar
              else do
                let (m, s) ← readUnit s
                if isLowHalf m then
                  .ok
                    (String.utf8EncodeChar
                      (Char.ofNat
                        (0x10000 + (n - 0xD800) * 0x400 +
                          (m - 0xDC00))), s)
                else
                  .error .grammar
  else
    .ok (String.utf8EncodeChar (Char.ofNat n), s)

/- The character that a letter after a backslash stands for. -/
def escapeLetter?
    (b : UInt8) : Option UInt8 :=
  if b = byte '"' then some b
  else if b = byte '\\' then some b
  else if b = byte '/' then some b
  else if b = byte 'b' then some 0x08
  else if b = byte 'f' then some 0x0C
  else if b = byte 'n' then some 0x0A
  else if b = byte 'r' then some 0x0D
  else if b = byte 't' then some 0x09
  else none

/- Read what follows a backslash. -/
def readEscape :
    List UInt8 → Except Fault (List UInt8 × List UInt8)
| [] => .error .ending
| b :: s =>
    if b = byte 'u' then
      readNumbered s
    else
      match escapeLetter? b with
      | some c => .ok ([c], s)
      | none => .error .grammar

/-
  Read the rest of a string after its opening quote. Each
  round takes at least one byte, so the bytes themselves can
  count the rounds.
-/
def readStringBytes :
    List UInt8 → List UInt8 →
      Except Fault (List UInt8 × List UInt8)
| _, [] => .error .ending
| [], _ :: _ => .error .ending
| _ :: rounds, b :: s =>
    if b = byte '"' then
      .ok ([], s)
    else if b = byte '\\' then do
      let (c, s) ← readEscape s
      let (cs, s) ← readStringBytes rounds s
      .ok (c ++ cs, s)
    else if b < 0x20 then
      .error .grammar
    else do
      let (cs, s) ← readStringBytes rounds s
      .ok (b :: cs, s)

/-
  Read the rest of a string after its opening quote. The bytes
  are taken to its end before they are taken for text.
-/
def string : Reader String :=
  fun s => do
    let (bs, s) ← readStringBytes s s
    match ofUtf8? bs with
    | some text => .ok (text, s)
    | none => .error .grammar

------------------------------------------------------------
-- Numbers
------------------------------------------------------------

/- A number as it was written. -/
inductive Number where
/- A natural number below two to the 64. -/
| natural (n : Nat)
/- A negative integer of at least minus two to the 63. -/
| negative (i : Int)
/- Any other number. -/
| real (x : Binary64)
deriving DecidableEq, Repr

/- The value of a decimal digit. -/
def digit?
    (b : UInt8) : Option Nat :=
  if byte '0' ≤ b && b ≤ byte '9' then
    some (b.toNat - 48)
  else
    none

/- Whether a byte is a decimal digit. -/
def isDigit
    (b : UInt8) : Bool :=
  (digit? b).isSome

/-
  Extend an integer by digits while it stays below two to the
  64. The result is the integer, the number of digits taken,
  and what is left.
-/
def takeDigits
    (n taken : Nat) :
    List UInt8 → Nat × Nat × List UInt8
| [] => (n, taken, [])
| b :: s =>
    match digit? b with
    | some d =>
        if 10 * n + d < UInt64.size then
          takeDigits (10 * n + d) (taken + 1) s
        else
          (n, taken, b :: s)
    | none => (n, taken, b :: s)

/- Drop digits. -/
def dropDigits
    (s : List UInt8) : List UInt8 :=
  s.dropWhile isDigit

/- The greatest exponent that is read. -/
def maxExponent : Nat :=
  0x7FFFFFFF

/- Give a nonnegative number its sign. -/
def signed
    (negative : Bool)
    (x : Binary64) : Binary64 :=
  if negative then x.neg else x

/- The scaled number, unless it is too large. -/
def scaled
    (negative : Bool)
    (n : Nat)
    (exp : Int) : Except Fault Binary64 :=
  match Binary64.scale? n exp with
  | some x => .ok (signed negative x)
  | none => .error .grammar

/- Read the exponent of a number after its letter. -/
def readExponent
    (negative : Bool)
    (n : Nat)
    (exp : Int)
    (s : List UInt8) :
    Except Fault (Binary64 × List UInt8) :=
  let (up, s) :=
    match s with
    | [] => (true, [])
    | b :: t =>
        if b = byte '+' then (true, t)
        else if b = byte '-' then (false, t)
        else (true, s)
  match s with
  | [] => .error .ending
  | b :: _ =>
      if isDigit b then
        let ds := s.takeWhile isDigit
        let rest := s.dropWhile isDigit
        let e :=
          ds.foldl (fun e b => 10 * e + (digit? b).getD 0) 0
        if maxExponent < e then
          if up && n ≠ 0 then
            .error .grammar
          else
            .ok (signed negative .zero, rest)
        else do
          let x ←
            scaled negative n (if up then exp + e else exp - e)
          .ok (x, rest)
      else
        .error .grammar

/- Read an exponent if one follows. -/
def readTail
    (negative : Bool)
    (n : Nat)
    (exp : Int)
    (s : List UInt8) :
    Except Fault (Binary64 × List UInt8) :=
  match s with
  | b :: t =>
      if b = byte 'e' || b = byte 'E' then
        readExponent negative n exp t
      else
        (scaled negative n exp).map (·, s)
  | [] => (scaled negative n exp).map (·, s)

/-
  Read the fraction of a number after its point. Digits that
  no longer fit are dropped.
-/
def readFraction
    (negative : Bool)
    (n : Nat)
    (exp : Int)
    (s : List UInt8) :
    Except Fault (Binary64 × List UInt8) :=
  match s with
  | [] => .error .ending
  | b :: _ =>
      if isDigit b then
        let (n, taken, rest) := takeDigits n 0 s
        readTail negative n (exp - taken) (dropDigits rest)
      else
        .error .grammar

/- Whether a byte makes a number more than an integer. -/
def continuesInteger
    (b : UInt8) : Bool :=
  b = byte '.' || b = byte 'e' || b = byte 'E'

/- Read what follows the digits of the integer part. -/
def readReal
    (negative : Bool)
    (n : Nat)
    (exp : Int)
    (s : List UInt8) :
    Except Fault (Binary64 × List UInt8) :=
  match s with
  | b :: t =>
      if b = byte '.' then
        readFraction negative n exp t
      else
        readTail negative n exp s
  | [] => readTail negative n exp s

/- An integer without fraction and exponent. -/
def integer
    (negative : Bool)
    (n : Nat) : Number :=
  if !negative then .natural n
  else if n = 0 || 0x8000000000000000 < n then .real (Binary64.ofNat n).neg
  else .negative (-(n : Int))

/-
  Read what follows the integer part, all of whose digits are
  in `n`.
-/
def readInteger
    (negative : Bool)
    (n : Nat)
    (s : List UInt8) :
    Except Fault (Number × List UInt8) :=
  if s.head?.any continuesInteger then
    (readReal negative n 0 s).map fun (x, s) => (.real x, s)
  else
    .ok (integer negative n, s)

/- Read a number after its sign. -/
def readNumber
    (negative : Bool) :
    List UInt8 → Except Fault (Number × List UInt8)
| [] => .error .ending
| b :: s =>
    if b = byte '0' then
      if s.head?.any isDigit then
        .error .grammar
      else
        readInteger negative 0 s
    else if isDigit b then
      let (n, _, rest) := takeDigits 0 0 (b :: s)
      if rest.head?.any isDigit then
        let dropped := rest.takeWhile isDigit
        (readReal negative n dropped.length
          (dropDigits rest)).map fun (x, s) => (.real x, s)
      else
        readInteger negative n rest
    else
      .error .grammar

/- Read a number, whose first byte is known to start one. -/
def number : Reader Number :=
  fun s =>
    match s with
    | b :: t =>
        if b = byte '-' then readNumber true t else readNumber false s
    | [] => .error .ending

/- Whether a byte starts a number. -/
def startsNumber
    (b : UInt8) : Bool :=
  b = byte '-' || isDigit b

end EmojiQuery.Json
