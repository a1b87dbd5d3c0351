import EmojiQuery.Number.Decimal
import EmojiQuery.Search.Error
import EmojiQuery.Text.Cut

/-
  This file defines ranges of numbers in queries. A range is
  written as one number, or as two numbers with two dots
  between them; both ends belong to it.

  Key definitions include:
    * `Interval`
    * `Interval.contains`
    * `Interval.parse`
    * `Interval.parseFrom`
    * `readHexBound?`
    * `readDecimalBound?`
    * `readRealBound?`
-/

namespace EmojiQuery

/- The numbers from `lower` to `upper`. -/
structure Interval (α : Type) where
  lower : α
  upper : α
deriving DecidableEq, Repr

namespace Interval

variable {α : Type}

/- Whether a number lies in the range. -/
def contains
    [LE α]
    [DecidableLE α]
    (r : Interval α)
    (a : α) : Bool :=
  r.lower ≤ a && a ≤ r.upper

/- Refuse a range for a fault. -/
def fail
    {β : Type}
    (raw : String)
    (fault : RangeFault) :
    Except SearchError β :=
  .error (.malformedRange raw fault)

/- Read one bound of the range written as `raw`. -/
def readBound
    (read : List Char → Option α)
    (raw : String)
    (part : List Char) :
    Except SearchError α :=
  if part.isEmpty then
    fail raw .missingBound
  else
    match read part with
    | some a => .ok a
    | none => fail raw (.notNumber (String.ofList part))

/- The range between two bounds, unless they are reversed. -/
def between
    [LT α]
    [DecidableLT α]
    (raw : String)
    (lower upper : α) :
    Except SearchError (Interval α) :=
  if upper < lower then fail raw .reversed else .ok ⟨lower, upper⟩

/- The texts of the two bounds, if there are two. -/
def bounds?
    (raw : String) :
    Option (List Char × List Char) :=
  cut? ['.', '.'] raw.toList

/- Read a range; a single number is both bounds. -/
def parse
    [LT α]
    [DecidableLT α]
    (read : List Char → Option α)
    (raw : String) :
    Except SearchError (Interval α) := do
  let parts := (bounds? raw).getD (raw.toList, raw.toList)
  let lower ← readBound read raw parts.1
  let upper ← readBound read raw parts.2
  between raw lower upper

/- Read a range; a single number is the lower bound. -/
def parseFrom
    [LT α]
    [DecidableLT α]
    (read : List Char → Option α)
    (upper : α)
    (raw : String) :
    Except SearchError (Interval α) :=
  if (bounds? raw).isSome then
    parse read raw
  else do
    let lower ← readBound read raw raw.toList
    between raw lower upper

end Interval

------------------------------------------------------------
-- Bounds
------------------------------------------------------------

/- Read a hexadecimal bound, with or without its usual mark. -/
def readHexBound? :
    List Char → Option Int64
| '0' :: 'x' :: s => Numeral.readInt64? 16 s
| '0' :: 'X' :: s => Numeral.readInt64? 16 s
| s => Numeral.readInt64? 16 s

/- Read a decimal integer bound. -/
def readDecimalBound?
    (s : List Char) : Option Int64 :=
  Numeral.readInt64? 10 s

/- Read a real bound. -/
def readRealBound?
    (s : List Char) : Option Binary64 :=
  (Binary64.read? s).filter fun x => !x.isNaN

end EmojiQuery
