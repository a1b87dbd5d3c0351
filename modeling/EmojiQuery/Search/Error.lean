import EmojiQuery.Json.Fault
import EmojiQuery.Text.Quoted

/-
  This file lists what can go wrong, from the text of a query
  to the files that hold the data, and the messages that say
  so. Some messages end with the words of another library,
  which are a parameter here.

  Key definitions include:
    * `RangeFault`
    * `SearchError`
    * `SearchError.isQueryError`
    * `SearchError.message`
    * `Wording`
    * `SearchError.describe`
-/

namespace EmojiQuery

/- Why a text is no range of numbers. -/
inductive RangeFault where
/- A bound is the empty text. -/
| missingBound
/- A bound is not the text of a number. -/
| notNumber (part : String)
/- The lower bound is above the upper bound. -/
| reversed
deriving DecidableEq, Repr

/- The words for a fault of a range. -/
def RangeFault.reason :
    RangeFault → String
| .missingBound => "missing bound"
| .notNumber part => quote part ++ " is not a number"
| .reversed => "lower bound must be <= upper bound"

/- What can go wrong. -/
inductive SearchError where
/- A clause names no field. -/
| unknownField (field raw : String)
/- The value of a clause is no range of numbers. -/
| malformedRange (raw : String) (fault : RangeFault)
/- The value of a clause is no pattern, or too large a one. -/
| malformedPattern (pattern : String)
/- A file could not be read. -/
| unreadable
/- There is no such file. -/
| pathNotFound (path : String)
/- A text is not the JSON that is needed. -/
| json (fault : Json.Fault)
/- The record at this place has no code points. -/
| noCodepoints (index : Nat)
/- No dataset was named. -/
| noDataset
deriving DecidableEq, Repr

namespace SearchError

/- Whether the text of a query is to blame. -/
def isQueryError :
    SearchError → Bool
| .unknownField _ _ => true
| .malformedRange _ _ => true
| .malformedPattern _ => true
| _ => false

/- The message for an error, less the words of other libraries. -/
def message :
    SearchError → String
| .unknownField field raw =>
    "unknown field " ++ quote field ++ " in " ++ field ++ ":" ++ raw
| .malformedRange raw fault =>
    "unable to parse range " ++ quote raw ++ ": " ++ fault.reason
| .malformedPattern pattern =>
    "invalid regex /" ++ pattern ++ "/"
| .unreadable => "IO error"
| .pathNotFound path => "Path not found: " ++ path
| .json _ => "JSON error"
| .noCodepoints index =>
    "Invalid input: record " ++
      String.ofList (Numeral.write 10 index) ++
      " has no codepoints"
| .noDataset => "Invalid input: no dataset given"

end SearchError

/-
  What the readers of patterns, of files and of JSON say of
  that which they refuse. The words for JSON are those for the
  one text that a run refuses.
-/
structure Wording where
  pattern : String → String
  source : String
  json : Json.Fault → String

namespace SearchError

/- The words of another library for an error. -/
def detail?
    (wording : Wording) :
    SearchError → Option String
| .malformedPattern pattern => some (wording.pattern pattern)
| .unreadable => some wording.source
| .json fault => some (wording.json fault)
| _ => none

/- The whole message for an error. -/
def describe
    (wording : Wording)
    (e : SearchError) : String :=
  match e.detail? wording with
  | some detail => e.message ++ ": " ++ detail
  | none => e.message

end SearchError

end EmojiQuery
