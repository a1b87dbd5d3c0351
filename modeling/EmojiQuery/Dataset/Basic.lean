import EmojiQuery.Dataset.Storage
import EmojiQuery.Query.Basic
import EmojiQuery.Record.Json

/-
  This file defines datasets: records with ascending levels,
  and the range of all their levels.

  Key definitions include:
    * `Dataset`
    * `Dataset.ofRecords`
    * `Dataset.read`
    * `Dataset.load`
    * `Dataset.search`
-/

namespace EmojiQuery

/- Records to be searched, and the range of their levels. -/
structure Dataset where
  records : List Record
  range : LevelRange
deriving DecidableEq

namespace Dataset

------------------------------------------------------------
-- Construction
------------------------------------------------------------

/- The dataset of a list of records. -/
def ofRecords
    (rs : List Record) : Dataset :=
  let rs := rs.map Record.normalize
  ⟨rs, .ofRecords rs⟩

/- The dataset of records, each of which needs code points. -/
def validated
    (rs : List Record) :
    Except SearchError Dataset :=
  match rs.findIdx? fun r => r.codepoints.isEmpty with
  | some i => .error (.noCodepoints i)
  | none => .ok (ofRecords rs)

/- Read a dataset from JSON. -/
def read
    (bytes : List UInt8) :
    Except SearchError Dataset :=
  match Json.whole (Json.list Record.reader) bytes with
  | .ok rs => validated rs
  | .error fault => .error (.json fault)

/- Read a dataset from the text of its JSON. -/
def readText
    (text : String) :
    Except SearchError Dataset :=
  read (utf8 text)

/- Read a dataset from what was found under a path. -/
def load
    (path : String) :
    Entry → Except SearchError Dataset
| .absent => .error (.pathNotFound path)
| .directory => .error (.json .source)
| .file bytes => read bytes

/- The number of records. -/
def size
    (d : Dataset) : Nat :=
  d.records.length

/- Whether there are no records. -/
def isEmpty
    (d : Dataset) : Bool :=
  d.records.isEmpty

------------------------------------------------------------
-- Searching
------------------------------------------------------------

/- Evaluate clauses over the dataset. -/
def evaluate
    (d : Dataset)
    (cs : List Clause) :
    Except SearchError Results :=
  EmojiQuery.evaluate d.records cs d.range

/- What the query without clauses finds. -/
def searchAll
    (d : Dataset) : Results :=
  Query.empty.evaluate d.records d.range

/- What the query written in a text finds. -/
def search
    (d : Dataset)
    (text : String) :
    Except SearchError Results :=
  (Query.parse text).map fun q => q.evaluate d.records d.range

end Dataset

end EmojiQuery
