import EmojiQuery.Dataset.Storage
import EmojiQuery.Json.Compound
import EmojiQuery.Json.Writer
import EmojiQuery.Search.Error
import EmojiQuery.Text.Utf8
import EmojiQuery.Time.Duration

/-
  This file defines the settings of the browser, which are
  kept as JSON. A setting that is not given has its default.

  Key definitions include:
    * `Settings`
    * `Settings.read`
    * `Settings.load`
    * `Settings.loadOrDefault`
    * `Settings.json`
-/

namespace EmojiQuery

/- The settings of the browser. -/
structure Settings where
/- How long a typed query rests before it is evaluated. -/
  debounceMillis : UInt64
/- The dataset that is used when none is named. -/
  datasetPath : Option String
/- How many matches of a query are printed at most. -/
  maxPrinted : UInt64
deriving DecidableEq, Repr

namespace Settings

/- The settings that hold when nothing is given. -/
def default : Settings :=
  ⟨500, none, 50⟩

/- How long a typed query rests before it is evaluated. -/
def window
    (s : Settings) : Duration :=
  .ofMillis s.debounceMillis

------------------------------------------------------------
-- Reading
------------------------------------------------------------

/- Settings of which some may not have been given. -/
structure Draft where
  debounceMillis : Option UInt64
  datasetPath : Option (Option String)
  maxPrinted : Option UInt64

/- The draft in which nothing is given. -/
def Draft.empty : Draft :=
  ⟨none, none, none⟩

/- The settings, with defaults for what is not given. -/
def Draft.finish
    (d : Draft) : Option Settings :=
  some
    ⟨d.debounceMillis.getD default.debounceMillis,
      d.datasetPath.getD default.datasetPath,
      d.maxPrinted.getD default.maxPrinted⟩

/- Read a natural number of 64 bits. -/
def wordReader : Json.Reader UInt64 :=
  (fun n => UInt64.ofNat n) <$> Json.naturalBelow UInt64.size

/- The settings in their order. -/
def fields : List (Json.Field Draft) :=
[
  ⟨"debounce_ms", fun d => d.debounceMillis.isSome, fun d => do
    let v ← wordReader
    pure { d with debounceMillis := some v }⟩,
  ⟨"dataset_path", fun d => d.datasetPath.isSome, fun d => do
    let v ← Json.nullable Json.text
    pure { d with datasetPath := some v }⟩,
  ⟨"max_printed", fun d => d.maxPrinted.isSome, fun d => do
    let v ← wordReader
    pure { d with maxPrinted := some v }⟩
]

/- Read settings from JSON. -/
def read
    (bytes : List UInt8) :
    Except SearchError Settings :=
  (Json.whole (Json.fields fields .empty Draft.finish) bytes).mapError
    .json

/- Read settings from the text of their JSON. -/
def readText
    (text : String) :
    Except SearchError Settings :=
  read (utf8 text)

/- Read settings from what was found under a path. -/
def load
    (path : String) :
    Entry → Except SearchError Settings
| .absent => .error (.pathNotFound path)
| .directory => .error .unreadable
| .file bytes =>
    if (ofUtf8? bytes).isSome then read bytes else .error .unreadable

/- Read settings, or take the defaults if there is nothing to read. -/
def loadOrDefault
    (path : String) :
    Entry → Except SearchError Settings
| .absent => .ok default
| entry => load path entry

------------------------------------------------------------
-- Writing
------------------------------------------------------------

/- The JSON of the settings. -/
def json
    (s : Settings) : List Char :=
  Json.writeObject
    [("debounce_ms", Json.writeNat s.debounceMillis.toNat),
      ("dataset_path",
        s.datasetPath.elim ['n', 'u', 'l', 'l'] Json.writeString),
      ("max_printed", Json.writeNat s.maxPrinted.toNat)]

end Settings

end EmojiQuery
