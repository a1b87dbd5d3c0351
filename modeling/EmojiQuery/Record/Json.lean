import EmojiQuery.Json.Compound
import EmojiQuery.Json.Writer
import EmojiQuery.Record.Basic

/-
  This file reads and writes records as JSON.

  Key definitions include:
    * `Record.reader`
    * `Record.json`
-/

namespace EmojiQuery.Record

------------------------------------------------------------
-- Reading
------------------------------------------------------------

/- A record of which some fields may not have been read yet. -/
structure Draft where
  codepoints : Option (List UInt32)
  levels : Option (List Level)
  version : Option Binary64
  notes : Option String
  scores : Option (Option Scores)

/- The draft without fields. -/
def Draft.empty : Draft :=
  ⟨none, none, none, none, none⟩

/- The record, unless a field is missing that has no default. -/
def Draft.finish
    (d : Draft) : Option Record := do
  let codepoints ← d.codepoints
  let levels ← d.levels
  let version ← d.version
  some
    ⟨codepoints, levels, version, d.notes.getD "",
      d.scores.getD none⟩

/- Read a code point; it need not be a character. -/
def codepointReader : Json.Reader UInt32 :=
  (fun n => UInt32.ofNat n) <$> Json.naturalBelow UInt32.size

/- Read a map of scores. -/
def scoresReader : Json.Reader Scores :=
  Scores.ofList <$> Json.entries Json.binary64

/- The fields of a record, in their order. -/
def fields : List (Json.Field Draft) :=
[
  ⟨"codepoints", fun d => d.codepoints.isSome, fun d => do
    let v ← Json.list codepointReader
    pure { d with codepoints := some v }⟩,
  ⟨"api_support", fun d => d.levels.isSome, fun d => do
    let v ← Json.list Json.int64
    pure { d with levels := some v }⟩,
  ⟨"emoji_level", fun d => d.version.isSome, fun d => do
    let v ← Json.binary64
    pure { d with version := some v }⟩,
  ⟨"notes", fun d => d.notes.isSome, fun d => do
    let v ← Json.text
    pure { d with notes := some v }⟩,
  ⟨"diffs", fun d => d.scores.isSome, fun d => do
    let v ← Json.nullable scoresReader
    pure { d with scores := some v }⟩
]

/- Read a record. -/
def reader : Json.Reader Record :=
  Json.fields fields .empty Draft.finish

------------------------------------------------------------
-- Writing
------------------------------------------------------------

/- The JSON of a map of scores. -/
def scoresJson
    (s : Scores) : List Char :=
  Json.writeObject
    (s.entries.map fun (k, x) => (k, Json.writeReal x))

/-
  The JSON of a record, its fields in their order. A record
  without scores has no such field.
-/
def json
    (r : Record) : List Char :=
  Json.writeObject
    ([("codepoints",
        Json.writeList
          (r.codepoints.map fun c => Json.writeNat c.toNat)),
      ("api_support", Json.writeList (r.levels.map Level.text)),
      ("emoji_level", Json.writeReal r.version),
      ("notes", Json.writeString r.notes)] ++
      match r.scores with
      | none => []
      | some s => [("diffs", scoresJson s)])

end EmojiQuery.Record
