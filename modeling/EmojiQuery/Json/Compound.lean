import EmojiQuery.Json.Skip

/-
  This file reads the compound values of JSON: lists, maps and
  structures with named fields. A structure is written as an
  object, in which fields stand in any order and unknown ones
  are stepped over, or as a list of its fields in their order.

  Key definitions include:
    * `Json.list`
    * `Json.entries`
    * `Json.nullable`
    * `Json.Field`
    * `Json.fields`
    * `Json.whole`
-/

namespace EmojiQuery.Json

------------------------------------------------------------
-- Values of the wrong kind
------------------------------------------------------------

/-
  The fault of a value of the wrong kind, which is read as far
  as needed to tell whether it is a value at all.
-/
def wrongKind : Reader Fault := do
  match (← get).head? with
  | none => pure .grammar
  | some b =>
      if b = byte 'n' then
        advance; word "ull"; pure .shape
      else if b = byte 't' then
        advance; word "rue"; pure .shape
      else if b = byte 'f' then
        advance; word "alse"; pure .shape
      else if startsNumber b then
        let _ ← number
        pure .shape
      else if b = byte '"' then
        advance
        let _ ← string
        pure .shape
      else if b = byte '[' || b = byte '\x7b' then
        pure .shape
      else
        pure .grammar

/- Refuse a value of the wrong kind. -/
def refuse
    {α : Type} : Reader α := do
  throw (← wrongKind)

/-
  Read a value by its first byte: `read` gives the reader for
  the bytes that may start it.
-/
def dispatch
    {α : Type}
    (read : UInt8 → Option (Reader α)) :
    Reader α := do
  match ← token with
  | none => throw .ending
  | some b => (read b).getD refuse

/- Read a number of any kind. -/
def anyNumber : Reader Number :=
  dispatch fun b => if startsNumber b then some number else none

/- Read a string. -/
def text : Reader String :=
  dispatch fun b =>
    if b = byte '"' then
      some (do advance; string)
    else
      none

/- Read a value or the word for its absence. -/
def nullable
    {α : Type}
    (read : Reader α) :
    Reader (Option α) := do
  if (← token) = some (byte 'n') then
    advance
    word "ull"
    pure none
  else
    some <$> read

------------------------------------------------------------
-- Integers
------------------------------------------------------------

/- Read a natural number below a bound. -/
def naturalBelow
    (bound : Nat) : Reader Nat := do
  match ← anyNumber with
  | .natural n => if n < bound then pure n else throw .shape
  | _ => throw .shape

/- Read a signed 64-bit integer. -/
def int64 : Reader Int64 := do
  let i? :=
    match ← anyNumber with
    | .natural n => Numeral.int64? n
    | .negative i => Numeral.int64? i
    | .real _ => none
  match i? with
  | some i => pure i
  | none => throw .shape

/- Read a double precision number. -/
def binary64 : Reader Binary64 := do
  match ← anyNumber with
  | .natural n => pure (.ofNat n)
  | .negative i => pure (.ofInt i)
  | .real x => pure x

------------------------------------------------------------
-- Lists
------------------------------------------------------------

/-
  Move to the next item of a list and tell whether there is
  one. The end of the list is left in place.
-/
def nextItem
    (first : Bool) : Reader Bool := do
  match ← token with
  | none => throw .ending
  | some b =>
      if b = byte ']' then
        pure false
      else if first then
        pure true
      else if b = byte ',' then
        advance
        match ← token with
        | none => throw .ending
        | some b =>
            if b = byte ']' then throw .grammar else pure true
      else
        throw .grammar

/- Take the end of a list. -/
def endList : Reader Unit := do
  match ← token with
  | none => throw .ending
  | some b => if b = byte ']' then advance else throw .grammar

/-
  Read items up to the end of a list. Each item takes at least
  one byte, so the bytes themselves can count the items.
-/
def items
    {α : Type}
    (read : Reader α) :
    List UInt8 → Bool → Reader (List α)
| [], _ => throw .ending
| _ :: rounds, first => do
    if ← nextItem first then
      let a ← read
      let as ← items read rounds false
      pure (a :: as)
    else
      pure []

/- Read a list. -/
def list
    {α : Type}
    (read : Reader α) :
    Reader (List α) :=
  dispatch fun b =>
    if b = byte '[' then
      some do
        advance
        let as ← items read (← get) true
        endList
        pure as
    else
      none

------------------------------------------------------------
-- Objects
------------------------------------------------------------

/-
  Move to the next key of an object and tell whether there is
  one. The end of the object is left in place.
-/
def nextKey
    (first : Bool) : Reader Bool := do
  match ← token with
  | none => throw .ending
  | some b =>
      if b = byte '\x7d' then
        pure false
      else if first then
        if b = byte '"' then pure true else throw .grammar
      else if b = byte ',' then
        advance
        match ← token with
        | none => throw .ending
        | some b => if b = byte '"' then pure true else throw .grammar
      else
        throw .grammar

/- Take the end of an object. -/
def endObject : Reader Unit := do
  match ← token with
  | none => throw .ending
  | some b => if b = byte '\x7d' then advance else throw .grammar

/- Read a key, without the colon. -/
def key : Reader String := do
  advance
  string

/- Take the colon after a key. -/
def colon : Reader Unit := do
  match ← token with
  | none => throw .ending
  | some b => if b = byte ':' then advance else throw .grammar

/-
  Read keys and values up to the end of an object. Each of
  them takes bytes, which can count the rounds.
-/
def pairs
    {α : Type}
    (read : Reader α) :
    List UInt8 → Bool → Reader (List (String × α))
| [], _ => throw .ending
| _ :: rounds, first => do
    if ← nextKey first then
      let k ← key
      colon
      let a ← read
      let rest ← pairs read rounds false
      pure ((k, a) :: rest)
    else
      pure []

/- Read an object as its keys and values in their order. -/
def entries
    {α : Type}
    (read : Reader α) :
    Reader (List (String × α)) :=
  dispatch fun b =>
    if b = byte '\x7b' then
      some do
        advance
        let kvs ← pairs read (← get) true
        endObject
        pure kvs
    else
      none

------------------------------------------------------------
-- Structures
------------------------------------------------------------

/-
  A field of a structure, of which `σ` is a draft: its name,
  whether a draft has it, and how to read it into a draft.
-/
structure Field (σ : Type) where
  name : String
  isSet : σ → Bool
  read : σ → Reader σ

/-
  Read the fields of an object up to its end. Each of them
  takes bytes, which can count the rounds.
-/
def objectFields
    {σ : Type}
    (fs : List (Field σ)) :
    List UInt8 → Bool → σ → Reader σ
| [], _, _ => throw .ending
| _ :: rounds, first, draft => do
    if ← nextKey first then
      let k ← key
      match fs.find? fun f => f.name = k with
      | none =>
          colon
          skipValue
          objectFields fs rounds false draft
      | some f =>
          if f.isSet draft then
            throw .shape
          else
            colon
            let draft ← f.read draft
            objectFields fs rounds false draft
    else
      pure draft

/- Read the first fields of a list, as many as it has. -/
def listFields
    {σ : Type} :
    List (Field σ) → Bool → σ → Reader σ
| [], _, draft => pure draft
| f :: fs, first, draft => do
    if ← nextItem first then
      let draft ← f.read draft
      listFields fs false draft
    else
      pure draft

/-
  Read a structure from an object or a list. A draft that
  `finish` refuses lacks a field.
-/
def fields
    {σ α : Type}
    (fs : List (Field σ))
    (draft : σ)
    (finish : σ → Option α) :
    Reader α :=
  let complete (draft : σ) : Reader α :=
    match finish draft with
    | some a => pure a
    | none => throw .shape
  dispatch fun b =>
    if b = byte '[' then
      some do
        advance
        let a ← complete (← listFields fs true draft)
        endList
        pure a
    else if b = byte '\x7b' then
      some do
        advance
        let a ← complete
          (← objectFields fs (← get) true draft)
        endObject
        pure a
    else
      none

------------------------------------------------------------
-- Whole texts
------------------------------------------------------------

/- Read a text that holds one value and nothing else. -/
def whole
    {α : Type}
    (read : Reader α)
    (s : List UInt8) :
    Except Fault α := do
  let (a, rest) ← read.run s
  if (skipBlanks rest).isEmpty then .ok a else .error .grammar

end EmojiQuery.Json
