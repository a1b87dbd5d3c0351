/-
  This file reads the arguments of the program. Options may
  stand anywhere before a double dash, and every other
  argument belongs to the query.

  Key definitions include:
    * `Arguments`
    * `Arguments.Word`
    * `Arguments.parse`
-/

namespace EmojiQuery

/- The arguments of the program. -/
structure Arguments where
  config : Option String
  dataset : Option String
  summary : Bool
  watch : Bool
  query : List String
deriving DecidableEq, Repr

namespace Arguments

/- Why arguments do not lead to a run of the program. -/
inductive Refusal where
/- Help was asked for. -/
| help
/- An argument is unknown, repeated, or lacks its value. -/
| misuse
deriving DecidableEq, Repr

/- No arguments. -/
def empty : Arguments :=
  ⟨none, none, false, false, []⟩

------------------------------------------------------------
-- Single arguments
------------------------------------------------------------

/- What a single argument says. -/
inductive Word where
/- It belongs to the query. -/
| plain
/- All further arguments belong to the query. -/
| ending
| help
| config (value? : Option String)
| dataset (value? : Option String)
| summary
| watch
| unknown
deriving DecidableEq, Repr

namespace Word

/- A long option, given its name and what follows an equals sign. -/
def ofLong
    (name : String)
    (value? : Option String) : Word :=
  match name, value? with
  | "config", _ => .config value?
  | "dataset", _ => .dataset value?
  | "summary", none => .summary
  | "watch", none => .watch
  | "help", none => .help
  | _, _ => .unknown

/- Short options, given without their dash. -/
def ofShort :
    List Char → Word
| ['d'] => .dataset none
| 'd' :: '=' :: value => .dataset (some (String.ofList value))
| 'd' :: value => .dataset (some (String.ofList value))
| 'h' :: _ => .help
| _ => .unknown

/- What an argument says. A lone dash is no option. -/
def ofText
    (s : String) : Word :=
  match s.toList with
  | ['-', '-'] => .ending
  | '-' :: '-' :: cs =>
      let name := cs.takeWhile (· ≠ '=')
      match cs.dropWhile (· ≠ '=') with
      | [] => ofLong (String.ofList name) none
      | _ :: value =>
          ofLong (String.ofList name) (some (String.ofList value))
  | '-' :: c :: cs => ofShort (c :: cs)
  | _ => .plain

end Word

------------------------------------------------------------
-- Whole command lines
------------------------------------------------------------

/- Set an option, which must be new and not have an empty value. -/
def put
    (old : Option String)
    (value : String) :
    Except Refusal (Option String) :=
  if old.isSome || value.isEmpty then
    .error .misuse
  else
    .ok (some value)

/- Set the path of the settings. -/
def putConfig
    (a : Arguments)
    (value : String) :
    Except Refusal Arguments :=
  (put a.config value).map fun v => { a with config := v }

/- Set the path of the dataset. -/
def putDataset
    (a : Arguments)
    (value : String) :
    Except Refusal Arguments :=
  (put a.dataset value).map fun v => { a with dataset := v }

/- Ask for the summary, once. -/
def putSummary
    (a : Arguments) :
    Except Refusal Arguments :=
  if a.summary then .error .misuse else .ok { a with summary := true }

/- Ask to watch the input, once. -/
def putWatch
    (a : Arguments) :
    Except Refusal Arguments :=
  if a.watch then .error .misuse else .ok { a with watch := true }

/-
  Read arguments from the first to the last, which of the
  options were met before being given. What follows an option
  without value is its value, unless it looks like an option.
-/
def readFrom
    (a : Arguments) :
    List String → Except Refusal Arguments
| [] => .ok a
| s :: rest =>
    match Word.ofText s with
    | .plain => readFrom { a with query := a.query ++ [s] } rest
    | .ending => .ok { a with query := a.query ++ rest }
    | .help => .error .help
    | .summary => do readFrom (← a.putSummary) rest
    | .watch => do readFrom (← a.putWatch) rest
    | .config (some v) => do readFrom (← a.putConfig v) rest
    | .dataset (some v) => do readFrom (← a.putDataset v) rest
    | .config none =>
        match rest with
        | [] => .error .misuse
        | v :: rest =>
            if Word.ofText v = .plain then do
              readFrom (← a.putConfig v) rest
            else
              .error .misuse
    | .dataset none =>
        match rest with
        | [] => .error .misuse
        | v :: rest =>
            if Word.ofText v = .plain then do
              readFrom (← a.putDataset v) rest
            else
              .error .misuse
    | .unknown => .error .misuse

/- Read the arguments of the program. -/
def parse
    (ss : List String) :
    Except Refusal Arguments :=
  empty.readFrom ss

end Arguments

end EmojiQuery
