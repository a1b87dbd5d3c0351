import EmojiQuery.Debounce.Worker

/-
  This file defines what is logged while queries are evaluated:
  one entry for each that is rejected. How the logger writes an
  entry, with the time, or whether it does so at all, is a
  parameter. Entries that are less severe than a warning are
  left out; they are not written unless this is asked for.

  Key definitions include:
    * `Severity`
    * `LogEntry`
    * `LogEntry.text`
    * `Logger`
    * `Outcome.logged?`
    * `Worker.entries`
-/

namespace EmojiQuery

/- How severe an entry of the log is. -/
inductive Severity where
| warning
| failure
deriving DecidableEq, Repr

/- The entry for a query that could not be evaluated. -/
structure LogEntry where
  query : String
  error : SearchError
deriving DecidableEq, Repr

namespace LogEntry

/- An entry only warns if the text of the query is to blame. -/
def severity
    (e : LogEntry) : Severity :=
  if e.error.isQueryError then .warning else .failure

/- What became of the query. -/
def verdict
    (e : LogEntry) : String :=
  match e.severity with
  | .warning => "rejected"
  | .failure => "failed"

/- The text of an entry. -/
def text
    (wording : Wording)
    (e : LogEntry) : String :=
  "search " ++ quote e.query ++ " " ++ e.verdict ++ ": " ++
    e.error.describe wording

end LogEntry

/-
  What the logger writes for a text, its line breaks included.
  A logger that is switched off writes nothing.
-/
abbrev Logger :=
  Severity → String → String

/- The entry that is logged when a query was evaluated. -/
def Outcome.logged? :
    Outcome → Option LogEntry
| .applied _ _ => none
| .rejected query error => some ⟨query, error⟩

/-
  What is logged while a worker handles commands. The answer to
  a command tells what it evaluated.
-/
def Worker.entries
    (w : Worker)
    (now : Duration) :
    List Command → List LogEntry
| [] => []
| c :: cs =>
    let (reply, w') := w.handle now c
    (reply.bind Outcome.logged?).toList ++ w'.entries now cs

end EmojiQuery
