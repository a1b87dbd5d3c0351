import EmojiQuery.CommandLine.Arguments
import EmojiQuery.CommandLine.Listing
import EmojiQuery.Debounce.Log
import EmojiQuery.Settings
import EmojiQuery.Text.Lines

/-
  This file runs the program up to what it prints, on its
  output and, with what is logged, on its error output. Files
  are looked up by a function that the caller gives, and all
  lines of the input are typed at the same moment.

  Key definitions include:
    * `Notice`
    * `Report`
    * `Report.errors`
    * `Arguments.load`
    * `Arguments.answer`
    * `watchText`
    * `prepare`
    * `run`
-/

namespace EmojiQuery

------------------------------------------------------------
-- Notices
------------------------------------------------------------

/- What is written to the error output. -/
inductive Notice where
/- An entry of the log. -/
| logged (entry : LogEntry)
/- How to use the program. -/
| usage
/- The error that ended the program. -/
| ended (error : SearchError)
/- The error of a query that was typed. -/
| shown (error : SearchError)
deriving DecidableEq, Repr

/- How the program is used. -/
def usage : String :=
  "usage: emoji-browse [--config FILE] [--dataset FILE]" ++
    " [--summary] [--watch] [QUERY]..."

namespace Notice

/- What stands before an error. -/
def endedMark : String :=
  "emoji-browse: "

def shownMark : String :=
  "search failed: "

/-
  The line of a notice, less the words of other libraries and
  the log.
-/
def message? :
    Notice → Option String
| .logged _ => none
| .usage => some EmojiQuery.usage
| .ended error => some (endedMark ++ error.message)
| .shown error => some (shownMark ++ error.message)

/- The whole text of a notice. -/
def text
    (wording : Wording)
    (logger : Logger) :
    Notice → String
| .logged entry => logger entry.severity (entry.text wording)
| .usage => EmojiQuery.usage ++ "\n"
| .ended error => endedMark ++ error.describe wording ++ "\n"
| .shown error => shownMark ++ error.describe wording ++ "\n"

end Notice

------------------------------------------------------------
-- Reports
------------------------------------------------------------

/-
  How the program ended, what it printed, and what it wrote to
  its error output, first to last.
-/
structure Report where
  status : UInt8
  output : String
  notices : List Notice
deriving DecidableEq, Repr

namespace Report

/- The error output of the program while nothing is logged. -/
def complaint
    (r : Report) : Option String :=
  match r.notices.filterMap Notice.message? with
  | [] => none
  | texts => some ("\n".intercalate texts)

/- The whole error output. -/
def errors
    (wording : Wording)
    (logger : Logger)
    (r : Report) : String :=
  String.join (r.notices.map (Notice.text wording logger))

/- A report of printed lines. -/
def ofLines
    (ls : List (List Char)) : Report :=
  ⟨0, String.ofList (ls.flatMap fun l => l ++ ['\n']), []⟩

/- A report after another one that went well. -/
def after
    (r first : Report) : Report :=
  { r with
    output := first.output ++ r.output
    notices := first.notices ++ r.notices }

/- A report before which some entries were logged. -/
def afterLog
    (r : Report)
    (entries : List LogEntry) : Report :=
  { r with notices := entries.map .logged ++ r.notices }

/- The report of an error that ends the program. -/
def ofError
    (e : SearchError) : Report :=
  ⟨1, "", [.ended e]⟩

/- The report of arguments that do not lead to a run. -/
def ofRefusal :
    Arguments.Refusal → Report
| .help => ofLines [usage.toList]
| .misuse => ⟨2, "", [.usage]⟩

/- The report of a snapshot. An error does not end the program. -/
def ofSnapshot
    (limit : Nat)
    (s : Snapshot) : Report :=
  match s.error with
  | some e => ⟨0, "", [.shown e]⟩
  | none => ofLines (s.results.listing limit)

end Report

------------------------------------------------------------
-- Runs
------------------------------------------------------------

namespace Arguments

/- Where settings are kept if no other place is named. -/
def defaultConfig : String :=
  "emoji-search.json"

variable {m : Type → Type}
variable [Monad m]

/- Load the settings that the arguments ask for. -/
def loadSettings
    (find : String → m Entry)
    (a : Arguments) :
    ExceptT SearchError m Settings := do
  match a.config with
  | some path => ofExcept (Settings.load path (← find path))
  | none =>
      ofExcept
        (Settings.loadOrDefault defaultConfig
          (← find defaultConfig))

/- Load the dataset that the arguments or the settings name. -/
def loadDataset
    (find : String → m Entry)
    (a : Arguments)
    (settings : Settings) :
    ExceptT SearchError m Dataset := do
  match a.dataset <|> settings.datasetPath with
  | some path => ofExcept (Dataset.load path (← find path))
  | none => throw .noDataset

/- Load all that a run needs. -/
def load
    (find : String → m Entry)
    (a : Arguments) :
    ExceptT SearchError m (Settings × Dataset) := do
  let settings ← a.loadSettings find
  let dataset ← a.loadDataset find settings
  pure (settings, dataset)

/- The summary, if the arguments ask for it. -/
def heading
    (a : Arguments)
    (dataset : Dataset) : Report :=
  .ofLines
    (if a.summary then
      (summarize dataset.records dataset.range).map LevelSummary.line
    else
      [])

/-
  Answer the query of the arguments. Without words there is no
  query if a summary was asked for.
-/
def answer
    (a : Arguments)
    (settings : Settings)
    (dataset : Dataset) : Report :=
  if a.summary && a.query.isEmpty then
    .ofLines []
  else
    match dataset.search (" ".intercalate a.query) with
    | .ok r => .ofLines (r.listing settings.maxPrinted.toNat)
    | .error e => .ofError e

end Arguments

/-
  Take every line of a text as the query being typed, and show
  what was found when the text ends.
-/
def watchText
    (settings : Settings)
    (dataset : Dataset)
    (text : String) : Report :=
  let typed := (lines text.toList).map fun l =>
    Command.submit (String.ofList l)
  let commands := typed ++ [.flush]
  let start := Worker.start dataset settings.window
  let w := start.handleAll .zero commands
  let shown : Report :=
    if w.edition = 0 then
      .ofLines []
    else
      .ofSnapshot settings.maxPrinted.toNat w.latest
  shown.afterLog (start.entries .zero commands)

variable {m : Type → Type}
variable [Monad m]

/-
  Read the arguments and load what they ask for, or report why
  that cannot be done.
-/
def prepare
    (find : String → m Entry)
    (arguments : List String) :
    ExceptT Report m (Arguments × Settings × Dataset) := do
  let a ← ofExcept ((Arguments.parse arguments).mapError .ofRefusal)
  let (settings, dataset) ← (a.load find).adapt .ofError
  pure (a, settings, dataset)

/- Run the program with arguments and a text on its input. -/
def run
    (find : String → m Entry)
    (arguments : List String)
    (input : String) : m Report := do
  match ← (prepare find arguments).run with
  | .error report => pure report
  | .ok (a, settings, dataset) =>
      let rest :=
        if a.watch then
          watchText settings dataset input
        else
          a.answer settings dataset
      pure (rest.after (a.heading dataset))

end EmojiQuery
