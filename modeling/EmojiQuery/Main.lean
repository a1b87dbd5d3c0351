import EmojiQuery.CommandLine.Report

/-
  This file is the program. It looks up files, and watches the
  input while it is being typed.

  Key definitions include:
    * `main`
-/

namespace EmojiQuery

/- The number of the error that a directory is no file. -/
def directoryCode : UInt32 :=
  21

/- What is found under a path of the file system. -/
def findFile
    (path : String) : IO Entry := do
  try
    let bytes ← IO.FS.readBinFile path
    pure (.file bytes.toList)
  catch
  | .noFileOrDirectory .. => pure .absent
  | .inappropriateType _ code _ =>
      pure (if code = directoryCode then .directory else .absent)
  | _ => pure .directory

/- What this program says of that which it refuses. -/
def plainWording : Wording :=
  ⟨fun _ => "not a pattern", "cannot be read",
    fun
    | .ending => "the text ends too soon"
    | .grammar => "not a JSON text"
    | .shape => "not the data that is needed"
    | .source => "cannot be read"⟩

/- Write all that is logged, without the time. -/
def plainLogger : Logger :=
  fun severity text =>
    (match severity with
      | .warning => "[WARN] "
      | .failure => "[ERROR] ") ++ text ++ "\n"

/- Print a report. -/
def Report.print
    (r : Report) : IO Unit := do
  IO.print r.output
  IO.eprint (r.errors plainWording plainLogger)

/-
  Print what a worker published last, and log what became of
  the query, if it has just evaluated one.
-/
def Worker.print
    (settings : Settings) :
    Option Outcome × Worker → IO Unit
| (none, _) => pure ()
| (some outcome, w) =>
    ((Report.ofSnapshot settings.maxPrinted.toNat
      w.latest).afterLog outcome.logged?.toList).print

/- The time since an origin. -/
def elapsed
    (origin : Nat) : IO Duration := do
  pure (.ofMillis (.ofNat ((← IO.monoMsNow) - origin)))

/- A task that waits for the next line. -/
def nextLine
    (input : IO.FS.Stream) :
    IO (Task (Except IO.Error String)) :=
  IO.asTask input.getLine Task.Priority.dedicated

/-
  Let lines be typed until the input ends, and print what was
  found whenever nothing was typed for a while.
-/
partial def watchInput
    (settings : Settings)
    (input : IO.FS.Stream)
    (origin : Nat)
    (line : Task (Except IO.Error String))
    (w : Worker) : IO UInt32 := do
  let now ← elapsed origin
  if ← IO.hasFinished line then
    match line.get with
    | .error _ =>
        (Report.ofError .unreadable).print
        pure 1
    | .ok text =>
        if text.isEmpty then
          Worker.print settings (w.handle now .flush)
          pure 0
        else
          let query := (lines text.toList).headD []
          let (_, w) := w.handle now (.submit (String.ofList query))
          watchInput settings input origin (← nextLine input) w
  else
    let woken := w.proceed (w.debouncer.poll now)
    Worker.print settings woken
    IO.sleep 2
    watchInput settings input origin line woken.2

/- Run the program on the arguments of its command line. -/
def browse
    (arguments : List String) : IO UInt32 := do
  match ← (prepare findFile arguments).run with
  | .error report =>
      report.print
      pure report.status.toUInt32
  | .ok (a, settings, dataset) =>
      (a.heading dataset).print
      if a.watch then
        let input ← IO.getStdin
        watchInput settings input (← IO.monoMsNow) (← nextLine input)
          (.start dataset settings.window)
      else
        let report := a.answer settings dataset
        report.print
        pure report.status.toUInt32

end EmojiQuery

def main
    (arguments : List String) : IO UInt32 :=
  EmojiQuery.browse arguments
