import EmojiQuery.Debounce.Basic

/-
  This file defines the worker that runs a debouncer. It
  handles commands one at a time, wakes when the waiting query
  may be due, and publishes a snapshot after every query that
  it evaluated.

  Key definitions include:
    * `Command`
    * `Snapshot`
    * `Worker`
    * `Worker.handle`
    * `Worker.handleAll`
    * `Worker.wake`
-/

namespace EmojiQuery

/- A command to the worker. -/
inductive Command where
/- Let a query wait. -/
| submit (query : String)
/- Evaluate the waiting query, and answer with what became of it. -/
| flush
deriving DecidableEq, Repr

/-
  What the worker publishes: the results of the last query
  that could be evaluated, that query, and the error of the
  last query.
-/
structure Snapshot where
  query : Option String
  results : Results
  error : Option SearchError
deriving DecidableEq

/- The snapshot of a debouncer. -/
def Debouncer.snapshot
    (d : Debouncer) : Snapshot :=
  ⟨d.query, d.results, d.error⟩

/-
  A worker: its debouncer, the latest snapshot, and how many
  were published after the first.
-/
structure Worker where
  debouncer : Debouncer
  latest : Snapshot
  edition : Nat
deriving DecidableEq

namespace Worker

/- A worker whose first snapshot shows all records. -/
def start
    (dataset : Dataset)
    (window : Duration) : Worker :=
  let d := Debouncer.start dataset window
  ⟨d, d.snapshot, 0⟩

/- Go on with a debouncer, and publish if it evaluated a query. -/
def proceed
    (w : Worker) :
    Option Outcome × Debouncer → Option Outcome × Worker
| (none, d) => (none, { w with debouncer := d })
| (some outcome, d) => (some outcome, ⟨d, d.snapshot, w.edition + 1⟩)

/-
  Handle a command; only one to flush is answered. A query
  whose window would not end in time is not taken, which
  cannot happen while times are milliseconds of 64 bits.
-/
def handle
    (w : Worker)
    (now : Duration) :
    Command → Option Outcome × Worker
| .submit query =>
    (none,
      { w with
        debouncer := (w.debouncer.submit? now query).getD w.debouncer })
| .flush => w.proceed w.debouncer.flush

/- Handle commands in their order, all at the same time. -/
def handleAll
    (w : Worker)
    (now : Duration)
    (cs : List Command) : Worker :=
  cs.foldl (fun w c => (w.handle now c).2) w

/- Wake up, possibly before the waiting query is due. -/
def wake
    (w : Worker)
    (now : Duration) : Worker :=
  (w.proceed (w.debouncer.poll now)).2

end Worker

end EmojiQuery
