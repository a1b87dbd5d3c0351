import EmojiQuery.Dataset.Basic
import EmojiQuery.Time.Duration

/-
  This file defines the debouncer. It holds at most one query
  that waits to be evaluated, and evaluates it once nothing
  was submitted for a whole window of time. A query that is
  rejected leaves the results as they were.

  Key definitions include:
    * `Outcome`
    * `Debouncer`
    * `Debouncer.submit?`
    * `Debouncer.poll`
    * `Debouncer.flush`
    * `Debouncer.cancel`

  The main lemmas are `Debouncer.query_apply` and
  `Debouncer.pending_flush`.
-/

namespace EmojiQuery

/- What became of a query that was evaluated. -/
inductive Outcome where
/- Its results replaced the ones before. -/
| applied (query : String) (count : Nat)
/- It could not be evaluated. -/
| rejected (query : String) (error : SearchError)
deriving DecidableEq, Repr

/- The query that was evaluated. -/
def Outcome.query :
    Outcome → String
| .applied query _ => query
| .rejected query _ => query

/- A query that waits, and the time from which it may be evaluated. -/
structure Pending where
  query : String
  due : Duration
deriving DecidableEq, Repr

/-
  A debouncer: the query that waits, the results of the last
  query that could be evaluated, that query, unless there was
  none yet, and the error of the last query, if it had one.
-/
structure Debouncer where
  dataset : Dataset
  window : Duration
  pending : Option Pending
  results : Results
  query : Option String
  error : Option SearchError
deriving DecidableEq

namespace Debouncer

/- A debouncer that has seen no query, and shows all records. -/
def start
    (dataset : Dataset)
    (window : Duration) : Debouncer :=
  ⟨dataset, window, none, dataset.searchAll, none, none⟩

/- Whether no query waits. -/
def isIdle
    (d : Debouncer) : Bool :=
  d.pending.isNone

/- The time from which the waiting query may be evaluated. -/
def deadline?
    (d : Debouncer) : Option Duration :=
  d.pending.map Pending.due

/-
  Let a query wait for a whole window, in place of the one
  that waits. The end of the window must be a time.
-/
def submit?
    (d : Debouncer)
    (now : Duration)
    (query : String) : Option Debouncer :=
  (now.add? d.window).map fun due =>
    { d with pending := some ⟨query, due⟩ }

/- Evaluate a query. Nothing waits after it. -/
def apply
    (d : Debouncer)
    (query : String) : Outcome × Debouncer :=
  match d.dataset.search query with
  | .ok results =>
      (.applied query results.count,
        { d with
          pending := none
          results := results
          query := some query
          error := none })
  | .error error =>
      (.rejected query error,
        { d with
          pending := none
          error := some error })

@[simp] theorem query_apply
    (d : Debouncer)
    (query : String) :
    (d.apply query).1.query = query := by
  unfold apply
  split <;> rfl

@[simp] theorem pending_apply
    (d : Debouncer)
    (query : String) :
    (d.apply query).2.pending = none := by
  unfold apply
  split <;> rfl

@[simp] theorem dataset_apply
    (d : Debouncer)
    (query : String) :
    (d.apply query).2.dataset = d.dataset := by
  unfold apply
  split <;> rfl

@[simp] theorem window_apply
    (d : Debouncer)
    (query : String) :
    (d.apply query).2.window = d.window := by
  unfold apply
  split <;> rfl

/- Evaluate the waiting query at once. -/
def flush
    (d : Debouncer) : Option Outcome × Debouncer :=
  match d.pending with
  | none => (none, d)
  | some p =>
      let (outcome, d) := d.apply p.query
      (some outcome, d)

/- Nothing waits after a flush. -/
@[simp] theorem pending_flush
    (d : Debouncer) :
    d.flush.2.pending = none := by
  unfold flush
  split
  · assumption
  · next p _ =>
      exact pending_apply d p.query

/- Whether the waiting query may be evaluated. -/
def isDue
    (d : Debouncer)
    (now : Duration) : Bool :=
  d.deadline?.any fun due => due ≤ now

/- Evaluate the waiting query if its window is over. -/
def poll
    (d : Debouncer)
    (now : Duration) : Option Outcome × Debouncer :=
  if d.isDue now then d.flush else (none, d)

/- Drop the waiting query. -/
def cancel
    (d : Debouncer) : Option String × Debouncer :=
  (d.pending.map Pending.query, { d with pending := none })

end Debouncer

end EmojiQuery
