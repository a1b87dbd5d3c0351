import EmojiQuery.Debounce.Basic
import EmojiQuery.Proofs.Lists

/-
  Histories of a debouncer: everything that was asked of it,
  with the readings of the clock and the answers.

  Main declarations:
    * `Debouncer.Request`
    * `Debouncer.respond?`
    * `Debouncer.Run`
    * `Debouncer.Step`
    * `Debouncer.step_of_respond?`
    * `Debouncer.Run.exists_step`
-/

------------------------------------------------------------
-- Requests and Events
------------------------------------------------------------

namespace EmojiQuery

namespace Outcome

/- The query that was applied, and how many records it found. -/
def applied? :
    Outcome → Option (String × Nat)
| .applied query count => some (query, count)
| .rejected _ _ => none

/- The error for which the query was rejected. -/
def error? :
    Outcome → Option SearchError
| .applied _ _ => none
| .rejected _ error => some error

/- The message of the error. -/
def message?
    (outcome : Outcome) : Option String :=
  outcome.error?.map SearchError.message

end Outcome

namespace Debouncer

/- The message of the error that the debouncer shows. -/
def message?
    (d : Debouncer) : Option String :=
  d.error.map SearchError.message

/- What can be asked of a debouncer. -/
inductive Request where
| submit (query : String)
| poll
| flush
| cancel
deriving DecidableEq, Repr

/- What was asked of a debouncer, and what it answered. -/
inductive Event where
| submitted (query : String)
| polled (outcome : Option Outcome)
| flushed (outcome : Option Outcome)
| cancelled (query : Option String)
deriving DecidableEq, Repr

namespace Event

/- The query that was submitted. -/
def submission? :
    Event → Option String
| .submitted query => some query
| .polled _ => none
| .flushed _ => none
| .cancelled _ => none

/- The outcome that was returned. -/
def outcome? :
    Event → Option Outcome
| .submitted _ => none
| .polled outcome => outcome
| .flushed outcome => outcome
| .cancelled _ => none

/- The query that was evaluated or cancelled. -/
def settled? :
    Event → Option String
| .submitted _ => none
| .polled outcome => outcome.map Outcome.query
| .flushed outcome => outcome.map Outcome.query
| .cancelled query => query

/- The debouncer was asked to cancel. -/
def IsCancel :
    Event → Prop
| .submitted _ => False
| .polled _ => False
| .flushed _ => False
| .cancelled _ => True

end Event

/- An event and the reading of the clock at it. -/
structure Moment where
  time : Duration
  event : Event
deriving DecidableEq, Repr

/- The outcomes of a history, first to last. -/
def outcomes
    (history : List Moment) : List Outcome :=
  history.filterMap fun m => m.event.outcome?

/- The last query of a history that was applied, with its count. -/
def lastApplied?
    (history : List Moment) : Option (String × Nat) :=
  ((outcomes history).filterMap Outcome.applied?).getLast?

------------------------------------------------------------
-- Runs
------------------------------------------------------------

/-
  Respond to a request. There is no response if the window of
  a submitted query would not end in time.
-/
def respond?
    (d : Debouncer)
    (now : Duration) :
    Request → Option (Event × Debouncer)
| .submit query =>
    (d.submit? now query).map fun d => (.submitted query, d)
| .poll =>
    let (outcome, d) := d.poll now
    some (.polled outcome, d)
| .flush =>
    let (outcome, d) := d.flush
    some (.flushed outcome, d)
| .cancel =>
    let (query, d) := d.cancel
    some (.cancelled query, d)

/-
  The histories of a new debouncer, and the state after each.
  The clock may show any time at any request.
-/
inductive Run
    (dataset : Dataset)
    (window : Duration) :
    List Moment → Debouncer → Prop where
| start :
    Run dataset window [] (.start dataset window)
| step
    {history : List Moment}
    {d d' : Debouncer}
    {now : Duration}
    {request : Request}
    {event : Event}
    (hRun : Run dataset window history d)
    (hRespond :
      d.respond? now request = some (event, d')) :
    Run dataset window (history ++ [⟨now, event⟩]) d'

------------------------------------------------------------
-- Steps
------------------------------------------------------------

/- Everything that a response can be. -/
inductive Step
    (d : Debouncer)
    (now : Duration) :
    Event → Debouncer → Prop where
| submitted
    {query : String}
    {due : Duration}
    (hDue : now.add? d.window = some due) :
    Step d now (.submitted query)
      { d with pending := some ⟨query, due⟩ }
| early
    (hEarly : ¬ ∃ p, d.pending = some p ∧ p.due ≤ now) :
    Step d now (.polled none) d
| polled
    {p : Pending}
    (hPending : d.pending = some p)
    (hDue : p.due ≤ now) :
    Step d now (.polled (some (d.apply p.query).1))
      (d.apply p.query).2
| idle
    (hIdle : d.pending = none) :
    Step d now (.flushed none) d
| flushed
    {p : Pending}
    (hPending : d.pending = some p) :
    Step d now (.flushed (some (d.apply p.query).1))
      (d.apply p.query).2
| cancelled :
    Step d now (.cancelled (d.pending.map Pending.query))
      { d with pending := none }

/- A flush does nothing while nothing waits. -/
theorem flush_of_idle
    {d : Debouncer}
    (hIdle : d.pending = none) :
    d.flush = (none, d) := by
  simp [flush, hIdle]

/- A flush evaluates the query that waits. -/
theorem flush_of_pending
    {d : Debouncer}
    {p : Pending}
    (hPending : d.pending = some p) :
    d.flush =
      (some (d.apply p.query).1, (d.apply p.query).2) := by
  simp [flush, hPending]

/- A query is due once its time has come. -/
theorem isDue_iff
    (d : Debouncer)
    (now : Duration) :
    d.isDue now = true ↔
      ∃ p, d.pending = some p ∧ p.due ≤ now := by
  rw [isDue, deadline?, Option.any_eq_true]
  constructor
  · rintro ⟨due, hDeadline, hTime⟩
    rcases Option.map_eq_some_iff.mp hDeadline with
      ⟨p, hPending, rfl⟩
    exact ⟨p, hPending, of_decide_eq_true hTime⟩
  · rintro ⟨p, hPending, hTime⟩
    have hDeadline : d.pending.map Pending.due = some p.due :=
      Option.map_eq_some_iff.mpr ⟨p, hPending, rfl⟩
    exact ⟨p.due, hDeadline, decide_eq_true hTime⟩

/- A poll does nothing before the time has come. -/
theorem poll_of_early
    {d : Debouncer}
    {now : Duration}
    (hEarly : ¬ ∃ p, d.pending = some p ∧ p.due ≤ now) :
    d.poll now = (none, d) := by
  rw [← isDue_iff] at hEarly
  exact if_neg hEarly

/- A poll in time evaluates the query that waits. -/
theorem poll_of_due
    {d : Debouncer}
    {now : Duration}
    {p : Pending}
    (hPending : d.pending = some p)
    (hDue : p.due ≤ now) :
    d.poll now =
      (some (d.apply p.query).1, (d.apply p.query).2) := by
  have hTime : d.isDue now = true :=
    (isDue_iff d now).mpr ⟨p, hPending, hDue⟩
  exact (if_pos hTime).trans (flush_of_pending hPending)

/- Every response is one of the steps. -/
theorem step_of_respond?
    {d d' : Debouncer}
    {now : Duration}
    {request : Request}
    {event : Event}
    (hRespond : d.respond? now request = some (event, d')) :
    Step d now event d' := by
  cases request with
  | submit query =>
      simp only [respond?, submit?, Option.map_map,
        Option.map_eq_some_iff] at hRespond
      rcases hRespond with ⟨due, hDue, hEq⟩
      cases hEq
      exact .submitted hDue
  | poll =>
      simp only [respond?, Option.some.injEq] at hRespond
      by_cases hDue : ∃ p, d.pending = some p ∧ p.due ≤ now
      · rcases hDue with ⟨p, hPending, hTime⟩
        rw [poll_of_due hPending hTime] at hRespond
        cases hRespond
        exact .polled hPending hTime
      · rw [poll_of_early hDue] at hRespond
        cases hRespond
        exact .early hDue
  | flush =>
      simp only [respond?, Option.some.injEq] at hRespond
      cases hPending : d.pending with
      | none =>
          rw [flush_of_idle hPending] at hRespond
          cases hRespond
          exact .idle hPending
      | some p =>
          rw [flush_of_pending hPending] at hRespond
          cases hRespond
          exact .flushed hPending
  | cancel =>
      cases hRespond
      exact .cancelled

namespace Step

variable {d d' : Debouncer}
variable {now : Duration}
variable {event : Event}

/- What is searched stays the same. -/
theorem dataset_eq
    (hStep : Step d now event d') :
    d'.dataset = d.dataset := by
  cases hStep with
  | submitted hDue => rfl
  | early hEarly => rfl
  | polled hPending hDue => exact dataset_apply _ _
  | idle hIdle => rfl
  | flushed hPending => exact dataset_apply _ _
  | cancelled => rfl

/- The length of the window stays the same. -/
theorem window_eq
    (hStep : Step d now event d') :
    d'.window = d.window := by
  cases hStep with
  | submitted hDue => rfl
  | early hEarly => rfl
  | polled hPending hDue => exact window_apply _ _
  | idle hIdle => rfl
  | flushed hPending => exact window_apply _ _
  | cancelled => rfl

/- An outcome is that of the query that waits. -/
theorem apply_of_outcome
    {outcome : Outcome}
    (hStep : Step d now event d')
    (hOutcome : event.outcome? = some outcome) :
    ∃ p, d.pending = some p ∧
      d.apply p.query = (outcome, d') := by
  cases hStep with
  | submitted hDue => cases hOutcome
  | early hEarly => cases hOutcome
  | polled hPending hDue =>
      cases hOutcome
      exact ⟨_, hPending, rfl⟩
  | idle hIdle => cases hOutcome
  | flushed hPending =>
      cases hOutcome
      exact ⟨_, hPending, rfl⟩
  | cancelled => cases hOutcome

/-
  Whatever is settled is the query that waits. If a poll does
  so, it is due.
-/
theorem pending_of_settled
    {query : String}
    (hStep : Step d now event d')
    (hSettled : event.settled? = some query) :
    ∃ p, d.pending = some p ∧ p.query = query ∧
      ∀ outcome,
        event = .polled (some outcome) → p.due ≤ now := by
  cases hStep with
  | submitted hDue => cases hSettled
  | early hEarly => cases hSettled
  | polled hPending hDue =>
      simp only [Event.settled?, Option.map_some,
        query_apply, Option.some.injEq] at hSettled
      refine ⟨_, hPending, hSettled, ?_⟩
      intro _ _
      exact hDue
  | idle hIdle => cases hSettled
  | flushed hPending =>
      simp only [Event.settled?, Option.map_some,
        query_apply, Option.some.injEq] at hSettled
      refine ⟨_, hPending, hSettled, ?_⟩
      intro outcome hEvent
      cases hEvent
  | cancelled =>
      rcases Option.map_eq_some_iff.mp hSettled with
        ⟨p, hPending, hQuery⟩
      refine ⟨p, hPending, hQuery, ?_⟩
      intro outcome hEvent
      cases hEvent

end Step

------------------------------------------------------------
-- Steps of a Run
------------------------------------------------------------

namespace Run

variable {dataset : Dataset}
variable {window : Duration}
variable {history : List Moment}
variable {d : Debouncer}

/- A debouncer searches what it was made for. -/
theorem dataset_eq
    (hRun : Run dataset window history d) :
    d.dataset = dataset := by
  induction hRun with
  | start => rfl
  | step hRun hRespond ih =>
      rw [(step_of_respond? hRespond).dataset_eq, ih]

/- A debouncer waits for the window it was made with. -/
theorem window_eq
    (hRun : Run dataset window history d) :
    d.window = window := by
  induction hRun with
  | start => rfl
  | step hRun hRespond ih =>
      rw [(step_of_respond? hRespond).window_eq, ih]

/- Each moment of a history is a step from what came before. -/
theorem exists_step
    {i : Nat}
    {m : Moment}
    (hRun : Run dataset window history d)
    (hAt : history[i]? = some m) :
    ∃ before after,
      Run dataset window (history.take i) before ∧
        Step before m.time m.event after := by
  induction hRun with
  | start => simp at hAt
  | @step history d d' now request event hRun hRespond ih =>
      rcases (getElem?_concat_iff _ _ _ _).mp hAt with
        hBefore | ⟨rfl, rfl⟩
      · have hLt : i < history.length :=
          (List.getElem?_eq_some_iff.mp hBefore).1
        rw [List.take_append_of_le_length (by omega)]
        exact ih hBefore
      · rw [List.take_left]
        exact ⟨d, d', hRun, step_of_respond? hRespond⟩

end Run

end Debouncer

end EmojiQuery
