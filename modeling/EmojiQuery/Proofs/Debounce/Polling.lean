import EmojiQuery.Debounce.Session
import EmojiQuery.Proofs.Debounce.Service
import EmojiQuery.Proofs.Time.Sums

/-
  A session shows the same as a debouncer that nobody wakes,
  but that is polled after every action.

  Main declarations:
    * `Observation`
    * `Session.trace`
    * `Polled`
    * `Polled.trace?`
    * `Session.Rests`
    * `Session.Rests.perform?_polled`
    * `Session.Rests.trace?_polled`
-/

------------------------------------------------------------
-- Observations
------------------------------------------------------------

namespace EmojiQuery

/-
  What can be seen of an action: the latest snapshot after it,
  the answer, and whether a snapshot was published.
-/
structure Observation where
  snapshot : Snapshot
  reply : Option Outcome
  published : Bool
deriving DecidableEq

/- The milliseconds that pass during an action. -/
def Action.millis :
    Action → Nat
| .submit _ => 0
| .sleep millis => millis.toNat
| .flush => 0

/- The milliseconds that pass during a script of actions. -/
def Action.totalMillis :
    List Action → Nat
| [] => 0
| action :: script => action.millis + totalMillis script

/- The action of sending a command. -/
def Command.action :
    Command → Action
| .submit query => .submit query
| .flush => .flush

/- What can be seen when a worker has become another. -/
def Worker.observe
    (w w' : Worker)
    (reply : Option Outcome) : Observation :=
  ⟨w'.latest, reply, decide (w.edition < w'.edition)⟩

namespace Session

/- What can be seen of an action in a session. -/
def observe
    (s : Session)
    (action : Action) : Observation :=
  s.worker.observe (s.perform action).2.worker
    (s.perform action).1

/- What can be seen of the actions of a script. -/
def trace :
    Session → List Action → List Observation
| _, [] => []
| s, action :: script =>
    s.observe action :: (s.perform action).2.trace script

end Session

------------------------------------------------------------
-- Polling
------------------------------------------------------------

/- A debouncer, and the clock by which it is polled. -/
structure Polled where
  debouncer : Debouncer
  clock : Clock
deriving DecidableEq

namespace Polled

/- A new debouncer, and a clock at its origin. -/
def start
    (dataset : Dataset)
    (window : Duration) : Polled :=
  ⟨.start dataset window, .start⟩

/-
  Do what an action asks for. It cannot be done if a window
  would not end in time.
-/
def ask?
    (p : Polled) :
    Action → Option (Option Outcome × Polled)
| .submit query =>
    (p.debouncer.submit? p.clock.now query).map fun d =>
      (none, { p with debouncer := d })
| .sleep millis =>
    some (none,
      { p with clock := p.clock.advance (.ofMillis millis) })
| .flush =>
    let (outcome, d) := p.debouncer.flush
    some (outcome, { p with debouncer := d })

/-
  Perform an action, and poll after it. A snapshot counts as
  published if either had an outcome.
-/
def perform?
    (p : Polled)
    (action : Action) : Option (Observation × Polled) := do
  let (reply, p) ← p.ask? action
  let (outcome, d) := p.debouncer.poll p.clock.now
  pure
    (⟨d.snapshot, reply, reply.isSome || outcome.isSome⟩,
      { p with debouncer := d })

/- What can be seen of the actions of a script. -/
def trace? :
    Polled → List Action → Option (List Observation)
| _, [] => some []
| p, action :: script => do
    let (o, p) ← p.perform? action
    let os ← p.trace? script
    pure (o :: os)

end Polled

------------------------------------------------------------
-- Waking
------------------------------------------------------------

/- A time is not after the later of two. -/
theorem Duration.le_max_left
    (a b : Duration) :
    a ≤ max a b := by
  change a ≤ if a ≤ b then b else a
  split
  · assumption
  · exact Nat.le_refl _

namespace Debouncer

variable {d : Debouncer}
variable {now later : Duration}

/- What is due stays due. -/
theorem isDue_mono
    (hDue : d.isDue now = true)
    (hLater : now ≤ later) :
    d.isDue later = true := by
  rw [isDue_iff] at hDue ⊢
  rcases hDue with ⟨p, hPending, hTime⟩
  exact ⟨p, hPending, Nat.le_trans hTime hLater⟩

/- Nothing is due before the time of the query that waits. -/
theorem isDue_eq_false_iff :
    d.isDue now = false ↔
      ∀ p, d.pending = some p → ¬ p.due ≤ now := by
  rw [Bool.eq_false_iff, ne_eq, isDue_iff]
  constructor
  · intro hEarly p hPending hTime
    exact hEarly ⟨p, hPending, hTime⟩
  · rintro hEarly ⟨p, hPending, hTime⟩
    exact hEarly p hPending hTime

/- Nothing is due while nothing waits. -/
theorem isDue_of_idle
    (hIdle : d.pending = none) :
    d.isDue now = false := by
  rw [isDue, deadline?, hIdle]
  rfl

@[simp] theorem window_flush
    (d : Debouncer) :
    d.flush.2.window = d.window := by
  cases hPending : d.pending with
  | none => rw [flush_of_idle hPending]
  | some p => rw [flush_of_pending hPending, window_apply]

@[simp] theorem window_poll
    (d : Debouncer)
    (now : Duration) :
    (d.poll now).2.window = d.window := by
  rw [poll]
  split
  · exact window_flush d
  · rfl

/- Nothing is due any more after a poll. -/
theorem isDue_poll
    (d : Debouncer)
    (now : Duration) :
    (d.poll now).2.isDue now = false := by
  rw [poll]
  split
  · exact isDue_of_idle (pending_flush d)
  · next hEarly => exact Bool.eq_false_iff.mpr hEarly

/- A flush without outcome changes nothing. -/
theorem flush_of_quiet
    (hQuiet : d.flush.1 = none) :
    d.flush.2 = d := by
  cases hPending : d.pending with
  | none => rw [flush_of_idle hPending]
  | some p =>
      rw [flush_of_pending hPending] at hQuiet
      cases hQuiet

/- A poll without outcome changes nothing. -/
theorem poll_of_quiet
    (hQuiet : (d.poll now).1 = none) :
    (d.poll now).2 = d := by
  rw [poll] at hQuiet ⊢
  split at hQuiet
  · next hDue =>
      rw [if_pos hDue]
      exact flush_of_quiet hQuiet
  · next hEarly => rw [if_neg hEarly]

end Debouncer

namespace Worker

variable {w : Worker}
variable {now later : Duration}

/- Nothing happens if the worker wakes too early. -/
theorem wake_of_early
    (hEarly : w.debouncer.isDue now = false) :
    w.wake now = w := by
  rw [wake, Debouncer.poll, hEarly]
  rfl

/- It does not matter how late the worker wakes. -/
theorem wake_of_due
    (hDue : w.debouncer.isDue now = true) :
    w.wake now = (w.proceed w.debouncer.flush).2 := by
  rw [wake, Debouncer.poll, if_pos hDue]

@[simp] theorem debouncer_wake
    (w : Worker)
    (now : Duration) :
    (w.wake now).debouncer = (w.debouncer.poll now).2 := by
  rw [wake, debouncer_proceed]

/- Nothing is due any more after the worker woke. -/
theorem isDue_wake
    (w : Worker)
    (now : Duration) :
    (w.wake now).debouncer.isDue now = false := by
  rw [debouncer_wake]
  exact Debouncer.isDue_poll _ _

/- The latest snapshot stays up to date. -/
theorem latest_wake
    (hLatest : w.latest = w.debouncer.snapshot) :
    (w.wake now).latest = (w.debouncer.poll now).2.snapshot := by
  rw [wake]
  refine latest_proceed hLatest ?_
  intro hQuiet
  rw [Debouncer.poll_of_quiet hQuiet]

/- Something is published if one of two evaluates a query. -/
theorem published_wake_proceed
    (w : Worker)
    (r : Option Outcome × Debouncer)
    (now : Duration) :
    decide
        (w.edition < ((w.proceed r).2.wake now).edition) =
      (r.1.isSome || (r.2.poll now).1.isSome) := by
  rw [wake, edition_proceed, edition_proceed,
    debouncer_proceed, Nat.add_assoc]
  simp only [Nat.lt_add_right_iff_pos]
  cases r.1 <;> cases (r.2.poll now).1 <;> rfl

/- A worker that wakes twice did not have to wake before. -/
theorem wake_wake
    (w : Worker)
    (hLater : now ≤ later) :
    (w.wake now).wake later = w.wake later := by
  cases hDue : w.debouncer.isDue now with
  | false => rw [wake_of_early hDue]
  | true =>
      rw [wake_of_due hDue,
        wake_of_due (Debouncer.isDue_mono hDue hLater)]
      apply wake_of_early
      rw [debouncer_proceed]
      exact Debouncer.isDue_of_idle
        (Debouncer.pending_flush _)

end Worker

namespace Session

variable (s : Session)

/- The worker wakes by a time as if it woke at that time. -/
theorem wakeBy_eq
    (time : Duration) :
    s.wakeBy time =
      { s with worker := s.worker.wake time } := by
  cases hPending : s.worker.debouncer.pending with
  | none =>
      rw [wakeBy, Debouncer.deadline?, hPending,
        Worker.wake_of_early (Debouncer.isDue_of_idle hPending)]
      rfl
  | some p =>
      rw [wakeBy, Debouncer.deadline?, hPending,
        Option.map_some]
      simp only
      split
      · next hTime =>
          have hDue : s.worker.debouncer.isDue p.due = true :=
            (Debouncer.isDue_iff _ _).mpr
              ⟨p, hPending, Nat.le_refl _⟩
          rw [Worker.wake_of_due
              (Debouncer.isDue_mono hDue hTime),
            Worker.wake_of_due
              (Debouncer.isDue_mono hDue
                (Duration.le_max_left _ _))]
      · next hTime =>
          have hEarly : s.worker.debouncer.isDue time = false := by
            rw [Debouncer.isDue_eq_false_iff, hPending]
            rintro _ ⟨⟩
            exact hTime
          rw [Worker.wake_of_early hEarly]

/- A command is handled, and what is due then is done. -/
theorem perform_command
    (c : Command) :
    s.perform c.action =
      ((s.worker.handle s.clock.now c).1,
        { s with
          worker :=
            (s.worker.handle s.clock.now c).2.wake
              s.clock.now }) := by
  have hSend : s.perform c.action = s.send c := by
    cases c <;> rfl
  exact hSend.trans (congrArg (Prod.mk _) (wakeBy_eq _ _))

/- What becomes due during a sleep is done before its end. -/
theorem perform_sleep
    (millis : UInt64) :
    s.perform (.sleep millis) =
      (none,
        ⟨s.worker.wake (s.clock.advance (.ofMillis millis)).now,
          s.clock.advance (.ofMillis millis)⟩) := by
  rw [perform, sleep, wakeBy_eq]

end Session

------------------------------------------------------------
-- A Session and Its Poll
------------------------------------------------------------

namespace Session

/- The debouncer of a session, as if it had to be polled. -/
def polled
    (s : Session) : Polled :=
  ⟨s.worker.debouncer, s.clock⟩

/-
  What holds of a session between two actions: the latest
  snapshot is up to date, and nothing is due.
-/
structure Rests
    (window : Duration)
    (s : Session) : Prop where
  window :
    s.worker.debouncer.window = window
  latest :
    s.worker.latest = s.worker.debouncer.snapshot
  due :
    s.worker.debouncer.isDue s.clock.now = false

/-
  What an action does on both sides: the debouncer answers
  alike, after which one is woken and the other polled.
-/
structure Asked
    (s : Session)
    (action : Action)
    (r : Option Outcome × Debouncer)
    (clock : Clock) : Prop where
  polled :
    s.polled.ask? action = some (r.1, ⟨r.2, clock⟩)
  session :
    s.perform action =
      (r.1, ⟨(s.worker.proceed r).2.wake clock.now, clock⟩)
  quiet :
    r.1 = none → r.2.snapshot = s.worker.debouncer.snapshot
  window :
    r.2.window = s.worker.debouncer.window

/- Every action can be done. -/
theorem Rests.exists_asked
    {millis : UInt64}
    {s : Session}
    (hRests : Rests (.ofMillis millis) s)
    (action : Action) :
    ∃ r clock, s.Asked action r clock := by
  cases action with
  | submit query =>
      rcases Debouncer.exists_submit? hRests.window
          s.clock.toNanos_now_lt query with
        ⟨due, hSubmit⟩
      refine
        ⟨(none, { s.worker.debouncer with
            pending := some ⟨query, due⟩ }),
          s.clock, ?_, ?_, fun _ => rfl, rfl⟩
      · rw [polled, Polled.ask?, hSubmit]
        rfl
      · rw [← Command.action, perform_command, Worker.handle,
          hSubmit]
        rfl
  | sleep millis =>
      exact
        ⟨(none, s.worker.debouncer),
          s.clock.advance (.ofMillis millis),
          rfl, perform_sleep s millis, fun _ => rfl, rfl⟩
  | flush =>
      refine ⟨s.worker.debouncer.flush, s.clock, rfl, ?_, ?_, ?_⟩
      · have hReply := Worker.proceed_fst s.worker
          s.worker.debouncer.flush
        rw [← Command.action, perform_command, Worker.handle,
          hReply]
      · intro hQuiet
        rw [Debouncer.flush_of_quiet hQuiet]
      · exact Debouncer.window_flush _

/- The poll finds what the worker does when it wakes. -/
theorem Rests.perform?_polled
    {millis : UInt64}
    {s : Session}
    (hRests : Rests (.ofMillis millis) s)
    (action : Action) :
    s.polled.perform? action =
        some (s.observe action, (s.perform action).2.polled) ∧
      Rests (.ofMillis millis) (s.perform action).2 := by
  rcases hRests.exists_asked action with ⟨r, clock, hAsked⟩
  have hProceed :
      (s.worker.proceed r).2.latest =
        (s.worker.proceed r).2.debouncer.snapshot := by
    rw [Worker.debouncer_proceed]
    exact Worker.latest_proceed hRests.latest hAsked.quiet
  have hWake :
      ((s.worker.proceed r).2.wake clock.now).latest =
        ((s.worker.proceed r).2.debouncer.poll
          clock.now).2.snapshot :=
    Worker.latest_wake hProceed
  constructor
  · rw [Polled.perform?, hAsked.polled, observe, hAsked.session,
      Worker.observe, hWake, Worker.published_wake_proceed,
      polled, Worker.debouncer_wake, Worker.debouncer_proceed]
    rfl
  · rw [hAsked.session]
    refine ⟨?_, ?_, Worker.isDue_wake _ _⟩
    · rw [Worker.debouncer_wake, Worker.debouncer_proceed,
        Debouncer.window_poll, hAsked.window, hRests.window]
    · rw [hWake, Worker.debouncer_wake]

/- A session shows what a debouncer shows that is polled. -/
theorem Rests.trace?_polled
    {millis : UInt64}
    {s : Session}
    (hRests : Rests (.ofMillis millis) s)
    (script : List Action) :
    s.polled.trace? script = some (s.trace script) := by
  induction script generalizing s with
  | nil => rfl
  | cons action script ih =>
      rcases hRests.perform?_polled action with
        ⟨hPerform, hAfter⟩
      rw [Polled.trace?, hPerform]
      simp only [Option.bind_eq_bind, Option.bind_some,
        ih hAfter]
      rfl

end Session

end EmojiQuery
