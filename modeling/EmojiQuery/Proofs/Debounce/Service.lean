import EmojiQuery.Debounce.Worker
import EmojiQuery.Proofs.Debounce.Results
import EmojiQuery.Proofs.Time.Sums
import EmojiQuery.Settings

/-
  A service: a worker, and the channel through which commands
  are sent to it. Commands may be sent at any time. In between
  the worker takes the next one, or wakes from its sleep, in
  any order.

  Main declarations:
    * `Service`
    * `Service.send`
    * `Service.take?`
    * `Service.wake?`
    * `Service.Reachable`
    * `Service.Sound`
    * `Service.Reachable.sound`
-/

------------------------------------------------------------
-- Commands and Events
------------------------------------------------------------

namespace EmojiQuery

namespace Command

/- The query that is submitted. -/
def submission? :
    Command → Option String
| .submit query => some query
| .flush => none

/- The event of a command that was handled, with its answer. -/
def event
    (reply : Option Outcome) :
    Command → Debouncer.Event
| .submit query => .submitted query
| .flush => .flushed reply

end Command

/- The command that was handled. -/
def Debouncer.Event.command? :
    Debouncer.Event → Option Command
| .submitted query => some (.submit query)
| .polled _ => none
| .flushed _ => some .flush
| .cancelled _ => none

/- A command submits what its event says. -/
theorem Debouncer.Event.submission?_of_command?
    (event : Debouncer.Event) :
    event.command?.bind Command.submission? =
      event.submission? := by
  cases event <;> rfl

------------------------------------------------------------
-- The Service
------------------------------------------------------------

/-
  A worker and the commands that wait in its channel, first to
  last. Recorded are also all commands that were ever sent,
  and all that the worker did.
-/
structure Service where
  worker : Worker
  queue : List Command
  sent : List Command
  history : List Debouncer.Moment
deriving DecidableEq

namespace Service

/- A new worker, to which nothing was sent. -/
def start
    (dataset : Dataset)
    (window : Duration) : Service :=
  ⟨.start dataset window, [], [], []⟩

/- Send a command. It waits behind those sent before. -/
def send
    (s : Service)
    (c : Command) : Service :=
  { s with
    queue := s.queue ++ [c]
    sent := s.sent ++ [c] }

/-
  The worker takes the next command, if one waits. It
  publishes what it has to before it answers.
-/
def take?
    (s : Service)
    (now : Duration) : Option (Option Outcome × Service) :=
  match s.queue with
  | [] => none
  | c :: queue =>
      let (reply, w) := s.worker.handle now c
      some (reply,
        { s with
          worker := w
          queue := queue
          history := s.history ++ [⟨now, c.event reply⟩] })

/-
  The worker wakes, possibly too early. It sleeps only while a
  query waits.
-/
def wake?
    (s : Service)
    (now : Duration) : Option Service :=
  if s.worker.debouncer.isIdle then
    none
  else
    some
      { s with
        worker := s.worker.wake now
        history := s.history ++
          [⟨now, .polled (s.worker.debouncer.poll now).1⟩] }

/-
  The clock may show a time: it does not go back, and shows
  milliseconds of 64 bits.
-/
def MayRead
    (s : Service)
    (now : Duration) : Prop :=
  (∀ m ∈ s.history, m.time ≤ now) ∧
    now.toNanos < UInt64.size * 1000000

/-
  The states of a service with the window of some settings.
  Whatever can happen may happen next.
-/
inductive Reachable
    (dataset : Dataset)
    (settings : Settings) : Service → Prop where
| start :
    Reachable dataset settings (.start dataset settings.window)
| send
    {s : Service}
    (hReach : Reachable dataset settings s)
    (c : Command) :
    Reachable dataset settings (s.send c)
| take
    {s s' : Service}
    {now : Duration}
    {reply : Option Outcome}
    (hReach : Reachable dataset settings s)
    (hTime : s.MayRead now)
    (hTake : s.take? now = some (reply, s')) :
    Reachable dataset settings s'
| wake
    {s s' : Service}
    {now : Duration}
    (hReach : Reachable dataset settings s)
    (hTime : s.MayRead now)
    (hWake : s.wake? now = some s') :
    Reachable dataset settings s'

variable {s s' : Service}
variable {now : Duration}

/- The worker handles the first command, and notes it. -/
theorem take?_of_queue
    {c : Command}
    {queue : List Command}
    (now : Duration)
    (hQueue : s.queue = c :: queue) :
    ∃ s',
      s.take? now = some ((s.worker.handle now c).1, s') ∧
        s'.worker = (s.worker.handle now c).2 ∧
          s'.queue = queue ∧
            s'.history =
              s.history ++
                [⟨now, c.event (s.worker.handle now c).1⟩] := by
  rw [take?, hQueue]
  exact ⟨_, rfl, rfl, rfl, rfl⟩

/- No command is taken while none waits. -/
theorem take?_of_empty
    (hQueue : s.queue = []) :
    s.take? now = none := by
  rw [take?, hQueue]

/- Waking leaves the commands. -/
theorem fields_of_wake?
    (hWake : s.wake? now = some s') :
    s'.worker = s.worker.wake now ∧ s'.queue = s.queue := by
  rw [wake?] at hWake
  split at hWake
  · cases hWake
  · cases hWake
    exact ⟨rfl, rfl⟩

end Service

end EmojiQuery

------------------------------------------------------------
-- Publishing
------------------------------------------------------------

namespace EmojiQuery

/- A window of milliseconds always ends in time. -/
theorem Duration.exists_add?_ofMillis
    {now : Duration}
    (hNow : now.toNanos < UInt64.size * 1000000)
    (millis : UInt64) :
    ∃ due, now.add? (.ofMillis millis) = some due := by
  apply exists_add?_of_lt
  have hMillis := millis.toNat_lt
  rw [toNanos_ofMillis]
  unfold UInt64.size at hNow ⊢
  omega

/- So a query can always be submitted. -/
theorem Debouncer.exists_submit?
    {d : Debouncer}
    {millis : UInt64}
    {now : Duration}
    (hWindow : d.window = .ofMillis millis)
    (hNow : now.toNanos < UInt64.size * 1000000)
    (query : String) :
    ∃ due,
      d.submit? now query =
        some { d with pending := some ⟨query, due⟩ } := by
  rcases Duration.exists_add?_ofMillis hNow millis with
    ⟨due, hDue⟩
  refine ⟨due, ?_⟩
  rw [submit?, hWindow, hDue]
  rfl

namespace Worker

variable (w : Worker)
variable (r : Option Outcome × Debouncer)

@[simp] theorem proceed_fst :
    (w.proceed r).1 = r.1 := by
  rcases r with ⟨_ | outcome, d⟩ <;> rfl

@[simp] theorem debouncer_proceed :
    (w.proceed r).2.debouncer = r.2 := by
  rcases r with ⟨_ | outcome, d⟩ <;> rfl

/- A snapshot is published for each outcome. -/
@[simp] theorem edition_proceed :
    (w.proceed r).2.edition =
      w.edition + r.1.toList.length := by
  rcases r with ⟨_ | outcome, d⟩ <;> rfl

variable {w r}

/- The latest snapshot stays that of the debouncer. -/
theorem latest_proceed
    (hLatest : w.latest = w.debouncer.snapshot)
    (hQuiet :
      r.1 = none → r.2.snapshot = w.debouncer.snapshot) :
    (w.proceed r).2.latest = r.2.snapshot := by
  rcases r with ⟨_ | outcome, d⟩
  · exact hLatest.trans (hQuiet rfl).symm
  · rfl

end Worker

/- What is shown changes with an outcome only. -/
theorem Debouncer.Keeps.snapshot_eq
    {d d' : Debouncer}
    {event : Debouncer.Event}
    (hKeeps : Debouncer.Keeps d event d')
    (hOutcome : event.outcome? = none) :
    d'.snapshot = d.snapshot := by
  rcases hKeeps.quiet hOutcome with
    ⟨hResults, hQuery, hError⟩
  rw [snapshot, hResults, hQuery, hError, ← snapshot]

------------------------------------------------------------
-- What Every State Keeps
------------------------------------------------------------

namespace Service

/-
  What holds of a service at all times. The commands that were
  taken are the first of those sent, and the others wait. What
  the worker did is a history of its debouncer, in which
  nothing is cancelled. Each outcome was published, and
  the latest snapshot is up to date.
-/
structure Sound
    (dataset : Dataset)
    (window : Duration)
    (s : Service) : Prop where
  fifo :
    s.sent =
      s.history.filterMap (fun m => m.event.command?) ++
        s.queue
  clock :
    s.history.Pairwise fun m n => m.time ≤ n.time
  uncancelled :
    ∀ m ∈ s.history, ¬ m.event.IsCancel
  run :
    Debouncer.Run dataset window s.history
      s.worker.debouncer
  latest :
    s.worker.latest = s.worker.debouncer.snapshot
  edition :
    s.worker.edition = (Debouncer.outcomes s.history).length

namespace Sound

variable {dataset : Dataset}
variable {window : Duration}
variable {s : Service}
variable {now : Duration}

/- It holds of a new service. -/
theorem start :
    Sound dataset window (.start dataset window) where
  fifo := rfl
  clock := .nil
  uncancelled := by
    intro m hMember
    cases hMember
  run := .start
  latest := rfl
  edition := rfl

/- It holds when a command was sent. -/
theorem send
    (hSound : Sound dataset window s)
    (c : Command) :
    Sound dataset window (s.send c) where
  fifo := by
    rw [Service.send, hSound.fifo, List.append_assoc]
  clock := hSound.clock
  uncancelled := hSound.uncancelled
  run := hSound.run
  latest := hSound.latest
  edition := hSound.edition

/-
  It holds after every response of the debouncer, for which
  the worker took a command or did not.
-/
theorem respond
    {request : Debouncer.Request}
    {event : Debouncer.Event}
    {r : Option Outcome × Debouncer}
    {queue : List Command}
    (hSound : Sound dataset window s)
    (hTime : s.MayRead now)
    (hRespond :
      s.worker.debouncer.respond? now request =
        some (event, r.2))
    (hOutcome : event.outcome? = r.1)
    (hCancel : ¬ event.IsCancel)
    (hQueue : s.queue = event.command?.toList ++ queue) :
    Sound dataset window
      { s with
        worker := (s.worker.proceed r).2
        queue := queue
        history := s.history ++ [⟨now, event⟩] } where
  fifo := by
    have hTaken :
        [(⟨now, event⟩ : Debouncer.Moment)].filterMap
            (fun m => m.event.command?) =
          event.command?.toList := by
      cases hCommand : event.command? <;> simp [hCommand]
    rw [List.filterMap_append, hTaken, List.append_assoc,
      ← hQueue]
    exact hSound.fifo
  clock := by
    rw [List.pairwise_append]
    refine ⟨hSound.clock, List.pairwise_singleton _ _, ?_⟩
    intro m hBefore n hLast
    rw [List.mem_singleton.mp hLast]
    exact hTime.1 m hBefore
  uncancelled := by
    intro m hMember
    rcases List.mem_append.mp hMember with hBefore | hLast
    · exact hSound.uncancelled m hBefore
    · rw [List.mem_singleton.mp hLast]
      exact hCancel
  run := by
    rw [Worker.debouncer_proceed]
    exact hSound.run.step hRespond
  latest := by
    rw [Worker.debouncer_proceed]
    refine Worker.latest_proceed hSound.latest ?_
    intro hNone
    have hStep := Debouncer.step_of_respond? hRespond
    exact hStep.keeps.snapshot_eq (hOutcome.trans hNone)
  edition := by
    rw [Worker.edition_proceed, hSound.edition,
      Debouncer.outcomes_concat, hOutcome, List.length_append]

/- It holds when the worker took a command. -/
theorem take
    {millis : UInt64}
    {reply : Option Outcome}
    {s' : Service}
    (hSound : Sound dataset (.ofMillis millis) s)
    (hTime : s.MayRead now)
    (hTake : s.take? now = some (reply, s')) :
    Sound dataset (.ofMillis millis) s' := by
  rw [take?] at hTake
  split at hTake
  · cases hTake
  · next c queue hQueue =>
      cases hTake
      cases c with
      | submit query =>
          rcases Debouncer.exists_submit? hSound.run.window_eq
              hTime.2 query with
            ⟨due, hSubmit⟩
          have hRespond :
              s.worker.debouncer.respond? now (.submit query) =
                some (.submitted query,
                  { s.worker.debouncer with
                    pending := some ⟨query, due⟩ }) := by
            rw [Debouncer.respond?, hSubmit]
            rfl
          simp only [hSubmit]
          exact hSound.respond
            (r := (none, { s.worker.debouncer with
              pending := some ⟨query, due⟩ }))
            hTime hRespond rfl (fun hCancel => hCancel) hQueue
      | flush =>
          have hReply := Worker.proceed_fst s.worker
            s.worker.debouncer.flush
          have hRespond :
              s.worker.debouncer.respond? now .flush =
                some (Command.flush.event
                    (s.worker.proceed
                      s.worker.debouncer.flush).1,
                  s.worker.debouncer.flush.2) := by
            rw [hReply]
            rfl
          exact hSound.respond
            (r := s.worker.debouncer.flush)
            hTime hRespond hReply (fun hCancel => hCancel) hQueue

/- It holds when the worker woke. -/
theorem wake
    {s' : Service}
    (hSound : Sound dataset window s)
    (hTime : s.MayRead now)
    (hWake : s.wake? now = some s') :
    Sound dataset window s' := by
  rw [wake?] at hWake
  split at hWake
  · cases hWake
  · cases hWake
    have hRespond :
        s.worker.debouncer.respond? now .poll =
          some
            (.polled (s.worker.debouncer.poll now).1,
              (s.worker.debouncer.poll now).2) :=
      rfl
    exact hSound.respond hTime hRespond rfl
      (fun hCancel => hCancel) rfl

end Sound

/- Every state is sound. -/
theorem Reachable.sound
    {dataset : Dataset}
    {settings : Settings}
    {s : Service}
    (hReach : Reachable dataset settings s) :
    Sound dataset settings.window s := by
  induction hReach with
  | start => exact .start
  | send hReach c ih => exact ih.send c
  | take hReach hTime hTake ih => exact ih.take hTime hTake
  | wake hReach hTime hWake ih => exact ih.wake hTime hWake

end Service

end EmojiQuery
