import EmojiQuery.Proofs.Debounce.Polling

/-
  A service under a clock that is paused: time moves only
  while the worker has nothing to do, and never past the time
  at which a query becomes due. However the worker works off
  its commands and wakes, it shows what a debouncer shows that
  is polled after every action.

  Main declarations:
    * `Service.Works`
    * `Paused`
    * `Paused.Performs`
    * `Paused.Plays`
    * `Paused.Follows`
    * `Paused.plays_iff_polled`
-/

------------------------------------------------------------
-- Working under a Paused Clock
------------------------------------------------------------

namespace EmojiQuery

namespace Service

/-
  What a worker may do until a last time, beginning now, and
  the answers that it gives. It is done when no command waits
  and nothing is due at the last time.
-/
inductive Works
    (last : Duration) :
    Duration → Service → List (Option Outcome) → Service →
      Prop where
/- Everything is done. -/
| done
    {s : Service}
    (hQueue : s.queue = [])
    (hQuiet : s.worker.debouncer.isDue last = false) :
    Works last last s [] s
/- The worker takes the next command. -/
| take
    {now : Duration}
    {s s' s'' : Service}
    {reply : Option Outcome}
    {replies : List (Option Outcome)}
    (hTake : s.take? now = some (reply, s'))
    (hWorks : Works last now s' replies s'') :
    Works last now s (reply :: replies) s''
/- The worker wakes, possibly too early. -/
| wake
    {now : Duration}
    {s s' s'' : Service}
    {replies : List (Option Outcome)}
    (hWake : s.wake? now = some s')
    (hWorks : Works last now s' replies s'') :
    Works last now s replies s''
/- Time moves, but not past a deadline. -/
| pass
    {now later : Duration}
    {s s' : Service}
    {replies : List (Option Outcome)}
    (hLater : now ≤ later)
    (hQueue : s.queue = [])
    (hPaused :
      ∀ due,
        s.worker.debouncer.deadline? = some due → later ≤ due)
    (hWorks : Works last later s replies s') :
    Works last now s replies s'

variable {last now : Duration}
variable {s s' : Service}
variable {replies : List (Option Outcome)}
variable {c : Command}

namespace Works

/-
  Without commands, all that can come of it is that the worker
  wakes for the last time.
-/
theorem of_empty
    (hWorks : Works last now s replies s')
    (hQueue : s.queue = []) :
    now ≤ last ∧ replies = [] ∧
      s'.worker = s.worker.wake last ∧ s'.queue = [] := by
  induction hWorks with
  | done _ hQuiet =>
      exact ⟨Nat.le_refl _, rfl,
        (Worker.wake_of_early hQuiet).symm, hQueue⟩
  | take hTake hWorks ih =>
      rw [take?_of_empty hQueue] at hTake
      cases hTake
  | wake hWake hWorks ih =>
      rcases fields_of_wake? hWake with ⟨hWorker, hRest⟩
      rcases ih (hRest.trans hQueue) with
        ⟨hLast, hReplies, hAfter, hEmpty⟩
      rw [hWorker, Worker.wake_wake _ hLast] at hAfter
      exact ⟨hLast, hReplies, hAfter, hEmpty⟩
  | pass hLater _ hPaused hWorks ih =>
      rcases ih hQueue with ⟨hLast, hResult⟩
      exact ⟨Nat.le_trans hLater hLast, hResult⟩

/-
  One command is taken once, and is handled as if nothing had
  happened before.
-/
theorem of_command
    (hWorks : Works last now s replies s')
    (hQueue : s.queue = [c])
    (hQuiet : s.worker.debouncer.isDue now = false) :
    replies = [(s.worker.handle now c).1] ∧
      s'.worker = (s.worker.handle now c).2.wake last ∧
        s'.queue = [] := by
  induction hWorks with
  | done hEmpty _ =>
      rw [hQueue] at hEmpty
      cases hEmpty
  | take hTake hWorks ih =>
      rcases take?_of_queue _ hQueue with
        ⟨_, hFirst, hWorker, hRest, _⟩
      rw [hTake] at hFirst
      cases hFirst
      rcases hWorks.of_empty hRest with
        ⟨_, hNone, hAfter, hEmpty⟩
      rw [hNone, hAfter, hWorker]
      exact ⟨rfl, rfl, hEmpty⟩
  | wake hWake hWorks ih =>
      rcases fields_of_wake? hWake with ⟨hWorker, hRest⟩
      rw [Worker.wake_of_early hQuiet] at hWorker
      rw [hWorker] at ih
      exact ih (hRest.trans hQueue) hQuiet
  | pass _ hEmpty _ hWorks ih =>
      rw [hQueue] at hEmpty
      cases hEmpty

/- If nothing is due before its end, time passes to that. -/
theorem pass_of_early
    (hQueue : s.queue = [])
    (hLast : now ≤ last)
    (hEarly :
      ∀ p, s.worker.debouncer.pending = some p → ¬ p.due ≤ last) :
    Works last now s [] s := by
  have hQuiet := Debouncer.isDue_eq_false_iff.mpr hEarly
  refine .pass hLast hQueue ?_ (.done hQueue hQuiet)
  intro due hDeadline
  rcases Option.map_eq_some_iff.mp hDeadline with
    ⟨p, hPending, rfl⟩
  exact Nat.le_of_not_le (hEarly p hPending)

/- The worker wakes for a query that is due, and is done. -/
theorem exists_of_due
    {p : Pending}
    (hQueue : s.queue = [])
    (hLast : now ≤ last)
    (hPending : s.worker.debouncer.pending = some p)
    (hDue : p.due ≤ now) :
    ∃ s', Works last now s [] s' := by
  have hWake :
      ∃ s', s.wake? now = some s' ∧
        s'.worker.debouncer.pending = none ∧ s'.queue = [] := by
    refine ⟨_, if_neg ?_, ?_, hQueue⟩
    · rw [Debouncer.isIdle, hPending]
      exact Bool.false_ne_true
    · simp only [Worker.debouncer_wake]
      rw [Debouncer.poll_of_due hPending hDue]
      exact Debouncer.pending_apply _ _
  rcases hWake with ⟨s', hWake, hIdle, hEmpty⟩
  refine ⟨s', .wake hWake (pass_of_early hEmpty hLast ?_)⟩
  intro _ hSome
  rw [hIdle] at hSome
  cases hSome

/- The worker can be done if no command waits. -/
theorem exists_of_empty
    (hQueue : s.queue = [])
    (hLast : now ≤ last) :
    ∃ s', Works last now s [] s' := by
  by_cases hDue :
      ∃ p, s.worker.debouncer.pending = some p ∧ p.due ≤ last
  · rcases hDue with ⟨p, hPending, hTime⟩
    by_cases hPast : p.due ≤ now
    · exact exists_of_due hQueue hLast hPending hPast
    · -- Time passes first, until the query is due.
      rcases exists_of_due hQueue hTime hPending
          (Nat.le_refl _) with
        ⟨s', hWorks⟩
      refine
        ⟨s', .pass (Nat.le_of_not_le hPast) hQueue ?_ hWorks⟩
      intro due hDeadline
      rw [Debouncer.deadline?, hPending, Option.map_some] at hDeadline
      cases hDeadline
      exact Nat.le_refl _
  · refine ⟨s, pass_of_early hQueue hLast ?_⟩
    intro p hPending hTime
    exact hDue ⟨p, hPending, hTime⟩

/- The worker can be done if one command waits. -/
theorem exists_of_command
    (hQueue : s.queue = [c])
    (hLast : now ≤ last) :
    ∃ reply s', Works last now s [reply] s' := by
  rcases take?_of_queue _ hQueue with ⟨_, hTake, _, hRest, _⟩
  rcases exists_of_empty hRest hLast with ⟨s', hWorks⟩
  exact ⟨_, s', .take hTake hWorks⟩

end Works

end Service

------------------------------------------------------------
-- Scripts
------------------------------------------------------------

/- A service and the time at which the clock is paused. -/
structure Paused where
  service : Service
  now : Duration
deriving DecidableEq

namespace Paused

/- A new service, and a clock at its origin. -/
def start
    (dataset : Dataset)
    (window : Duration) : Paused :=
  ⟨.start dataset window, .ofMillis 0⟩

/-
  What may be seen of an action. The time of a command does
  not pass before all is done that is due.
-/
inductive Performs
    (p : Paused) :
    Action → Observation → Paused → Prop where
| command
    {c : Command}
    {replies : List (Option Outcome)}
    {reply : Option Outcome}
    {s : Service}
    (hWorks :
      Service.Works p.now p.now (p.service.send c) replies s)
    (hReply : reply ∈ replies) :
    Performs p c.action
      (p.service.worker.observe s.worker reply) ⟨s, p.now⟩
| sleep
    {millis : UInt64}
    {last : Duration}
    {replies : List (Option Outcome)}
    {s : Service}
    (hLast : p.now.add? (.ofMillis millis) = some last)
    (hWorks : Service.Works last p.now p.service replies s) :
    Performs p (.sleep millis)
      (p.service.worker.observe s.worker none) ⟨s, last⟩

/- What may be seen of the actions of a script. -/
inductive Plays :
    Paused → List Action → List Observation → Prop where
| nil
    {p : Paused} :
    Plays p [] []
| cons
    {p p' : Paused}
    {action : Action}
    {script : List Action}
    {o : Observation}
    {os : List Observation}
    (hPerforms : p.Performs action o p')
    (hPlays : Plays p' script os) :
    Plays p (action :: script) (o :: os)

end Paused

/- A clock that is not moved past its end shows the sum. -/
theorem Clock.toNat_millis_advance_ofMillis
    {c : Clock}
    {millis : UInt64}
    (hEnd : c.millis.toNat + millis.toNat < UInt64.size) :
    (c.advance (.ofMillis millis)).millis.toNat =
      c.millis.toNat + millis.toNat := by
  rw [← Duration.wholeMillis_ofMillis millis] at hEnd
  rw [toNat_millis_advance hEnd, Duration.wholeMillis_ofMillis]

/- It then shows the time at which a sleep ends. -/
theorem Clock.now_advance
    {c : Clock}
    {millis : UInt64}
    (hEnd : c.millis.toNat + millis.toNat < UInt64.size) :
    c.now.add? (.ofMillis millis) =
      some (c.advance (.ofMillis millis)).now := by
  rw [Duration.add?_eq_some_iff, now, now,
    Duration.toNanos_ofMillis, Duration.toNanos_ofMillis,
    Duration.toNanos_ofMillis,
    toNat_millis_advance_ofMillis hEnd, Nat.add_mul]

/- A session's clock shows how long its actions took. -/
theorem Session.toNat_millis_perform
    {s : Session}
    {action : Action}
    (hEnd :
      s.clock.millis.toNat + action.millis < UInt64.size) :
    (s.perform action).2.clock.millis.toNat =
      s.clock.millis.toNat + action.millis := by
  cases action with
  | submit query =>
      rw [← Command.action, perform_command]
      rfl
  | sleep millis => exact Clock.toNat_millis_advance_ofMillis hEnd
  | flush =>
      rw [← Command.action, perform_command]
      rfl

namespace Paused

open Debouncer

/-
  The service follows a session: it has the same worker, all
  of whose commands are handled, and the same time.
-/
structure Follows
    (p : Paused)
    (s : Session) : Prop where
  queue : p.service.queue = []
  worker : p.service.worker = s.worker
  now : p.now = s.clock.now

namespace Follows

variable {window : Duration}
variable {millis : UInt64}
variable {p p' : Paused}
variable {s : Session}
variable {action : Action}
variable {o : Observation}

/- What is seen of a service is what is seen of the session. -/
theorem of_performs
    (hFollows : p.Follows s)
    (hRests : s.Rests window)
    (hEnd :
      s.clock.millis.toNat + action.millis < UInt64.size)
    (hPerforms : p.Performs action o p') :
    o = s.observe action ∧
      p'.Follows (s.perform action).2 := by
  rcases hFollows with ⟨hQueue, hWorker, hNow⟩
  cases hPerforms with
  | @command c _ _ _ hWorks hReply =>
      have hSent : (p.service.send c).queue = [c] := by
        rw [Service.send, hQueue]
        rfl
      have hDue := hRests.due
      rw [← hWorker, ← hNow] at hDue
      rcases hWorks.of_command hSent hDue with
        ⟨hReplies, hAfter, hEmpty⟩
      rw [Service.send, hWorker, hNow] at hReplies hAfter
      rw [hReplies, List.mem_singleton] at hReply
      rw [Session.observe, Session.perform_command, hWorker,
        hAfter, hReply]
      exact ⟨rfl, hEmpty, hAfter, hNow⟩
  | @sleep millis _ _ _ hLast hWorks =>
      rw [hNow, Clock.now_advance hEnd] at hLast
      cases hLast
      rcases hWorks.of_empty hQueue with
        ⟨_, _, hAfter, hEmpty⟩
      rw [hWorker] at hAfter
      rw [Session.observe, Session.perform_sleep, hWorker,
        hAfter]
      exact ⟨rfl, hEmpty, hAfter, rfl⟩

/- Every action can be performed. -/
theorem exists_performs
    (hFollows : p.Follows s)
    (hEnd :
      s.clock.millis.toNat + action.millis < UInt64.size) :
    ∃ o p', p.Performs action o p' := by
  have hCommand (c : Command) :
      ∃ o p', p.Performs c.action o p' := by
    have hSent : (p.service.send c).queue = [c] := by
      rw [Service.send, hFollows.queue]
      rfl
    rcases Service.Works.exists_of_command hSent
        (Nat.le_refl _) with
      ⟨reply, s', hWorks⟩
    exact ⟨_, _, .command hWorks (List.mem_singleton.mpr rfl)⟩
  cases action with
  | submit query => exact hCommand (.submit query)
  | sleep millis =>
      have hLast := Clock.now_advance hEnd
      rw [← hFollows.now] at hLast
      have hLater :
          p.now ≤ (s.clock.advance (.ofMillis millis)).now :=
        Nat.le.intro (Duration.toNanos_of_add? hLast).symm
      rcases Service.Works.exists_of_empty hFollows.queue
          hLater with
        ⟨s', hWorks⟩
      exact ⟨_, _, .sleep hLast hWorks⟩
  | flush => exact hCommand .flush

/- The same is seen of a whole script. -/
theorem plays_iff
    {script : List Action}
    {os : List Observation}
    (hFollows : p.Follows s)
    (hRests : s.Rests (.ofMillis millis))
    (hEnd :
      s.clock.millis.toNat + Action.totalMillis script <
        UInt64.size) :
    Plays p script os ↔ os = s.trace script := by
  induction script generalizing p s os with
  | nil =>
      constructor
      · intro hPlays
        cases hPlays
        rfl
      · rintro rfl
        exact .nil
  | cons action script ih =>
      rw [Action.totalMillis] at hEnd
      have hFirst :
          s.clock.millis.toNat + action.millis < UInt64.size := by
        omega
      have hRest :
          (s.perform action).2.clock.millis.toNat +
              Action.totalMillis script <
            UInt64.size := by
        rw [Session.toNat_millis_perform hFirst]
        omega
      have hAfter := (hRests.perform?_polled action).2
      constructor
      · intro hPlays
        cases hPlays with
        | cons hPerforms hPlays =>
            rcases hFollows.of_performs hRests hFirst
                hPerforms with
              ⟨hSeen, hNext⟩
            rw [Session.trace, hSeen,
              (ih hNext hAfter hRest).mp hPlays]
      · intro hTrace
        rcases hFollows.exists_performs hFirst with
          ⟨o, p', hPerforms⟩
        rcases hFollows.of_performs hRests hFirst
            hPerforms with
          ⟨hSeen, hNext⟩
        rw [hTrace, Session.trace, ← hSeen]
        exact .cons hPerforms ((ih hNext hAfter hRest).mpr rfl)

end Follows

/- A new service follows a new session. -/
theorem follows_start
    (dataset : Dataset)
    (window : Duration) :
    (Paused.start dataset window).Follows
      (.start dataset window) where
  queue := rfl
  worker := rfl
  now := rfl

/-
  A service, a session and a debouncer that is polled show the
  same, whatever the service does first.
-/
theorem plays_iff_polled
    (dataset : Dataset)
    (millis : UInt64)
    (script : List Action)
    (hEnd : Action.totalMillis script < UInt64.size) :
    ∃ seen,
      (Polled.start dataset (.ofMillis millis)).trace? script =
          some seen ∧
        (Session.start dataset (.ofMillis millis)).trace
            script =
          seen ∧
        ∀ os,
          Plays (.start dataset (.ofMillis millis)) script os ↔
            os = seen := by
  have hRests :
      Session.Rests (.ofMillis millis)
        (.start dataset (.ofMillis millis)) :=
    ⟨rfl, rfl, rfl⟩
  refine ⟨_, hRests.trace?_polled script, rfl, ?_⟩
  intro os
  refine (follows_start dataset _).plays_iff hRests ?_
  rw [Session.start, Clock.start]
  simpa using hEnd

/-
  A query is rejected just when it is due, another is flushed,
  and a third is evaluated in a sleep of several windows.
-/
def ringScript : List Action :=
  [.submit "x:1", .sleep 399, .sleep 1, .submit "u:1F48D",
    .flush, .submit "level:1", .sleep 2000]

/- It is seen which actions publish a snapshot. -/
theorem plays_iff_polled_for_ring :
    Action.totalMillis ringScript < UInt64.size ∧
      ∃ seen,
        (Polled.start ringDataset (.ofMillis 400)).trace?
              ringScript =
            some seen ∧
          (Session.start ringDataset (.ofMillis 400)).trace
              ringScript =
            seen ∧
          (∀ os,
            Plays (.start ringDataset (.ofMillis 400))
                ringScript os ↔
              os = seen) ∧
          seen.map Observation.published =
            [false, false, true, false, true, false, true] := by
  have hEnd : Action.totalMillis ringScript < UInt64.size := by
    decide +kernel
  have hPublished :
      ((Session.start ringDataset (.ofMillis 400)).trace
          ringScript).map
          Observation.published =
        [false, false, true, false, true, false, true] := by
    decide +kernel
  rcases plays_iff_polled ringDataset 400 ringScript hEnd with
    ⟨seen, hPolled, hSession, hPlays⟩
  refine ⟨hEnd, seen, hPolled, hSession, hPlays, ?_⟩
  rw [← hSession]
  exact hPublished

end Paused

end EmojiQuery
