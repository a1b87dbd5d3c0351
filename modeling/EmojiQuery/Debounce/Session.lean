import EmojiQuery.Debounce.Worker
import EmojiQuery.Time.Clock

/-
  This file runs a worker on a clock of its own, which moves
  only while the session sleeps. Whatever is due at the
  current time is done before the next action.

  Key definitions include:
    * `Action`
    * `Session`
    * `Session.perform`
-/

namespace EmojiQuery

/- What can be done in a session. -/
inductive Action where
/- Let a query wait. -/
| submit (query : String)
/- Let time pass. -/
| sleep (millis : UInt64)
/- Evaluate the waiting query. -/
| flush
deriving DecidableEq, Repr

/- A worker and its clock. -/
structure Session where
  worker : Worker
  clock : Clock
deriving DecidableEq

namespace Session

/- A session at the origin of its clock. -/
def start
    (dataset : Dataset)
    (window : Duration) : Session :=
  ⟨.start dataset window, .start⟩

/-
  Let the worker wake for its waiting query, if that is due by
  a given time. It wakes when the query becomes due, or now if
  that time is past.
-/
def wakeBy
    (s : Session)
    (time : Duration) : Session :=
  match s.worker.debouncer.deadline? with
  | none => s
  | some due =>
      if due ≤ time then
        { s with worker := s.worker.wake (max due s.clock.now) }
      else
        s

/- Send a command, and let the worker do all that is due now. -/
def send
    (s : Session)
    (c : Command) : Option Outcome × Session :=
  let (reply, w) := s.worker.handle s.clock.now c
  (reply, { s with worker := w }.wakeBy s.clock.now)

/- Let time pass. The worker wakes in between if it has to. -/
def sleep
    (s : Session)
    (millis : UInt64) : Session :=
  let clock := s.clock.advance (.ofMillis millis)
  { s.wakeBy clock.now with clock := clock }

/- Perform an action; only one to flush is answered. -/
def perform
    (s : Session) :
    Action → Option Outcome × Session
| .submit query => s.send (.submit query)
| .sleep millis => (none, s.sleep millis)
| .flush => s.send .flush

end Session

end EmojiQuery
