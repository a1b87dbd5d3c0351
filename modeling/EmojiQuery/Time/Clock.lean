import EmojiQuery.Time.Duration

/-
  This file defines a clock that moves only when it is told
  to. It keeps whole milliseconds in 64 bits: finer parts of a
  duration are lost, and the clock starts over when it is
  moved past its end.

  Key definitions include:
    * `Clock`
    * `Clock.now`
    * `Clock.set`
    * `Clock.advance`
-/

namespace EmojiQuery

/- A clock that shows a number of milliseconds. -/
structure Clock where
  millis : UInt64
deriving DecidableEq, Repr

namespace Clock

/- The clock at its origin. -/
def start : Clock :=
  ⟨0⟩

/- The time that the clock shows. -/
def now
    (c : Clock) : Duration :=
  .ofMillis c.millis

/- Set the clock to a time. -/
def set
    (_ : Clock)
    (t : Duration) : Clock :=
  ⟨t.toMillis⟩

/- Move the clock forward. -/
def advance
    (c : Clock)
    (step : Duration) : Clock :=
  ⟨c.millis + step.toMillis⟩

end Clock

end EmojiQuery
