import EmojiQuery.Proofs.Debounce.Service

/-
  Submissions whose window would not end in time. A request is
  done in steps, and whatever it has changed when it is broken
  off stays changed. Only a submission can be broken off, and
  it has changed nothing by then, so that all goes on as if it
  had not been made.

  Main declarations:
    * `Debouncer.Procedure`
    * `Debouncer.attempt`
    * `Debouncer.attempts`
    * `Debouncer.Procedure.run_submission`
    * `Debouncer.attempt_eq`
    * `Debouncer.attempts_filter_endsInTime`
    * `Debouncer.attempt_submit_atomic`
-/

------------------------------------------------------------
-- Procedures
------------------------------------------------------------

namespace EmojiQuery

namespace Debouncer

/- Why a procedure is broken off. -/
inductive Break where
/- A time would be longer than any duration. -/
| overflow
deriving DecidableEq, Repr

/-
  A procedure that changes a debouncer. If it is broken off,
  the changes that it made before remain.
-/
abbrev Procedure :=
  EStateM Break Debouncer

namespace Procedure

/- Go on with a time, or break off if there is none. -/
def demand :
    Option Duration → Procedure Duration
| some time => pure time
| none => throw .overflow

/-
  The steps of a submission. The end of the window is added up
  word by word, and then the query is noted with it.
-/
def submission
    (now : Duration)
    (query : String) : Procedure Event := do
  let window := (← get).window
  let due ← demand (now.addWords? window)
  modify fun d => { d with pending := some ⟨query, due⟩ }
  pure (.submitted query)

/- The steps of a request. -/
def ofRequest
    (now : Duration) :
    Request → Procedure Event
| .submit query => submission now query
| .poll =>
    modifyGet fun d =>
      let (outcome, d) := d.poll now
      (.polled outcome, d)
| .flush =>
    modifyGet fun d =>
      let (outcome, d) := d.flush
      (.flushed outcome, d)
| .cancel =>
    modifyGet fun d =>
      let (query, d) := d.cancel
      (.cancelled query, d)

end Procedure

------------------------------------------------------------
-- Attempts
------------------------------------------------------------

/-
  Attempt a request. If it is broken off, there is no event,
  and the debouncer is as it was left.
-/
def attempt
    (d : Debouncer)
    (now : Duration)
    (request : Request) : Option Event × Debouncer :=
  match (Procedure.ofRequest now request).run d with
  | .ok event d => (some event, d)
  | .error _ d => (none, d)

/-
  Attempt the requests of a script, each at its own reading of
  the clock, whether or not others are broken off.
-/
def attempts :
    Debouncer → List (Duration × Request) →
      List (Option Event) × Debouncer
| d, [] => ([], d)
| d, (now, request) :: script =>
    let (event, d) := d.attempt now request
    let (events, d) := d.attempts script
    (event :: events, d)

variable {d d' : Debouncer}
variable {now : Duration}
variable {request : Request}
variable {event : Event}

/- The steps of a submission come to what a submission does. -/
theorem Procedure.run_submission
    (d : Debouncer)
    (now : Duration)
    (query : String) :
    (submission now query).run d =
      match d.submit? now query with
      | some d => .ok (.submitted query) d
      | none => .error .overflow d := by
  unfold submission submit? demand
  rw [← Duration.addWords?_eq_add?]
  cases hSum : now.addWords? d.window with
  | none =>
      simp only [EStateM.run_bind, EStateM.run_get, hSum,
        Option.map_none]
      rfl
  | some due =>
      simp only [EStateM.run_bind, EStateM.run_get, hSum,
        Option.map_some]
      rfl

/-
  A request that has a response is done to its end. Any other
  is broken off, and leaves the debouncer as it found it.
-/
theorem attempt_eq
    (d : Debouncer)
    (now : Duration)
    (request : Request) :
    d.attempt now request =
      match d.respond? now request with
      | some (event, d) => (some event, d)
      | none => (none, d) := by
  cases request with
  | submit query =>
      unfold attempt respond? Procedure.ofRequest
      simp only [Procedure.run_submission]
      cases d.submit? now query with
      | none => rfl
      | some d => rfl
  | poll => rfl
  | flush => rfl
  | cancel => rfl

/- No request changes the window. -/
theorem window_attempt
    (d : Debouncer)
    (now : Duration)
    (request : Request) :
    (d.attempt now request).2.window = d.window := by
  rw [attempt_eq]
  cases hRespond : d.respond? now request with
  | none => rfl
  | some response =>
      exact (step_of_respond? hRespond).window_eq

/- A request that is broken off leaves the debouncer as it was. -/
theorem attempt_of_broken
    {d : Debouncer}
    {now : Duration}
    {request : Request}
    (hBroken : (d.attempt now request).1 = none) :
    (d.attempt now request).2 = d := by
  rw [attempt_eq] at hBroken ⊢
  cases hRespond : d.respond? now request with
  | none => rfl
  | some response =>
      rw [hRespond] at hBroken
      cases hBroken

------------------------------------------------------------
-- Requests That End in Time
------------------------------------------------------------

/-
  A request can be done to its end: if it is a submission, the
  window that begins with it ends in time.
-/
def endsInTime
    (window : Duration) :
    Duration × Request → Bool
| (now, .submit _) => (now.add? window).isSome
| (_, .poll) => true
| (_, .flush) => true
| (_, .cancel) => true

/- Just what can be done to its end is not broken off. -/
theorem isSome_attempt
    (d : Debouncer)
    (now : Duration)
    (request : Request) :
    (d.attempt now request).1.isSome =
      endsInTime d.window (now, request) := by
  rw [attempt_eq]
  cases request with
  | submit query =>
      simp only [respond?, submit?, endsInTime]
      cases now.add? d.window with
      | none => rfl
      | some due => rfl
  | poll => rfl
  | flush => rfl
  | cancel => rfl

/- A script begins with its first request. -/
theorem attempts_cons
    (d : Debouncer)
    (now : Duration)
    (request : Request)
    (script : List (Duration × Request)) :
    d.attempts ((now, request) :: script) =
      ((d.attempt now request).1 ::
          ((d.attempt now request).2.attempts script).1,
        ((d.attempt now request).2.attempts script).2) := by
  rfl

/-
  What does not end in time can be left out of a script. All
  else has the same events, and comes to the same state.
-/
theorem attempts_filter_endsInTime
    (d : Debouncer)
    (script : List (Duration × Request)) :
    d.attempts (script.filter (endsInTime d.window)) =
      ((d.attempts script).1.filter Option.isSome,
        (d.attempts script).2) := by
  induction script generalizing d with
  | nil => rfl
  | cons entry script ih =>
      rcases entry with ⟨now, request⟩
      have hRest := ih (d.attempt now request).2
      rw [window_attempt] at hRest
      rw [attempts_cons, List.filter_cons, List.filter_cons,
        isSome_attempt]
      by_cases hEnds : endsInTime d.window (now, request) = true
      · rw [if_pos hEnds, if_pos hEnds, attempts_cons, hRest]
      · rw [if_neg hEnds, if_neg hEnds]
        have hBroken : (d.attempt now request).1 = none := by
          rw [← Option.not_isSome_iff_eq_none, isSome_attempt]
          exact hEnds
        rw [attempt_of_broken hBroken] at hRest ⊢
        exact hRest

------------------------------------------------------------
-- Submissions
------------------------------------------------------------

/- A submission is broken off if its window would be too long. -/
theorem attempt_submit_eq_none_iff
    (d : Debouncer)
    (now : Duration)
    (query : String) :
    (d.attempt now (.submit query)).1 = none ↔
      Duration.longest.toNanos <
        now.toNanos + d.window.toNanos := by
  rw [← Option.not_isSome_iff_eq_none, isSome_attempt,
    endsInTime, Option.not_isSome_iff_eq_none,
    Duration.add?_eq_none_iff_longest_lt]

/- Otherwise the query waits until the window is over. -/
theorem attempt_submit_of_due
    {d : Debouncer}
    {now due : Duration}
    (query : String)
    (hDue : due.toNanos = now.toNanos + d.window.toNanos) :
    d.attempt now (.submit query) =
      (some (.submitted query),
        { d with pending := some ⟨query, due⟩ }) := by
  rw [← Duration.add?_eq_some_iff] at hDue
  rw [attempt_eq, respond?, submit?, hDue]
  rfl

/-
  A submission is broken off just when the end of its window
  would be longer than any duration, which is to have 2^64
  seconds, the carry included. It then changes nothing, and
  whatever is attempted afterwards goes as if it had not been
  made. If the end is a time, the query waits until then, and
  this is so with any window of the settings, whatever a clock
  shows that counts milliseconds.
-/
theorem attempt_submit_atomic
    (d : Debouncer)
    (query : String) :
    (∀ now,
      ((d.attempt now (.submit query)).1 = none ↔
        d.submit? now query = none) ∧
      (d.submit? now query = none ↔
        Duration.longest.toNanos <
          now.toNanos + d.window.toNanos) ∧
      (d.submit? now query = none ↔
        UInt64.size ≤
          now.seconds.toNat + d.window.seconds.toNat +
            (now.nanos + d.window.nanos) / 1000000000)) ∧
      (∀ now,
        (d.attempt now (.submit query)).1 = none →
          (d.attempt now (.submit query)).2 = d ∧
            ∀ script,
              d.attempts ((now, .submit query) :: script) =
                (none :: (d.attempts script).1,
                  (d.attempts script).2)) ∧
      (∀ script,
        d.attempts (script.filter (endsInTime d.window)) =
          ((d.attempts script).1.filter Option.isSome,
            (d.attempts script).2)) ∧
      (∀ now due,
        due.toNanos = now.toNanos + d.window.toNanos →
          d.attempt now (.submit query) =
            (some (.submitted query),
              { d with pending := some ⟨query, due⟩ })) ∧
      ∀ (settings : Settings) (clock : Clock),
        d.window = settings.window →
          ∃ due,
            due.toNanos =
                clock.now.toNanos + settings.window.toNanos ∧
              d.attempt clock.now (.submit query) =
                (some (.submitted query),
                  { d with pending := some ⟨query, due⟩ }) := by
  have hMissing :
      ∀ now,
        d.submit? now query = none ↔
          now.add? d.window = none := by
    intro now
    exact Option.map_eq_none_iff
  refine ⟨?_, ?_, ?_, ?_, ?_⟩
  · intro now
    rw [hMissing, attempt_submit_eq_none_iff,
      ← Duration.longest_lt_iff_seconds,
      Duration.add?_eq_none_iff_longest_lt]
    exact ⟨Iff.rfl, Iff.rfl, Iff.rfl⟩
  · intro now hBroken
    have hSame := attempt_of_broken hBroken
    refine ⟨hSame, ?_⟩
    intro script
    rw [attempts_cons, hBroken, hSame]
  · exact d.attempts_filter_endsInTime
  · intro now due hDue
    exact attempt_submit_of_due query hDue
  · intro settings clock hWindow
    rcases Duration.exists_add?_ofMillis clock.toNanos_now_lt
        settings.debounceMillis with
      ⟨due, hDue⟩
    rw [Duration.add?_eq_some_iff, ← Settings.window] at hDue
    refine ⟨due, hDue, ?_⟩
    rw [← hWindow] at hDue
    exact attempt_submit_of_due query hDue

/-
  One nanosecond decides whether a window ends in time. If not,
  the query that waited is evaluated by the next flush.
-/
theorem attempt_submit_atomic_at_longest :
    let dataset : Dataset := ⟨[], ⟨21, 22⟩⟩
    let window : Duration :=
      ⟨.ofNat (UInt64.size - 2), 1, by decide⟩
    let late : Duration := ⟨1, 999999999, by decide⟩
    let early : Duration := ⟨1, 999999998, by decide⟩
    let d : Debouncer :=
      { start dataset window with
        pending := some ⟨"x:1", .ofMillis 5000⟩ }
    let last : Clock := ⟨.ofNat (UInt64.size - 1)⟩
    let usual : Debouncer :=
      start dataset Settings.default.window
    (d.attempt late (.submit "x:2")).1 = none ∧
      (d.attempts [(late, .flush)]).1 =
          [some (.flushed (some
            (.rejected "x:1" (.unknownField "x" "1"))))] ∧
        d.attempts [(late, .submit "x:2"), (late, .flush)] =
          (none :: (d.attempts [(late, .flush)]).1,
            (d.attempts [(late, .flush)]).2) ∧
      Duration.longest.toNanos =
          early.toNanos + d.window.toNanos ∧
        d.attempt early (.submit "x:2") =
          (some (.submitted "x:2"),
            { d with pending := some ⟨"x:2", .longest⟩ }) ∧
      usual.window = Settings.default.window ∧
        ∃ due,
          due.toNanos =
              last.now.toNanos +
                Settings.default.window.toNanos ∧
            usual.attempt last.now (.submit "x:2") =
              (some (.submitted "x:2"),
                { usual with pending := some ⟨"x:2", due⟩ }) := by
  intro dataset window late early d last usual
  rcases attempt_submit_atomic d "x:2" with
    ⟨_, hBroken, _, hMade, _⟩
  rcases attempt_submit_atomic usual "x:2" with
    ⟨_, _, _, _, hSettings⟩
  have hLate : (d.attempt late (.submit "x:2")).1 = none := by
    decide +kernel
  have hFlush :
      (d.attempts [(late, .flush)]).1 =
        [some (.flushed (some
          (.rejected "x:1" (.unknownField "x" "1"))))] := by
    decide +kernel
  have hLongest :
      Duration.longest.toNanos =
        early.toNanos + d.window.toNanos := by
    decide +kernel
  exact ⟨hLate, hFlush, (hBroken late hLate).2 _, hLongest,
    hMade early .longest hLongest, rfl,
    hSettings Settings.default last rfl⟩

end Debouncer

end EmojiQuery
