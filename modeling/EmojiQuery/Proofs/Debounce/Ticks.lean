import EmojiQuery.Proofs.Debounce.Polling

/-
  How long a query waits by a clock that is moved by hand. The
  clock goes on by the whole milliseconds of each step, and the
  query is due once these make up its window. What a step has
  besides whole milliseconds is lost.

  Main declarations:
    * `Tick`
    * `Tick.totalMillis`
    * `Tick.totalNanos`
    * `Polled.tick`
    * `Polled.outcomes`
    * `Polled.outcomes_concat_poll`
    * `Polled.brings_once_after_window`
    * `Polled.misses_window_of_half_millis`
-/

------------------------------------------------------------
-- Ticks
------------------------------------------------------------

namespace EmojiQuery

/- What happens while a query waits. -/
inductive Tick where
/- The clock is moved forward. -/
| advance (step : Duration)
/- The debouncer is polled. -/
| poll
deriving DecidableEq, Repr

namespace Tick

/- How long the step of a tick is. -/
def nanos :
    Tick → Nat
| .advance step => step.toNanos
| .poll => 0

/- How many milliseconds a clock goes on in a tick. -/
def millis :
    Tick → Nat
| .advance step => step.wholeMillis
| .poll => 0

/- Whether the clock is moved. -/
def isStep :
    Tick → Bool
| .advance _ => true
| .poll => false

/- How long the steps of some ticks are together. -/
def totalNanos :
    List Tick → Nat
| [] => 0
| t :: ts => t.nanos + totalNanos ts

/- How many milliseconds a clock goes on in some ticks. -/
def totalMillis :
    List Tick → Nat
| [] => 0
| t :: ts => t.millis + totalMillis ts

/- A tick loses less than a millisecond, and only in a step. -/
theorem nanos_bounds
    (t : Tick) :
    t.millis * 1000000 ≤ t.nanos ∧
      t.nanos ≤ t.millis * 1000000 + 999999 * t.isStep.toNat := by
  cases t with
  | advance step =>
      simp only [millis, nanos, isStep, Duration.wholeMillis,
        Bool.toNat_true]
      omega
  | poll =>
      simp [millis, nanos]

/- A clock goes on no more than the steps are long together. -/
theorem totalMillis_le
    (ts : List Tick) :
    totalMillis ts * 1000000 ≤ totalNanos ts := by
  induction ts with
  | nil => simp [totalMillis, totalNanos]
  | cons t ts ih =>
      rw [totalMillis, totalNanos, Nat.add_mul]
      exact Nat.add_le_add t.nanos_bounds.1 ih

/- It lags behind by less than a millisecond for each step. -/
theorem totalNanos_le
    (ts : List Tick) :
    totalNanos ts ≤
      totalMillis ts * 1000000 + 999999 * ts.countP isStep := by
  induction ts with
  | nil => simp [totalNanos]
  | cons t ts ih =>
      have hTick := t.nanos_bounds
      rw [totalMillis, totalNanos, List.countP_cons]
      cases hStep : t.isStep with
      | true =>
          rw [hStep, Bool.toNat_true] at hTick
          rw [if_pos rfl]
          omega
      | false =>
          rw [hStep, Bool.toNat_false] at hTick
          rw [if_neg Bool.false_ne_true]
          omega

/- Nothing is lost in steps of whole milliseconds. -/
theorem totalMillis_of_dvd
    {ts : List Tick}
    (hWhole : ∀ t ∈ ts, 1000000 ∣ t.nanos) :
    totalMillis ts * 1000000 = totalNanos ts := by
  induction ts with
  | nil => simp [totalMillis, totalNanos]
  | cons t ts ih =>
      rw [List.forall_mem_cons] at hWhole
      have hRest := ih hWhole.2
      have hTick : t.millis * 1000000 = t.nanos := by
        cases t with
        | advance step => exact Nat.div_mul_cancel hWhole.1
        | poll => exact Nat.zero_mul _
      rw [totalMillis, totalNanos, Nat.add_mul,
        hTick, hRest]

end Tick

end EmojiQuery

------------------------------------------------------------
-- Outcomes of Ticks
------------------------------------------------------------

namespace EmojiQuery

namespace Polled

/- Let a tick happen. Only a poll is answered. -/
def tick
    (p : Polled) :
    Tick → Option Outcome × Polled
| .advance step =>
    (none, { p with clock := p.clock.advance step })
| .poll =>
    let (outcome, d) := p.debouncer.poll p.clock.now
    (outcome, { p with debouncer := d })

/- The outcomes that the polls among some ticks return. -/
def outcomes :
    Polled → List Tick → List Outcome
| _, [] => []
| p, t :: ts =>
    (p.tick t).1.toList ++ (p.tick t).2.outcomes ts

/- Nothing comes of a step by itself. -/
theorem outcomes_advance
    (p : Polled)
    (step : Duration)
    (ts : List Tick) :
    p.outcomes (.advance step :: ts) =
      outcomes { p with clock := p.clock.advance step } ts := by
  simp only [outcomes, tick, Option.toList_none,
    List.nil_append]

/- A poll before the time changes nothing. -/
theorem outcomes_poll_of_early
    {p : Polled}
    (hEarly :
      ¬ ∃ w, p.debouncer.pending = some w ∧
        w.due ≤ p.clock.now)
    (ts : List Tick) :
    p.outcomes (.poll :: ts) = p.outcomes ts := by
  simp only [outcomes, tick, Debouncer.poll_of_early hEarly,
    Option.toList_none, List.nil_append]

/- Nothing comes of ticks while no query waits. -/
theorem outcomes_of_idle
    {p : Polled}
    (hIdle : p.debouncer.pending = none)
    (ts : List Tick) :
    p.outcomes ts = [] := by
  induction ts generalizing p with
  | nil => rfl
  | cons t ts ih =>
      cases t with
      | advance step =>
          rw [outcomes_advance]
          exact ih hIdle
      | poll =>
          rw [outcomes_poll_of_early]
          · exact ih hIdle
          · simp [hIdle]

/- A poll in time brings the outcome, and nothing comes after it. -/
theorem outcomes_poll_of_due
    {p : Polled}
    {w : Pending}
    (hPending : p.debouncer.pending = some w)
    (hDue : w.due ≤ p.clock.now)
    (ts : List Tick) :
    p.outcomes (.poll :: ts) =
      [(p.debouncer.apply w.query).1] := by
  simp only [outcomes, tick,
    Debouncer.poll_of_due hPending hDue, Option.toList_some]
  rw [outcomes_of_idle (Debouncer.pending_apply _ _),
    List.append_nil]

/-
  A query that waits is evaluated by a last poll or by one
  before it, if the clock has come to its time by then.
-/
theorem outcomes_concat_poll
    {p : Polled}
    {w : Pending}
    {ts : List Tick}
    (hPending : p.debouncer.pending = some w)
    (hEnd :
      p.clock.millis.toNat + Tick.totalMillis ts <
        UInt64.size) :
    p.outcomes (ts ++ [.poll]) =
      if w.due.toNanos ≤
          (p.clock.millis.toNat + Tick.totalMillis ts) *
            1000000 then
        [(p.debouncer.apply w.query).1]
      else
        [] := by
  -- Steps move the clock, so the induction is over every state.
  induction ts generalizing p with
  | nil =>
      rw [Tick.totalMillis, Nat.add_zero, List.nil_append]
      by_cases hDue : w.due ≤ p.clock.now
      · rw [outcomes_poll_of_due hPending hDue,
          if_pos ((p.clock.le_now_iff w.due).mp hDue)]
      · rw [outcomes_poll_of_early (by simp [hPending, hDue]),
          if_neg (mt (p.clock.le_now_iff w.due).mpr hDue), outcomes]
  | cons t ts ih =>
      rw [Tick.totalMillis, ← Nat.add_assoc] at hEnd ⊢
      rw [List.cons_append]
      cases t with
      | advance step =>
          have hClock :
              (p.clock.advance step).millis.toNat =
                p.clock.millis.toNat +
                  (Tick.advance step).millis := by
            apply Clock.toNat_millis_advance
            exact Nat.lt_of_le_of_lt (Nat.le_add_right _ _) hEnd
          rw [← hClock] at hEnd ⊢
          rw [outcomes_advance]
          exact ih hPending hEnd
      | poll =>
          by_cases hDue : w.due ≤ p.clock.now
          · rw [outcomes_poll_of_due hPending hDue, if_pos]
            apply Nat.le_trans ((p.clock.le_now_iff w.due).mp hDue)
            apply Nat.mul_le_mul_right
            exact Nat.le_add_right _ _
          · rw [outcomes_poll_of_early (by simp [hPending, hDue])]
            exact ih hPending hEnd

------------------------------------------------------------
-- The Next Poll
------------------------------------------------------------

/- What comes of some ticks, one after the other. -/
def after
    (p : Polled)
    (ts : List Tick) : Polled :=
  ts.foldl (fun p t => (p.tick t).2) p

/- A last poll adds what it returns. -/
theorem outcomes_append_poll
    (p : Polled)
    (ts : List Tick) :
    p.outcomes (ts ++ [.poll]) =
      p.outcomes ts ++ ((p.after ts).tick .poll).1.toList := by
  induction ts generalizing p with
  | nil =>
      exact List.append_nil _
  | cons t ts ih =>
      rw [List.cons_append, outcomes, outcomes, ih,
        List.append_assoc, after, after, List.foldl_cons]

/-
  The next poll after some ticks brings an outcome, unless one
  among them did already.
-/
def BringsOnce
    (p : Polled)
    (ts : List Tick)
    (outcome : Outcome) : Prop :=
  (p.outcomes ts = [] ∧
      ((p.after ts).tick .poll).1 = some outcome) ∨
    (p.outcomes ts = [outcome] ∧
      ((p.after ts).tick .poll).1 = none)

/- No poll brings an outcome by then. -/
def BringsNothing
    (p : Polled)
    (ts : List Tick) : Prop :=
  p.outcomes ts = [] ∧ ((p.after ts).tick .poll).1 = none

theorem bringsOnce_iff
    (p : Polled)
    (ts : List Tick)
    (outcome : Outcome) :
    p.BringsOnce ts outcome ↔
      p.outcomes (ts ++ [.poll]) = [outcome] := by
  rw [outcomes_append_poll, List.append_eq_singleton_iff,
    Option.toList_eq_singleton_iff, Option.toList_eq_nil_iff]
  exact Iff.rfl

theorem bringsNothing_iff
    (p : Polled)
    (ts : List Tick) :
    p.BringsNothing ts ↔ p.outcomes (ts ++ [.poll]) = [] := by
  rw [outcomes_append_poll, List.append_eq_nil_iff,
    Option.toList_eq_nil_iff]
  exact Iff.rfl

end Polled

end EmojiQuery

------------------------------------------------------------
-- After a Submission
------------------------------------------------------------

namespace EmojiQuery

/- What a query comes to does not depend on what waited before. -/
theorem Debouncer.apply_pending_fst
    (d : Debouncer)
    (pending : Option Pending)
    (query : String) :
    (apply { d with pending := pending } query).1 =
      (d.apply query).1 := by
  unfold apply
  cases d.dataset.search query with
  | ok results => rfl
  | error error => rfl

namespace Polled

variable {d waiting : Debouncer}
variable {c : Clock}
variable {query : String}
variable {ts : List Tick}

/-
  A query is evaluated once the clock has gone on by its
  window since it was submitted, and not before.
-/
theorem outcomes_of_submit?
    (hSubmit : d.submit? c.now query = some waiting)
    (hEnd :
      c.millis.toNat + Tick.totalMillis ts < UInt64.size) :
    outcomes ⟨waiting, c⟩ (ts ++ [.poll]) =
      if d.window.toNanos ≤ Tick.totalMillis ts * 1000000 then
        [(d.apply query).1]
      else
        [] := by
  unfold Debouncer.submit? at hSubmit
  rcases Option.map_eq_some_iff.mp hSubmit with
    ⟨due, hDue, rfl⟩
  rw [Duration.add?_eq_some_iff, Clock.now,
    Duration.toNanos_ofMillis] at hDue
  have hOver :
      due.toNanos ≤
          (c.millis.toNat + Tick.totalMillis ts) * 1000000 ↔
        d.window.toNanos ≤ Tick.totalMillis ts * 1000000 := by
    rw [hDue, Nat.add_mul]
    exact Nat.add_le_add_iff_left
  rw [outcomes_concat_poll rfl hEnd,
    Debouncer.apply_pending_fst]
  simp only [hOver]

/- It is evaluated once if the clock has gone on by its window. -/
theorem bringsOnce_of_submit?
    (hSubmit : d.submit? c.now query = some waiting)
    (hEnd :
      c.millis.toNat + Tick.totalMillis ts < UInt64.size)
    (hOver :
      d.window.toNanos ≤ Tick.totalMillis ts * 1000000) :
    BringsOnce ⟨waiting, c⟩ ts (d.apply query).1 := by
  rw [bringsOnce_iff, outcomes_of_submit? hSubmit hEnd,
    if_pos hOver]

/- It is not evaluated if the clock has not. -/
theorem bringsNothing_of_submit?
    (hSubmit : d.submit? c.now query = some waiting)
    (hWindow :
      c.now.toNanos + d.window.toNanos <
        UInt64.size * 1000000)
    (hEarly :
      Tick.totalMillis ts * 1000000 < d.window.toNanos) :
    BringsNothing ⟨waiting, c⟩ ts := by
  have hEnd :
      c.millis.toNat + Tick.totalMillis ts < UInt64.size := by
    rw [Clock.now, Duration.toNanos_ofMillis] at hWindow
    omega
  rw [bringsNothing_iff, outcomes_of_submit? hSubmit hEnd,
    if_neg (Nat.not_le_of_lt hEarly)]

/- A clock does not reach its end before its steps do. -/
theorem totalMillis_lt_of_steps
    (hEnd :
      c.now.toNanos + Tick.totalNanos ts <
        UInt64.size * 1000000) :
    c.millis.toNat + Tick.totalMillis ts < UInt64.size := by
  have hTotal := Tick.totalMillis_le ts
  rw [Clock.now, Duration.toNanos_ofMillis] at hEnd
  omega

/-
  A submitted query is evaluated once, by the next poll or by
  one before it, when the whole milliseconds of the steps make
  up its window, and by no poll before. So no poll evaluates it
  while the steps are shorter together than the window. Steps
  of whole milliseconds need to be as long together as the
  window, and any others longer, by less than a millisecond
  for each.
-/
theorem brings_once_after_window
    (d : Debouncer)
    (c : Clock)
    (query : String)
    (hWindow :
      c.now.toNanos + d.window.toNanos <
        UInt64.size * 1000000) :
    ∃ waiting,
      d.submit? c.now query = some waiting ∧
        (∀ ts,
          c.millis.toNat + Tick.totalMillis ts < UInt64.size →
            d.window.toNanos ≤ Tick.totalMillis ts * 1000000 →
              BringsOnce ⟨waiting, c⟩ ts (d.apply query).1) ∧
        (∀ ts,
          Tick.totalMillis ts * 1000000 < d.window.toNanos →
            BringsNothing ⟨waiting, c⟩ ts) ∧
        (∀ ts,
          Tick.totalNanos ts < d.window.toNanos →
            BringsNothing ⟨waiting, c⟩ ts) ∧
        ∀ ts,
          c.now.toNanos + Tick.totalNanos ts <
              UInt64.size * 1000000 →
            ((∀ t ∈ ts, 1000000 ∣ t.nanos) →
              d.window.toNanos ≤ Tick.totalNanos ts →
                BringsOnce ⟨waiting, c⟩ ts
                  (d.apply query).1) ∧
            (d.window.toNanos + 999999 * ts.countP Tick.isStep ≤
                Tick.totalNanos ts →
              BringsOnce ⟨waiting, c⟩ ts
                (d.apply query).1) := by
  have hSum :
      c.now.toNanos + d.window.toNanos <
        UInt64.size * 1000000000 := by
    unfold UInt64.size at hWindow ⊢
    omega
  rcases Duration.exists_add?_of_lt hSum with ⟨due, hDue⟩
  have hSubmit :
      d.submit? c.now query =
        some { d with pending := some ⟨query, due⟩ } := by
    rw [Debouncer.submit?, hDue, Option.map_some]
  refine ⟨_, hSubmit, ?_, ?_, ?_, ?_⟩
  · intro ts hEnd hOver
    exact bringsOnce_of_submit? hSubmit hEnd hOver
  · intro ts hEarly
    exact bringsNothing_of_submit? hSubmit hWindow hEarly
  · intro ts hShort
    apply bringsNothing_of_submit? hSubmit hWindow
    exact Nat.lt_of_le_of_lt (Tick.totalMillis_le ts) hShort
  · intro ts hEnd
    have hClock := totalMillis_lt_of_steps hEnd
    constructor
    · intro hWhole hLong
      rw [← Tick.totalMillis_of_dvd hWhole] at hLong
      exact bringsOnce_of_submit? hSubmit hClock hLong
    · intro hLong
      have hLost := Tick.totalNanos_le ts
      apply bringsOnce_of_submit? hSubmit hClock
      omega

/-
  Near the end of the clock, a window of one and a half
  milliseconds is over after two of them.
-/
theorem brings_once_after_window_near_end :
    let window : Duration := ⟨0, 1500000, by decide⟩
    let d : Debouncer := .start ⟨[], ⟨21, 22⟩⟩ window
    let c : Clock := ⟨.ofNat (UInt64.size - 5)⟩
    let outcome : Outcome :=
      .rejected "x:1" (.unknownField "x" "1")
    let broken : List Tick :=
      [.advance ⟨0, 900000, by decide⟩, .poll,
        .advance ⟨0, 1200000, by decide⟩, .poll,
        .advance ⟨0, 1200000, by decide⟩]
    let short : List Tick :=
      [.advance ⟨0, 1400000, by decide⟩, .poll]
    let whole : List Tick := [.advance (.ofMillis 2), .poll]
    let long : List Tick :=
      [.advance ⟨0, 1400000, by decide⟩,
        .advance ⟨0, 2200000, by decide⟩]
    c.now.toNanos + d.window.toNanos < UInt64.size * 1000000 ∧
      ∃ waiting,
        d.submit? c.now "x:1" = some waiting ∧
          (d.window.toNanos ≤ Tick.totalMillis broken * 1000000 ∧
            BringsOnce ⟨waiting, c⟩ broken outcome) ∧
          (Tick.totalNanos short < d.window.toNanos ∧
            BringsNothing ⟨waiting, c⟩ short) ∧
          ((∀ t ∈ whole, 1000000 ∣ t.nanos) ∧
            BringsOnce ⟨waiting, c⟩ whole outcome) ∧
          (d.window.toNanos + 999999 * long.countP Tick.isStep ≤
              Tick.totalNanos long ∧
            BringsOnce ⟨waiting, c⟩ long outcome) := by
  intro window d c outcome broken short whole long
  have hWindow :
      c.now.toNanos + d.window.toNanos <
        UInt64.size * 1000000 := by
    decide +kernel
  have hOutcome : (d.apply "x:1").1 = outcome := by
    decide +kernel
  have hBroken :
      d.window.toNanos ≤ Tick.totalMillis broken * 1000000 := by
    decide +kernel
  have hShort : Tick.totalNanos short < d.window.toNanos := by
    decide +kernel
  have hWhole : ∀ t ∈ whole, 1000000 ∣ t.nanos := by
    decide +kernel
  have hLong :
      d.window.toNanos + 999999 * long.countP Tick.isStep ≤
        Tick.totalNanos long := by
    decide +kernel
  rcases brings_once_after_window d c "x:1" hWindow with
    ⟨waiting, hSubmit, hOnce, _, hNothing, hSteps⟩
  rw [hOutcome] at hOnce hSteps
  refine ⟨hWindow, waiting, hSubmit, ⟨hBroken, ?_⟩,
    ⟨hShort, hNothing short hShort⟩, ⟨hWhole, ?_⟩, ⟨hLong, ?_⟩⟩
  · exact hOnce broken (by decide +kernel) hBroken
  · exact (hSteps whole (by decide +kernel)).1 hWhole
      (by decide +kernel)
  · exact (hSteps long (by decide +kernel)).2 hLong

/-
  Two half milliseconds do not move the clock, so that a query
  with a window of one millisecond goes on waiting. The length
  of the steps together does not decide.
-/
theorem misses_window_of_half_millis :
    let half : Duration := ⟨0, 500000, by decide⟩
    let d : Debouncer := .start ⟨[], ⟨21, 22⟩⟩ (.ofMillis 1)
    let ts : List Tick := [.advance half, .advance half]
    (∃ waiting,
      d.submit? Clock.start.now "" = some waiting ∧
        d.window.toNanos = Tick.totalNanos ts ∧
          BringsNothing ⟨waiting, .start⟩ ts) ∧
      ¬ ∀ (d : Debouncer) (c : Clock) (query : String)
          (waiting : Debouncer) (ts : List Tick),
        c.now.toNanos + d.window.toNanos ≤
            (UInt64.size - 1) * 1000000 →
          d.submit? c.now query = some waiting →
            c.now.toNanos + Tick.totalNanos ts ≤
                (UInt64.size - 1) * 1000000 →
              d.window.toNanos ≤ Tick.totalNanos ts →
                BringsOnce ⟨waiting, c⟩ ts
                  (d.apply query).1 := by
  intro half d ts
  have hSubmit :
      d.submit? Clock.start.now "" =
        some { d with pending := some ⟨"", .ofMillis 1⟩ } := by
    decide +kernel
  have hNothing :
      BringsNothing
        ⟨{ d with pending := some ⟨"", .ofMillis 1⟩ }, .start⟩
        ts := by
    exact ⟨by decide +kernel, by decide +kernel⟩
  refine ⟨⟨_, hSubmit, by decide +kernel, hNothing⟩, ?_⟩
  intro hAll
  have hOnce :=
    hAll d .start "" _ ts (by decide +kernel) hSubmit
      (by decide +kernel) (by decide +kernel)
  rw [bringsOnce_iff] at hOnce
  rw [bringsNothing_iff, hOnce] at hNothing
  cases hNothing

end Polled

end EmojiQuery
