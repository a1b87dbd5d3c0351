import EmojiQuery.Proofs.Debounce.History

/-
  When queries fire. The query that waits is the one that was
  submitted last, and it is evaluated or cancelled at most
  once.

  Main declarations:
    * `Debouncer.Since`
    * `Debouncer.Waits`
    * `Debouncer.Run.waits`
    * `Debouncer.Fires`
    * `Debouncer.fires`
    * `Debouncer.LeadsTo`
    * `Debouncer.Run.exists_leadsTo`
    * `Debouncer.Debounced`
    * `Debouncer.Run.waits_and_fires`
-/

------------------------------------------------------------
-- Since
------------------------------------------------------------

namespace EmojiQuery

namespace Debouncer

/- Once there was a first moment, and only later ones after. -/
def Since
    (first later : Moment → Prop)
    (history : List Moment) : Prop :=
  ∃ i m,
    history[i]? = some m ∧ first m ∧
      ∀ (j : Nat) n, i < j → history[j]? = some n → later n

namespace Since

variable {first later : Moment → Prop}

/- Nothing was there before the first moment. -/
theorem not_nil :
    ¬ Since first later [] := by
  rintro ⟨i, m, hAt, _⟩
  simp at hAt

/- The last moment is a first one, or a later one. -/
theorem concat_iff
    (history : List Moment)
    (m : Moment) :
    Since first later (history ++ [m]) ↔
      first m ∨ (later m ∧ Since first later history) := by
  constructor
  · rintro ⟨i, n, hAt, hFirst, hLater⟩
    rcases (getElem?_concat_iff _ _ _ _).mp hAt with
      hBefore | ⟨_, rfl⟩
    · have hLt : i < history.length :=
        (List.getElem?_eq_some_iff.mp hBefore).1
      refine .inr ⟨hLater _ m hLt (by simp),
        i, n, hBefore, hFirst, ?_⟩
      intro j o hAfter hOther
      exact hLater j o hAfter
        ((getElem?_concat_iff _ _ _ _).mpr (.inl hOther))
    · exact .inl hFirst
  · rintro (hFirst | ⟨hLater, i, n, hAt, hFirst, hAll⟩)
    · refine ⟨history.length, m, by simp, hFirst, ?_⟩
      intro j o hAfter hOther
      have hBound := (List.getElem?_eq_some_iff.mp hOther).1
      rw [List.length_append, List.length_singleton] at hBound
      omega
    · refine ⟨i, n, ?_, hFirst, ?_⟩
      · exact (getElem?_concat_iff _ _ _ _).mpr (.inl hAt)
      · intro j o hAfter hOther
        rcases (getElem?_concat_iff _ _ _ _).mp hOther with
          hInside | ⟨_, rfl⟩
        · exact hAll j o hAfter hInside
        · exact hLater

end Since

------------------------------------------------------------
-- Waiting
------------------------------------------------------------

/- An outcome was returned, or the debouncer told to cancel. -/
def Event.Settles
    (event : Event) : Prop :=
  event.outcome? ≠ none ∨ event.IsCancel

/- A submitted query settles nothing. -/
theorem Event.not_settles_of_submission
    {event : Event}
    (hSubmit : event.submission? ≠ none) :
    ¬ event.Settles := by
  cases event with
  | submitted query =>
      simp [Settles, outcome?, IsCancel]
  | polled outcome =>
      exact absurd rfl hSubmit
  | flushed outcome =>
      exact absurd rfl hSubmit
  | cancelled query =>
      exact absurd rfl hSubmit

/- What was evaluated or cancelled is settled. -/
theorem Event.settles_of_settled
    {event : Event}
    (hSettled : event.settled? ≠ none) :
    event.Settles := by
  cases event with
  | submitted query =>
      exact absurd rfl hSettled
  | polled outcome =>
      refine .inl ?_
      intro hNone
      exact hSettled (congrArg (Option.map Outcome.query) hNone)
  | flushed outcome =>
      refine .inl ?_
      intro hNone
      exact hSettled (congrArg (Option.map Outcome.query) hNone)
  | cancelled query =>
      exact .inr trivial

/- An outcome settles its query. -/
theorem Event.settled?_of_outcome
    {event : Event}
    {outcome : Outcome}
    (hOutcome : event.outcome? = some outcome) :
    event.settled? = some outcome.query := by
  cases event with
  | submitted query => cases hOutcome
  | polled answer => exact congrArg (Option.map _) hOutcome
  | flushed answer => exact congrArg (Option.map _) hOutcome
  | cancelled query => cases hOutcome

/-
  A step lets a submitted query wait for a window, or nothing
  once all is settled, or does not touch what waits.
-/
theorem Step.pending_cases
    {d d' : Debouncer}
    {now : Duration}
    {event : Event}
    (hStep : Step d now event d') :
    (∃ query due,
      event.submission? = some query ∧
        now.add? d.window = some due ∧
          d'.pending = some ⟨query, due⟩) ∨
      (event.Settles ∧ d'.pending = none) ∨
        (event.submission? = none ∧ ¬ event.Settles ∧
          d'.pending = d.pending) := by
  cases hStep with
  | submitted hDue =>
      exact .inl ⟨_, _, rfl, hDue, rfl⟩
  | early hEarly =>
      refine .inr (.inr ⟨rfl, ?_, rfl⟩)
      simp [Event.Settles, Event.outcome?, Event.IsCancel]
  | polled hPending hDue =>
      refine .inr (.inl ⟨.inl ?_, pending_apply _ _⟩)
      simp [Event.outcome?]
  | idle hIdle =>
      refine .inr (.inr ⟨rfl, ?_, rfl⟩)
      simp [Event.Settles, Event.outcome?, Event.IsCancel]
  | flushed hPending =>
      refine .inr (.inl ⟨.inl ?_, pending_apply _ _⟩)
      simp [Event.outcome?]
  | cancelled =>
      exact .inr (.inl ⟨.inr trivial, rfl⟩)

/-
  The query that waits after a history. One waits exactly if
  one was submitted and none was settled since. It is the last
  that was submitted, and due a window after that.
-/
structure Waits
    (window : Duration)
    (history : List Moment)
    (d : Debouncer) : Prop where
  waiting_iff :
    d.isIdle = false ↔
      Since (fun m => m.event.submission? ≠ none)
        (fun m => ¬ m.event.Settles) history
  latest :
    ∀ p, d.pending = some p →
      Since
        (fun m =>
          m.event.submission? = some p.query ∧
            m.time.add? window = some p.due)
        (fun m =>
          m.event.submission? = none ∧ ¬ m.event.Settles)
        history

namespace Waits

variable {window : Duration}
variable {history : List Moment}
variable {d d' : Debouncer}

/- Nothing waits in a new debouncer. -/
theorem start
    (dataset : Dataset)
    (window : Duration) :
    Waits window [] (.start dataset window) := by
  constructor
  · constructor
    · intro hIdle
      cases hIdle
    · intro hSince
      exact absurd hSince Since.not_nil
  · intro p hPending
    cases hPending

/- A step brings about what waits after it. -/
theorem concat
    {now : Duration}
    {event : Event}
    (hWindow : d.window = window)
    (hWaits : Waits window history d)
    (hStep : Step d now event d') :
    Waits window (history ++ [⟨now, event⟩]) d' := by
  rcases hStep.pending_cases with
    ⟨query, due, hSubmit, hDue, hPending⟩ |
      ⟨hSettles, hPending⟩ | ⟨hSubmit, hCalm, hPending⟩
  · rw [hWindow] at hDue
    constructor
    · rw [Since.concat_iff, isIdle, hPending]
      simp [hSubmit]
    · intro p hSome
      rw [hPending, Option.some.injEq] at hSome
      subst hSome
      exact (Since.concat_iff _ _).mpr (.inl ⟨hSubmit, hDue⟩)
  · constructor
    · rw [Since.concat_iff, isIdle, hPending]
      constructor
      · intro hIdle
        cases hIdle
      · rintro (hSubmit | ⟨hCalm, _⟩)
        · exact absurd hSettles
            (Event.not_settles_of_submission hSubmit)
        · exact absurd hSettles hCalm
    · intro p hSome
      rw [hPending] at hSome
      cases hSome
  · constructor
    · rw [Since.concat_iff, isIdle, hPending, ← isIdle,
        hWaits.waiting_iff]
      simp [hSubmit, hCalm]
    · intro p hSome
      rw [hPending] at hSome
      exact (Since.concat_iff _ _).mpr
        (.inr ⟨⟨hSubmit, hCalm⟩, hWaits.latest p hSome⟩)

end Waits

/- After every history the right query waits. -/
theorem Run.waits
    {dataset : Dataset}
    {window : Duration}
    {history : List Moment}
    {d : Debouncer}
    (hRun : Run dataset window history d) :
    Waits window history d := by
  induction hRun with
  | start =>
      exact .start dataset window
  | step hRun hRespond ih =>
      exact ih.concat hRun.window_eq
        (step_of_respond? hRespond)

------------------------------------------------------------
-- Firing
------------------------------------------------------------

/-
  What fires. A poll evaluates the query that waits once it
  is due, a flush at once, and to cancel drops it. Nothing
  else is ever evaluated.
-/
structure Fires
    (d : Debouncer) : Prop where
  poll_iff :
    ∀ now,
      (d.poll now).1 ≠ none ↔
        ∃ p, d.pending = some p ∧ p.due ≤ now
  flush_iff :
    d.flush.1 ≠ none ↔ d.isIdle = false
  cancel_eq :
    d.cancel.1 = d.pending.map Pending.query
  query_eq :
    ∀ now request event d' outcome,
      d.respond? now request = some (event, d') →
        event.outcome? = some outcome →
          d.pending.map Pending.query = some outcome.query

/- The waiting query fires in every state. -/
theorem fires
    (d : Debouncer) :
    Fires d := by
  constructor
  · intro now
    by_cases hDue : ∃ p, d.pending = some p ∧ p.due ≤ now
    · rcases hDue with ⟨p, hPending, hTime⟩
      rw [poll_of_due hPending hTime]
      simp only [ne_eq, reduceCtorEq, not_false_eq_true,
        true_iff]
      exact ⟨p, hPending, hTime⟩
    · rw [poll_of_early hDue]
      simp only [ne_eq, not_true_eq_false, false_iff]
      exact hDue
  · rw [isIdle]
    cases hPending : d.pending with
    | none =>
        simp [flush_of_idle hPending]
    | some p =>
        simp [flush_of_pending hPending]
  · rfl
  · intro now request event d' outcome hRespond hOutcome
    rcases (step_of_respond? hRespond).apply_of_outcome
        hOutcome with
      ⟨p, hPending, hApply⟩
    have hQuery := query_apply d p.query
    rw [hApply] at hQuery
    rw [hPending, hQuery]
    rfl

------------------------------------------------------------
-- What Submissions Lead to
------------------------------------------------------------

/-
  A query was submitted at one index, and one was evaluated or
  cancelled at another, with nothing submitted in between.
-/
structure LeadsTo
    (history : List Moment)
    (i j : Nat) : Prop where
  before : i < j
  submission :
    ∃ m, history[i]? = some m ∧ m.event.submission? ≠ none
  settled :
    ∃ n, history[j]? = some n ∧ n.event.settled? ≠ none
  between :
    ∀ (k : Nat) o,
      i < k → k < j →
        history[k]? = some o → o.event.submission? = none

namespace LeadsTo

variable {history : List Moment}
variable {i i' j j' : Nat}

/- No submission leads past a later one. -/
theorem le_source
    {m : Moment}
    (hLeads : LeadsTo history i j)
    (hBefore : i' < j)
    (hAt : history[i']? = some m)
    (hSubmit : m.event.submission? ≠ none) :
    i' ≤ i := by
  rcases Nat.lt_or_ge i i' with hLt | hGe
  · exact absurd (hLeads.between i' m hLt hBefore hAt) hSubmit
  · exact hGe

/- Whatever is settled comes from one submission. -/
theorem source_unique
    (hLeads : LeadsTo history i j)
    (hOther : LeadsTo history i' j) :
    i = i' := by
  rcases hLeads.submission with ⟨m, hAt, hSubmit⟩
  rcases hOther.submission with ⟨m', hAt', hSubmit'⟩
  have hLe := hOther.le_source hLeads.before hAt hSubmit
  have hGe := hLeads.le_source hOther.before hAt' hSubmit'
  omega

/- What is settled first does not come from a later submission. -/
theorem source_le
    (hLeads : LeadsTo history i j)
    (hOther : LeadsTo history i' j')
    (hOrder : j < j') :
    i ≤ i' := by
  rcases hLeads.submission with ⟨m, hAt, hSubmit⟩
  have hBefore := hLeads.before
  exact hOther.le_source (by omega) hAt hSubmit

end LeadsTo

/- Whatever is settled is the query that was submitted last. -/
theorem Run.exists_leadsTo
    {dataset : Dataset}
    {window : Duration}
    {history : List Moment}
    {d : Debouncer}
    {j : Nat}
    {n : Moment}
    {query : String}
    (hRun : Run dataset window history d)
    (hAt : history[j]? = some n)
    (hSettled : n.event.settled? = some query) :
    ∃ i m due,
      LeadsTo history i j ∧
        history[i]? = some m ∧
          m.event.submission? = some query ∧
            m.time.add? window = some due ∧
              (∀ outcome,
                n.event = .polled (some outcome) →
                  due ≤ n.time) ∧
                ∀ (k : Nat) o,
                  i < k → k < j →
                    history[k]? = some o →
                      ¬ o.event.Settles := by
  rcases hRun.exists_step hAt with
    ⟨before, after, hBefore, hStep⟩
  rcases hStep.pending_of_settled hSettled with
    ⟨p, hPending, hQuery, hTime⟩
  rcases hBefore.waits.latest p hPending with
    ⟨i, m, hTake, ⟨hSubmit, hDue⟩, hLater⟩
  rw [hQuery] at hSubmit
  rw [List.getElem?_take,
    Option.ite_none_right_eq_some] at hTake
  rcases hTake with ⟨hOrder, hSource⟩
  have hBetween :
      ∀ (k : Nat) o,
        i < k → k < j → history[k]? = some o →
          o.event.submission? = none ∧
            ¬ o.event.Settles := by
    intro k o hAfter hUntil hOther
    refine hLater k o hAfter ?_
    rw [List.getElem?_take_of_lt hUntil, hOther]
  refine ⟨i, m, p.due, ?_, hSource, hSubmit, hDue, hTime, ?_⟩
  · constructor
    · exact hOrder
    · exact ⟨m, hSource, by simp [hSubmit]⟩
    · exact ⟨n, hAt, by simp [hSettled]⟩
    · intro k o hAfter hUntil hOther
      exact (hBetween k o hAfter hUntil hOther).1
  · intro k o hAfter hUntil hOther
    exact (hBetween k o hAfter hUntil hOther).2

/-
  What every history keeps to. Whatever is settled comes from
  one submission, and a submission leads to one outcome or one
  cancellation at most. Once another follows it before an
  outcome, only that one and later ones fire. All is settled
  in the order of the submissions. If the clock never goes
  back, a poll fires a window after everything submitted.
-/
structure Debounced
    (window : Duration)
    (history : List Moment) : Prop where
  sourced :
    ∀ (j : Nat) n query,
      history[j]? = some n → n.event.settled? = some query →
        ∃ i m, (∀ i', LeadsTo history i' j ↔ i' = i) ∧
          history[i]? = some m ∧
            m.event.submission? = some query
  once :
    ∀ i j j',
      LeadsTo history i j → LeadsTo history i j' → j = j'
  superseded :
    ∀ (i k : Nat) m,
      i < k →
        history[k]? = some m → m.event.submission? ≠ none →
        (∀ (j : Nat) o,
          i < j → j < k → history[j]? = some o →
            o.event.outcome? = none) →
          ∀ (j : Nat) o outcome,
            i < j → history[j]? = some o →
              o.event.outcome? = some outcome →
                ∃ l n, k ≤ l ∧ LeadsTo history l j ∧
                  history[l]? = some n ∧
                    n.event.submission? = some outcome.query
  ordered :
    ∀ i j i' j',
      LeadsTo history i j → LeadsTo history i' j' →
        (i < i' ↔ j < j')
  quiet :
    history.Pairwise (fun m n => m.time ≤ n.time) →
      ∀ (j : Nat) now outcome,
        history[j]? = some ⟨now, .polled (some outcome)⟩ →
          ∀ (i : Nat) m,
            i < j → history[i]? = some m →
              m.event.submission? ≠ none →
                m.time.toNanos + window.toNanos ≤ now.toNanos

namespace Run

variable {dataset : Dataset}
variable {window : Duration}
variable {history : List Moment}
variable {d : Debouncer}

/- A submission leads no further than to what it led to. -/
theorem leadsTo_le
    {i j j' : Nat}
    (hRun : Run dataset window history d)
    (hLeads : LeadsTo history i j)
    (hOther : LeadsTo history i j') :
    j' ≤ j := by
  rcases Nat.lt_or_ge j j' with hLt | hGe
  · rcases hLeads.settled with ⟨n, hAt, hSettled⟩
    rcases hOther.settled with ⟨n', hAt', hSettled'⟩
    rcases Option.ne_none_iff_exists'.mp hSettled' with
      ⟨query, hQuery⟩
    rcases hRun.exists_leadsTo hAt' hQuery with
      ⟨k, m, due, hSource, _, _, _, _, hCalm⟩
    obtain rfl := hSource.source_unique hOther
    exact absurd (Event.settles_of_settled hSettled)
      (hCalm j n hLeads.before hLt hAt)
  · exact hGe

/- A poll fires a window after all that was submitted. -/
theorem window_le_of_polled
    {i j : Nat}
    {m : Moment}
    {now : Duration}
    {outcome : Outcome}
    (hRun : Run dataset window history d)
    (hClock : history.Pairwise (fun m n => m.time ≤ n.time))
    (hPoll :
      history[j]? = some ⟨now, .polled (some outcome)⟩)
    (hBefore : i < j)
    (hAt : history[i]? = some m)
    (hSubmit : m.event.submission? ≠ none) :
    m.time.toNanos + window.toNanos ≤ now.toNanos := by
  rcases hRun.exists_leadsTo hPoll rfl with
    ⟨k, o, due, hLeads, hSource, _, hSum, hDue, _⟩
  have hLast : i ≤ k := hLeads.le_source hBefore hAt hSubmit
  have hTime : m.time.toNanos ≤ o.time.toNanos := by
    rcases Nat.eq_or_lt_of_le hLast with rfl | hLess
    · rw [hAt, Option.some.injEq] at hSource
      rw [hSource]
    · rcases List.getElem?_eq_some_iff.mp hAt with ⟨hi, rfl⟩
      rcases List.getElem?_eq_some_iff.mp hSource with
        ⟨hk, rfl⟩
      exact List.pairwise_iff_getElem.mp hClock i k hi hk hLess
  have hWindow := Duration.toNanos_of_add? hSum
  have hReached : due.toNanos ≤ now.toNanos :=
    hDue outcome rfl
  omega

/- Every history keeps to what it should. -/
theorem debounced
    (hRun : Run dataset window history d) :
    Debounced window history := by
  constructor
  · intro j n query hAt hSettled
    rcases hRun.exists_leadsTo hAt hSettled with
      ⟨i, m, due, hLeads, hSource, hSubmit, _⟩
    refine ⟨i, m, ?_, hSource, hSubmit⟩
    intro i'
    constructor
    · intro hOther
      exact hOther.source_unique hLeads
    · rintro rfl
      exact hLeads
  · intro i j j' hLeads hOther
    have hLe := hRun.leadsTo_le hOther hLeads
    have hGe := hRun.leadsTo_le hLeads hOther
    omega
  · intro i k m hLt hAt hSubmit hCalm
      j o outcome hAfter hFired hOutcome
    have hSettled := Event.settled?_of_outcome hOutcome
    rcases hRun.exists_leadsTo hFired hSettled with
      ⟨l, n, due, hLeads, hSource, hQuery, _⟩
    have hLate : k < j := by
      rcases Nat.lt_trichotomy k j with hLess | rfl | hMore
      · exact hLess
      · rw [hAt, Option.some.injEq] at hFired
        subst hFired
        refine absurd (.inl ?_)
          (Event.not_settles_of_submission hSubmit)
        simp [hOutcome]
      · rw [hCalm j o hAfter hMore hFired] at hOutcome
        cases hOutcome
    exact ⟨l, n, hLeads.le_source hLate hAt hSubmit,
      hLeads, hSource, hQuery⟩
  · intro i j i' j' hLeads hOther
    constructor
    · intro hOrder
      rcases Nat.lt_trichotomy j j' with hLess | rfl | hMore
      · exact hLess
      · have hSame := hLeads.source_unique hOther
        omega
      · have hLe := hOther.source_le hLeads hMore
        omega
    · intro hOrder
      have hLe := hLeads.source_le hOther hOrder
      rcases Nat.eq_or_lt_of_le hLe with rfl | hLess
      · have hSame := hRun.leadsTo_le hLeads hOther
        omega
      · exact hLess
  · intro hClock j now outcome hPoll i m hBefore hAt hSubmit
    exact hRun.window_le_of_polled hClock hPoll hBefore hAt
      hSubmit

/-
  After every history the right query waits, it fires when it
  should, and all that was settled keeps to the rules.
-/
theorem waits_and_fires
    (hRun : Run dataset window history d) :
    Waits window history d ∧ Fires d ∧
      Debounced window history := by
  exact ⟨hRun.waits, fires d, hRun.debounced⟩

end Run

/- Of two queries in a burst only the second fires. -/
theorem waits_and_fires_after_burst :
    let history : List Moment :=
      [⟨.zero, .submitted "x:1"⟩,
        ⟨.ofMillis 100, .submitted "x:2"⟩,
        ⟨.ofMillis 450, .polled none⟩,
        ⟨.ofMillis 500, .polled (some
          (.rejected "x:2" (.unknownField "x" "2")))⟩]
    ∃ d, Run ⟨[], ⟨21, 22⟩⟩ (.ofMillis 400) history d ∧
      Waits (.ofMillis 400) history d ∧ Fires d ∧
        Debounced (.ofMillis 400) history := by
  intro history
  let fault : SearchError := .unknownField "x" "2"
  let new : Debouncer :=
    .start ⟨[], ⟨21, 22⟩⟩ (.ofMillis 400)
  let first : Debouncer :=
    { new with pending := some ⟨"x:1", .ofMillis 400⟩ }
  let second : Debouncer :=
    { new with pending := some ⟨"x:2", .ofMillis 500⟩ }
  let last : Debouncer := { new with error := some fault }
  have hFirst :
      new.respond? .zero (.submit "x:1") =
        some (.submitted "x:1", first) := by
    decide +kernel
  have hSecond :
      first.respond? (.ofMillis 100) (.submit "x:2") =
        some (.submitted "x:2", second) := by
    decide +kernel
  have hEarly :
      second.respond? (.ofMillis 450) .poll =
        some (.polled none, second) := by
    decide +kernel
  have hFired :
      second.respond? (.ofMillis 500) .poll =
        some (.polled (some (.rejected "x:2" fault)),
          last) := by
    decide +kernel
  have hRun :
      Run ⟨[], ⟨21, 22⟩⟩ (.ofMillis 400) history last :=
    .step (.step (.step (.step .start hFirst) hSecond)
      hEarly) hFired
  exact ⟨last, hRun, hRun.waits_and_fires⟩

end Debouncer

end EmojiQuery
