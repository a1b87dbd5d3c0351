import EmojiQuery.Proofs.Debounce.Firing
import EmojiQuery.Proofs.Debounce.Service
import Mathlib.Data.List.Induction

/-
  A flush is a barrier. When it is answered, the query that
  was submitted last before it has been evaluated once, and
  what became of it is published.

  Main declarations:
    * `Debouncer.LastSubmission`
    * `Debouncer.Fate`
    * `Debouncer.Fate.step`
    * `Debouncer.Run.fate`
    * `Service.Lossless`
    * `Service.Barrier`
    * `Service.Reachable.lossless_and_barrier`
-/

------------------------------------------------------------
-- What Becomes of a Query
------------------------------------------------------------

namespace EmojiQuery

/- What becomes of a query when it is evaluated. -/
def Dataset.outcome
    (dataset : Dataset)
    (query : String) : Outcome :=
  match dataset.search query with
  | .ok results => .applied query results.count
  | .error error => .rejected query error

/-
  A snapshot answers a query: it shows the results of the
  query, or else the error for which it was rejected.
-/
def Snapshot.Answers
    (dataset : Dataset)
    (query : String)
    (s : Snapshot) : Prop :=
  match dataset.search query with
  | .ok results => s = ⟨some query, results, none⟩
  | .error error => s.error = some error

namespace Debouncer

/- An evaluation has the outcome of the query and answers it. -/
theorem apply_outcome_and_answers
    (d : Debouncer)
    (query : String) :
    (d.apply query).1 = d.dataset.outcome query ∧
      (d.apply query).2.snapshot.Answers d.dataset query := by
  simp only [Dataset.outcome, Snapshot.Answers]
  rcases d.apply_cases query with
    ⟨results, hSearch, hApply⟩ | ⟨error, hSearch, hApply⟩
  · rw [hSearch, hApply]
    exact ⟨rfl, rfl⟩
  · rw [hSearch, hApply]
    exact ⟨rfl, rfl⟩

------------------------------------------------------------
-- The Last Submission
------------------------------------------------------------

/- The query that was submitted last, and all that came after. -/
structure LastSubmission
    (history : List Moment)
    (query : String)
    (time : Duration)
    (later : List Moment) : Prop where
  split :
    ∃ earlier,
      history = earlier ++ ⟨time, .submitted query⟩ :: later
  last :
    ∀ m ∈ later, m.event.submission? = none

namespace LastSubmission

variable {history later : List Moment}
variable {query : String}
variable {time : Duration}
variable {m : Moment}

/- It is the last moment, or stays what it was before. -/
theorem concat_cases
    (hLast : LastSubmission (history ++ [m]) query time later) :
    (m = ⟨time, .submitted query⟩ ∧ later = []) ∨
      m.event.submission? = none ∧
        ∃ between,
          later = between ++ [m] ∧
            LastSubmission history query time between := by
  rcases hLast.split with ⟨earlier, hSplit⟩
  rcases List.eq_nil_or_concat later with
    rfl | ⟨between, n, rfl⟩
  · have hEnd := List.append_inj_right' hSplit rfl
    exact .inl ⟨List.singleton_inj.mp hEnd, rfl⟩
  · rw [List.concat_eq_append] at hSplit hLast ⊢
    rw [← List.cons_append, ← List.append_assoc] at hSplit
    have hEnd := List.append_inj_right' hSplit rfl
    obtain rfl := List.singleton_inj.mp hEnd
    refine .inr ⟨hLast.last m (by simp), between, rfl,
      ⟨earlier, List.append_cancel_right hSplit⟩, ?_⟩
    intro n hMember
    exact hLast.last n (List.mem_append_left _ hMember)

/- Another moment that submits nothing leaves it the last. -/
theorem concat
    (hLast : LastSubmission history query time later)
    (hSubmit : m.event.submission? = none) :
    LastSubmission (history ++ [m]) query time
      (later ++ [m]) := by
  constructor
  · rcases hLast.split with ⟨earlier, rfl⟩
    exact ⟨earlier, by simp⟩
  · intro n hMember
    rcases List.mem_append.mp hMember with hBefore | hEnd
    · exact hLast.last n hBefore
    · rw [List.mem_singleton.mp hEnd]
      exact hSubmit

/- The outcomes that came after it are the last ones. -/
theorem exists_outcomes
    (hLast : LastSubmission history query time later) :
    ∃ before,
      outcomes history = before ++ outcomes later := by
  rcases hLast.split with ⟨earlier, rfl⟩
  exact ⟨outcomes earlier, List.filterMap_append⟩

end LastSubmission

/- The last query that the moments of a history submitted. -/
theorem exists_lastSubmission
    {history : List Moment}
    {query : String}
    (hLast :
      (history.filterMap
        fun m => m.event.submission?).getLast? = some query) :
    ∃ time later,
      LastSubmission history query time later := by
  induction history using List.reverseRecOn with
  | nil => cases hLast
  | append_singleton history m ih =>
      rw [List.filterMap_append] at hLast
      cases hSubmit : m.event.submission? with
      | none =>
          simp only [List.filterMap_cons, hSubmit,
            List.filterMap_nil, List.append_nil] at hLast
          rcases ih hLast with ⟨time, later, hBefore⟩
          exact ⟨time, later ++ [m], hBefore.concat hSubmit⟩
      | some submitted =>
          simp only [List.filterMap_cons, hSubmit,
            List.filterMap_nil, List.getLast?_append_cons,
            List.getLast?_singleton, Option.some.injEq] at hLast
          subst hLast
          have hEvent : m.event = .submitted submitted := by
            cases hKind : m.event <;> rw [hKind] at hSubmit <;>
              cases hSubmit
            rfl
          refine ⟨m.time, [], ⟨history, ?_⟩, ?_⟩
          · rw [← hEvent]
          · intro n hMember
            cases hMember

------------------------------------------------------------
-- Its Fate
------------------------------------------------------------

/-
  What has become of the query that was submitted last: it
  waits for the end of its window, or was evaluated once and
  is what is shown.
-/
inductive Fate
    (dataset : Dataset)
    (window : Duration)
    (d : Debouncer)
    (query : String)
    (time : Duration)
    (later : List Moment) : Prop where
| waits
    {due : Duration}
    (hDue : time.add? window = some due)
    (hPending : d.pending = some ⟨query, due⟩)
    (hCalm : outcomes later = [])
| evaluated
    (hIdle : d.pending = none)
    (hOnce : outcomes later = [dataset.outcome query])
    (hShown : d.snapshot.Answers dataset query)

namespace Fate

variable {dataset : Dataset}
variable {window time : Duration}
variable {d d' : Debouncer}
variable {query : String}
variable {later : List Moment}
variable {m : Moment}

/- Nothing becomes of it while nothing happens. -/
theorem concat_of_quiet
    (hFate : Fate dataset window d query time later)
    (hOutcome : m.event.outcome? = none) :
    Fate dataset window d query time (later ++ [m]) := by
  have hSame : outcomes (later ++ [m]) = outcomes later := by
    rw [outcomes_concat, hOutcome]
    simp
  cases hFate with
  | waits hDue hPending hCalm =>
      exact .waits hDue hPending (hSame.trans hCalm)
  | evaluated hIdle hOnce hShown =>
      exact .evaluated hIdle (hSame.trans hOnce) hShown

/- If a query waits, it is this one, and can be evaluated. -/
theorem concat_of_apply
    {p : Pending}
    (hDataset : d.dataset = dataset)
    (hFate : Fate dataset window d query time later)
    (hPending : d.pending = some p)
    (hOutcome : m.event.outcome? = some (d.apply p.query).1) :
    Fate dataset window (d.apply p.query).2 query time
      (later ++ [m]) := by
  rcases d.apply_outcome_and_answers p.query with
    ⟨hApplied, hShown⟩
  cases hFate with
  | waits hDue hWaits hCalm =>
      rw [hPending, Option.some.injEq] at hWaits
      subst hWaits
      rw [hDataset] at hApplied hShown
      refine .evaluated (pending_apply _ _) ?_ hShown
      rw [outcomes_concat, hCalm, hOutcome, hApplied]
      rfl
  | evaluated hIdle hOnce hShown =>
      rw [hPending] at hIdle
      cases hIdle

/- A step that cancels nothing keeps to the fate of queries. -/
theorem step
    {history : List Moment}
    {now : Duration}
    {event : Event}
    (hDataset : d.dataset = dataset)
    (hWindow : d.window = window)
    (hFates :
      ∀ query time later,
        LastSubmission history query time later →
          Fate dataset window d query time later)
    (hStep : Step d now event d')
    (hCancel : ¬ event.IsCancel)
    (hLast :
      LastSubmission (history ++ [⟨now, event⟩]) query time
        later) :
    Fate dataset window d' query time later := by
  rcases hLast.concat_cases with
    ⟨hNew, rfl⟩ | ⟨hSubmit, between, rfl, hBefore⟩
  · cases hNew
    cases hStep with
    | submitted hDue =>
        rw [hWindow] at hDue
        exact .waits hDue rfl rfl
  · have hFate := hFates _ _ _ hBefore
    cases hStep with
    | submitted hDue => cases hSubmit
    | early hEarly => exact hFate.concat_of_quiet rfl
    | polled hPending hDue =>
        exact hFate.concat_of_apply hDataset hPending rfl
    | idle hIdle => exact hFate.concat_of_quiet rfl
    | flushed hPending =>
        exact hFate.concat_of_apply hDataset hPending rfl
    | cancelled => exact absurd trivial hCancel

end Fate

/- After every history without a cancellation. -/
theorem Run.fate
    {dataset : Dataset}
    {window : Duration}
    {history : List Moment}
    {d : Debouncer}
    (hRun : Run dataset window history d)
    (hCancel : ∀ m ∈ history, ¬ m.event.IsCancel) :
    ∀ query time later,
      LastSubmission history query time later →
        Fate dataset window d query time later := by
  induction hRun with
  | start =>
      intro query time later hLast
      rcases hLast.split with ⟨earlier, hSplit⟩
      simp at hSplit
  | step hRun hRespond ih =>
      intro query time later hLast
      refine Fate.step hRun.dataset_eq hRun.window_eq ?_
        (step_of_respond? hRespond) ?_ hLast
      · exact ih fun m hMember =>
          hCancel m (List.mem_append_left _ hMember)
      · exact hCancel _ List.mem_concat_self

end Debouncer

end EmojiQuery

------------------------------------------------------------
-- Barriers
------------------------------------------------------------

namespace EmojiQuery

namespace Service

open Debouncer

/-
  No query is lost, and none is evaluated twice. All that was
  evaluated was submitted before, and the worker did not wake
  too early for it. The query that was submitted last waits, or
  was evaluated once. Each outcome was published.
-/
structure Lossless
    (dataset : Dataset)
    (window : Duration)
    (s : Service) : Prop where
  sourced :
    ∀ (j : Nat) n outcome,
      s.history[j]? = some n →
        n.event.outcome? = some outcome →
          ∃ i m,
            LeadsTo s.history i j ∧
              s.history[i]? = some m ∧
                m.event.submission? = some outcome.query ∧
                  (n.event = .polled (some outcome) →
                    m.time.toNanos + window.toNanos ≤
                      n.time.toNanos)
  once :
    ∀ i j j',
      LeadsTo s.history i j → LeadsTo s.history i j' → j = j'
  kept :
    ∀ query time later,
      LastSubmission s.history query time later →
        Fate dataset window s.worker.debouncer query time later
  published :
    s.worker.latest = s.worker.debouncer.snapshot ∧
      s.worker.edition = (outcomes s.history).length

/- The last query that some commands submit. -/
def lastSubmitted?
    (cs : List Command) : Option String :=
  (cs.filterMap Command.submission?).getLast?

/-
  What holds when a flush is answered that stood first in the
  channel. Nothing waits. The last query that was sent before
  the flush is the one that was evaluated last, and what is
  published answers it. The flush evaluated it and replies
  with its outcome, or it had been evaluated once before.
-/
structure Barrier
    (dataset : Dataset)
    (s : Service)
    (reply : Option Outcome)
    (s' : Service) : Prop where
  idle :
    s'.worker.debouncer.isIdle = true
  last :
    ∀ before query,
      s.sent = before ++ s.queue →
        lastSubmitted? before = some query →
          (outcomes s'.history).getLast? =
              some (dataset.outcome query) ∧
            s'.worker.latest.Answers dataset query ∧
              ∃ time later,
                LastSubmission s.history query time later ∧
                  ((outcomes later = [] ∧
                      reply = some (dataset.outcome query)) ∨
                    (outcomes later = [dataset.outcome query] ∧
                      reply = none))

namespace Sound

variable {dataset : Dataset}
variable {window : Duration}
variable {s : Service}

/- The last query sent is the last that was submitted. -/
theorem exists_lastSubmission
    {before : List Command}
    {query : String}
    (hSound : Sound dataset window s)
    (hSent : s.sent = before ++ s.queue)
    (hLast : lastSubmitted? before = some query) :
    ∃ time later,
      LastSubmission s.history query time later := by
  rw [hSound.fifo, List.append_cancel_right_eq] at hSent
  rw [lastSubmitted?, ← hSent, List.filterMap_filterMap] at hLast
  simp only [Event.submission?_of_command?] at hLast
  exact Debouncer.exists_lastSubmission hLast

/- Sound services lose nothing. -/
theorem lossless
    (hSound : Sound dataset window s) :
    Lossless dataset window s where
  sourced := by
    intro j n outcome hAt hOutcome
    rcases hSound.run.exists_leadsTo hAt
        (Event.settled?_of_outcome hOutcome) with
      ⟨i, m, due, hLeads, hSource, hSubmit, hSum, hDue, _⟩
    refine ⟨i, m, hLeads, hSource, hSubmit, ?_⟩
    intro hPolled
    rw [← Duration.toNanos_of_add? hSum]
    exact hDue outcome hPolled
  once := by
    intro i j j' hLeads hOther
    have hLe := hSound.run.leadsTo_le hOther hLeads
    have hGe := hSound.run.leadsTo_le hLeads hOther
    omega
  kept := hSound.run.fate hSound.uncancelled
  published := ⟨hSound.latest, hSound.edition⟩

/- The next flush is answered, and is a barrier. -/
theorem barrier
    {millis : UInt64}
    {now : Duration}
    {rest : List Command}
    (hSound : Sound dataset (.ofMillis millis) s)
    (hTime : s.MayRead now)
    (hQueue : s.queue = .flush :: rest) :
    ∃ reply s',
      s.take? now = some (reply, s') ∧
        Barrier dataset s reply s' := by
  rcases take?_of_queue now hQueue with
    ⟨s', hTake, hWorker, _, hHistory⟩
  rw [Command.event] at hHistory
  generalize (s.worker.handle now .flush).1 = reply
    at hTake hHistory
  have hDebouncer :
      s'.worker.debouncer = s.worker.debouncer.flush.2 := by
    rw [hWorker, Worker.handle, Worker.debouncer_proceed]
  have hPending : s'.worker.debouncer.pending = none := by
    rw [hDebouncer]
    exact pending_flush _
  refine ⟨reply, s', hTake, ?_, ?_⟩
  · rw [isIdle, hPending]
    rfl
  · intro before query hSent hSubmitted
    rcases hSound.exists_lastSubmission hSent hSubmitted with
      ⟨time, later, hLast⟩
    have hAfter := hSound.take hTime hTake
    have hFates := hAfter.run.fate hAfter.uncancelled
    rw [hHistory] at hFates
    have hEnd := hLast.concat
      (m := ⟨now, .flushed reply⟩) rfl
    -- The query cannot wait any more, so it was evaluated.
    cases hFates _ _ _ hEnd with
    | waits hDue hWaits hCalm =>
        rw [hPending] at hWaits
        cases hWaits
    | evaluated hIdle hOnce hShown =>
        refine ⟨?_, ?_, time, later, hLast, ?_⟩
        · rcases hEnd.exists_outcomes with ⟨earlier, hAll⟩
          rw [hHistory, hAll, hOnce]
          exact List.getLast?_concat
        · rw [hAfter.latest]
          exact hShown
        · rw [outcomes_concat] at hOnce
          cases reply with
          | none =>
              exact .inr ⟨(List.append_nil _).symm.trans hOnce, rfl⟩
          | some outcome =>
              have hOnly := List.append_eq_singleton_iff.mp hOnce
              rcases hOnly with ⟨hCalm, hReply⟩ | ⟨_, hNone⟩
              · exact .inl ⟨hCalm,
                  congrArg some (List.singleton_inj.mp hReply)⟩
              · cases hNone

end Sound

/-
  A service loses nothing, and every flush that it takes from
  its channel is a barrier.
-/
theorem Reachable.lossless_and_barrier
    {dataset : Dataset}
    {settings : Settings}
    {s : Service}
    (hReach : Reachable dataset settings s) :
    Lossless dataset settings.window s ∧
      ∀ now rest,
        s.MayRead now →
          s.queue = .flush :: rest →
            ∃ reply s',
              s.take? now = some (reply, s') ∧
                Barrier dataset s reply s' := by
  refine ⟨hReach.sound.lossless, ?_⟩
  intro now rest hTime hQueue
  exact hReach.sound.barrier hTime hQueue

/- A query that was typed over another is flushed early. -/
theorem lossless_and_barrier_for_ring :
    let settings : Settings := ⟨400, none, 50⟩
    ∃ s,
      Reachable ringDataset settings s ∧
        s.queue = [.flush] ∧
          s.sent =
            [.submit "x:1", .submit "u:1F48D", .flush] ∧
            Lossless ringDataset settings.window s ∧
              ∃ reply s',
                s.take? (.ofMillis 200) = some (reply, s') ∧
                  Barrier ringDataset s reply s' := by
  intro settings
  let new : Service := .start ringDataset settings.window
  let d : Debouncer := new.worker.debouncer
  let typed : Service :=
    { worker :=
        { new.worker with
          debouncer :=
            { d with pending := some ⟨"x:1", .ofMillis 400⟩ } }
      queue := []
      sent := [.submit "x:1"]
      history := [⟨.zero, .submitted "x:1"⟩] }
  let woken : Service :=
    { typed with
      history :=
        typed.history ++ [⟨.ofMillis 150, .polled none⟩] }
  let last : Service :=
    { worker :=
        { new.worker with
          debouncer :=
            { d with
              pending := some ⟨"u:1F48D", .ofMillis 550⟩ } }
      queue := [.flush]
      sent := [.submit "x:1", .submit "u:1F48D", .flush]
      history :=
        woken.history ++
          [⟨.ofMillis 150, .submitted "u:1F48D"⟩] }
  have hTyped :
      (new.send (.submit "x:1")).take? .zero =
        some (none, typed) := by
    decide +kernel
  have hWoken :
      typed.wake? (.ofMillis 150) = some woken := by
    decide +kernel
  have hLast :
      ((woken.send (.submit "u:1F48D")).send .flush).take?
          (.ofMillis 150) =
        some (none, last) := by
    decide +kernel
  have hReach : Reachable ringDataset settings last := by
    refine .take (.send (.send (.wake (.take
      (.send .start (.submit "x:1")) ?_ hTyped) ?_ hWoken)
        (.submit "u:1F48D")) .flush) ?_ hLast
    all_goals exact ⟨by decide +kernel, by decide +kernel⟩
  have hRead : last.MayRead (.ofMillis 200) :=
    ⟨by decide +kernel, by decide +kernel⟩
  rcases hReach.lossless_and_barrier with
    ⟨hLossless, hBarrier⟩
  exact ⟨last, hReach, rfl, rfl, hLossless,
    hBarrier _ _ hRead rfl⟩

end Service

end EmojiQuery
