import EmojiQuery.Debounce.Log
import EmojiQuery.Proofs.Debounce.Barrier

/-
  The program while it watches its input: it reads lines and
  sends them to a service, and prints what the service
  publishes. If nothing was published before the input ended,
  then in every order of events the program prints one snapshot
  at its end, which answers the last line. If only the flush at
  the end evaluated a query, the last line is also all that is
  logged.

  Main declarations:
    * `Watch`
    * `Watch.Reachable`
    * `Service.entries`
    * `Service.Unwoken`
    * `Watch.Reachable.kept`
    * `Watch.Reachable.close`
-/

------------------------------------------------------------
-- The Watching Program
------------------------------------------------------------

namespace EmojiQuery

/-
  A program that watches its input: the service to which it
  sends queries, the lines that it has still to read, how many
  publications it has seen, and the snapshots that it printed.
  Once the input has ended, it is recorded how many snapshots
  had been published until then.
-/
structure Watch where
  service : Service
  unread : List String
  seen : Nat
  printed : List Snapshot
  ended : Option Nat
deriving DecidableEq

namespace Watch

/- A program that has read nothing. -/
def start
    (dataset : Dataset)
    (settings : Settings)
    (typed : List String) : Watch :=
  ⟨.start dataset settings.window, typed, 0, [], none⟩

/- Read the next line, and submit it. -/
def read?
    (w : Watch) : Option Watch :=
  match w.ended, w.unread with
  | none, query :: unread =>
      some
        { w with
          service := w.service.send (.submit query)
          unread := unread }
  | _, _ => none

/- Find that the input has ended, and ask to flush. -/
def finish?
    (w : Watch) : Option Watch :=
  match w.ended, w.unread with
  | none, [] =>
      some
        { w with
          service := w.service.send .flush
          ended := some w.service.worker.edition }
  | _, _ => none

/- Print the latest snapshot, unless it was seen before. -/
def refresh
    (w : Watch) : Watch :=
  if w.seen = w.service.worker.edition then
    w
  else
    { w with
      seen := w.service.worker.edition
      printed := w.printed ++ [w.service.worker.latest] }

/-
  Everything that was printed when the program ends, which it
  does once the flush at the end of the input is answered.
-/
def close?
    (w : Watch) : Option (List Snapshot) :=
  if w.ended.isSome && w.service.queue.isEmpty then
    some w.refresh.printed
  else
    none

/-
  The states of the program over some lines. The program and
  its worker go on in any order. Snapshots are printed as they
  are published until the input ends.
-/
inductive Reachable
    (dataset : Dataset)
    (settings : Settings)
    (typed : List String) : Watch → Prop where
| start :
    Reachable dataset settings typed
      (.start dataset settings typed)
| read
    {w w' : Watch}
    (hReach : Reachable dataset settings typed w)
    (hRead : w.read? = some w') :
    Reachable dataset settings typed w'
| finish
    {w w' : Watch}
    (hReach : Reachable dataset settings typed w)
    (hFinish : w.finish? = some w') :
    Reachable dataset settings typed w'
| refresh
    {w : Watch}
    (hReach : Reachable dataset settings typed w)
    (hOpen : w.ended = none) :
    Reachable dataset settings typed w.refresh
| take
    {w : Watch}
    {now : Duration}
    {reply : Option Outcome}
    {s : Service}
    (hReach : Reachable dataset settings typed w)
    (hTime : w.service.MayRead now)
    (hTake : w.service.take? now = some (reply, s)) :
    Reachable dataset settings typed { w with service := s }
| wake
    {w : Watch}
    {now : Duration}
    {s : Service}
    (hReach : Reachable dataset settings typed w)
    (hTime : w.service.MayRead now)
    (hWake : w.service.wake? now = some s) :
    Reachable dataset settings typed { w with service := s }

end Watch

end EmojiQuery

------------------------------------------------------------
-- Steps of the Service
------------------------------------------------------------

namespace EmojiQuery

/- What a worker has published is not taken back. -/
theorem Worker.edition_le_handle
    (w : Worker)
    (now : Duration)
    (c : Command) :
    w.edition ≤ (w.handle now c).2.edition := by
  cases c with
  | submit query =>
      exact Nat.le_refl _
  | flush =>
      rw [handle, edition_proceed]
      exact Nat.le_add_right _ _

theorem Worker.edition_le_wake
    (w : Worker)
    (now : Duration) :
    w.edition ≤ (w.wake now).edition := by
  rw [wake, edition_proceed]
  exact Nat.le_add_right _ _

namespace Service

/-
  A channel whose last command is a flush, or that has been
  emptied by one, so that no query waits.
-/
def Flushing
    (s : Service) : Prop :=
  s.queue.getLast? = some .flush ∨
    s.queue = [] ∧ s.worker.debouncer.pending = none

variable {s s' : Service}
variable {now : Duration}
variable {reply : Option Outcome}

/- A worker takes the first command, and leaves the rest. -/
theorem exists_command_of_take?
    (hTake : s.take? now = some (reply, s')) :
    ∃ c,
      s.queue = c :: s'.queue ∧
        s'.worker = (s.worker.handle now c).2 ∧
          s'.sent = s.sent := by
  rw [take?] at hTake
  split at hTake
  · cases hTake
  · next c queue hQueue =>
      cases hTake
      exact ⟨c, hQueue, rfl, rfl⟩

/- A channel that ends with a flush does so until it is empty. -/
theorem Flushing.take
    (hFlushing : s.Flushing)
    (hTake : s.take? now = some (reply, s')) :
    s'.Flushing := by
  rcases exists_command_of_take? hTake with
    ⟨c, hQueue, hWorker, _⟩
  rcases hFlushing with hLast | ⟨hEmpty, _⟩
  · rw [hQueue] at hLast
    cases hRest : s'.queue with
    | nil =>
        rw [hRest, List.getLast?_singleton,
          Option.some.injEq] at hLast
        refine .inr ⟨hRest, ?_⟩
        rw [hWorker, hLast, Worker.handle,
          Worker.debouncer_proceed]
        exact Debouncer.pending_flush _
    | cons c' rest =>
        rw [hRest, List.getLast?_cons_cons] at hLast
        rw [Flushing, hRest]
        exact .inl hLast
  · rw [hEmpty] at hQueue
    cases hQueue

/- A worker does not wake while no query waits. -/
theorem Flushing.wake
    (hFlushing : s.Flushing)
    (hWake : s.wake? now = some s') :
    s'.Flushing := by
  rcases hFlushing with hLast | ⟨_, hIdle⟩
  · rw [Flushing, (fields_of_wake? hWake).2]
    exact .inl hLast
  · rw [wake?, Debouncer.isIdle, hIdle] at hWake
    cases hWake

theorem sent_of_wake?
    (hWake : s.wake? now = some s') :
    s'.sent = s.sent := by
  rw [wake?] at hWake
  split at hWake
  · cases hWake
  · cases hWake
    rfl

end Service

end EmojiQuery

------------------------------------------------------------
-- What Is Logged
------------------------------------------------------------

namespace EmojiQuery

namespace Service

/- What was logged. -/
def entries
    (s : Service) : List LogEntry :=
  (Debouncer.outcomes s.history).filterMap Outcome.logged?

/- No query was evaluated because its window was over. -/
def Unwoken
    (s : Service) : Prop :=
  ∀ m ∈ s.history, ∀ outcome, m.event ≠ .polled (some outcome)

end Service

/- Then every outcome answers a flush. -/
theorem Debouncer.length_outcomes_le_count
    {history : List Moment}
    (hUnwoken :
      ∀ m ∈ history, ∀ outcome,
        m.event ≠ .polled (some outcome)) :
    (outcomes history).length ≤
      (history.filterMap fun m => m.event.command?).count
        .flush := by
  induction history with
  | nil => exact Nat.le_refl _
  | cons m history ih =>
      rw [List.forall_mem_cons] at hUnwoken
      have hRest := ih hUnwoken.2
      rcases m with ⟨time, event⟩
      cases event with
      | submitted query =>
          simpa [outcomes, Event.outcome?, Event.command?]
            using hRest
      | polled outcome =>
          cases outcome with
          | none =>
              simpa [outcomes, Event.outcome?, Event.command?]
                using hRest
          | some outcome => exact absurd rfl (hUnwoken.1 outcome)
      | flushed outcome =>
          simp only [outcomes, Event.outcome?, Event.command?,
            List.filterMap_cons, List.count_cons_self] at hRest ⊢
          cases outcome with
          | none => exact Nat.le_succ_of_le hRest
          | some outcome => exact Nat.succ_le_succ hRest
      | cancelled query =>
          simpa [outcomes, Event.outcome?, Event.command?]
            using hRest

end EmojiQuery

------------------------------------------------------------
-- What Every State Keeps
------------------------------------------------------------

namespace EmojiQuery

namespace Watch

/-
  What holds of a watching program at all times. The lines that
  were read were sent, and the flush behind them once the input
  has ended. What is printed was published and seen. If nothing
  had been published when the input ended, nothing is printed.
-/
structure Kept
    (dataset : Dataset)
    (settings : Settings)
    (typed : List String)
    (w : Watch) : Prop where
  reach :
    Service.Reachable dataset settings w.service
  reading :
    w.ended = none →
      w.service.sent ++ w.unread.map .submit =
        typed.map .submit
  finished :
    w.ended ≠ none →
      w.service.sent = typed.map .submit ++ [.flush]
  flushing :
    w.ended ≠ none → w.service.Flushing
  published :
    w.seen ≤ w.service.worker.edition
  silent :
    w.seen = 0 → w.printed = []
  late :
    w.ended = some 0 → w.seen = 0

namespace Kept

variable {dataset : Dataset}
variable {settings : Settings}
variable {typed : List String}
variable {w w' : Watch}

/- It holds at the start. -/
theorem start :
    Kept dataset settings typed (.start dataset settings typed)
    where
  reach := .start
  reading := fun _ => rfl
  finished := fun hEnded => absurd rfl hEnded
  flushing := fun hEnded => absurd rfl hEnded
  published := Nat.le_refl _
  silent := fun _ => rfl
  late := fun _ => rfl

/- It holds when a line was read. -/
theorem read
    (hKept : Kept dataset settings typed w)
    (hRead : w.read? = some w') :
    Kept dataset settings typed w' := by
  rw [read?] at hRead
  split at hRead
  · next query unread hOpen hUnread =>
      cases hRead
      have hReading := hKept.reading hOpen
      rw [hUnread] at hReading
      exact
        { reach := hKept.reach.send _
          reading := fun _ => by
            rw [← hReading, Service.send, List.append_assoc]
            rfl
          finished := fun hEnded => absurd hOpen hEnded
          flushing := fun hEnded => absurd hOpen hEnded
          published := hKept.published
          silent := hKept.silent
          late := hKept.late }
  · cases hRead

/- It holds when the input has ended. -/
theorem finish
    (hKept : Kept dataset settings typed w)
    (hFinish : w.finish? = some w') :
    Kept dataset settings typed w' := by
  rw [finish?] at hFinish
  split at hFinish
  · next hOpen hUnread =>
      cases hFinish
      have hReading := hKept.reading hOpen
      rw [hUnread, List.map_nil, List.append_nil] at hReading
      exact
        { reach := hKept.reach.send _
          reading := fun hOpen => nomatch hOpen
          finished := fun _ => by
            rw [Service.send, hReading]
          flushing := fun _ => .inl List.getLast?_concat
          published := hKept.published
          silent := hKept.silent
          late := by
            intro hNone
            have hSeen := hKept.published
            rw [Option.some.inj hNone] at hSeen
            exact Nat.le_zero.mp hSeen }
  · cases hFinish

/- It holds when the latest snapshot was printed. -/
theorem refresh
    (hKept : Kept dataset settings typed w)
    (hOpen : w.ended = none) :
    Kept dataset settings typed w.refresh := by
  unfold Watch.refresh
  split
  · exact hKept
  · next hUnseen =>
      have hSeen := hKept.published
      exact
        { reach := hKept.reach
          reading := hKept.reading
          finished := hKept.finished
          flushing := hKept.flushing
          published := Nat.le_refl _
          silent := by
            intro hNone
            change w.service.worker.edition = 0 at hNone
            omega
          late := by
            intro hEnded
            rw [hOpen] at hEnded
            cases hEnded }

/- It holds when the service went on by itself. -/
theorem serve
    {s : Service}
    (hKept : Kept dataset settings typed w)
    (hReach : Service.Reachable dataset settings s)
    (hSent : s.sent = w.service.sent)
    (hEdition : w.service.worker.edition ≤ s.worker.edition)
    (hFlushing : w.service.Flushing → s.Flushing) :
    Kept dataset settings typed { w with service := s } where
  reach := hReach
  reading := by
    rw [hSent]
    exact hKept.reading
  finished := by
    rw [hSent]
    exact hKept.finished
  flushing := fun hEnded => hFlushing (hKept.flushing hEnded)
  published := Nat.le_trans hKept.published hEdition
  silent := hKept.silent
  late := hKept.late

end Kept

variable {dataset : Dataset}
variable {settings : Settings}
variable {typed : List String}
variable {w : Watch}

/- It holds of every state. -/
theorem Reachable.kept
    (hReach : Reachable dataset settings typed w) :
    Kept dataset settings typed w := by
  induction hReach with
  | start => exact .start
  | read hReach hRead ih => exact ih.read hRead
  | finish hReach hFinish ih => exact ih.finish hFinish
  | refresh hReach hOpen ih => exact ih.refresh hOpen
  | take hReach hTime hTake ih =>
      rcases Service.exists_command_of_take? hTake with
        ⟨c, _, hWorker, hSent⟩
      refine ih.serve (ih.reach.take hTime hTake) hSent ?_
        (fun hFlushing => hFlushing.take hTake)
      rw [hWorker]
      exact Worker.edition_le_handle _ _ _
  | wake hReach hTime hWake ih =>
      refine ih.serve (ih.reach.wake hTime hWake)
        (Service.sent_of_wake? hWake) ?_
        (fun hFlushing => hFlushing.wake hWake)
      rw [(Service.fields_of_wake? hWake).1]
      exact Worker.edition_le_wake _ _

------------------------------------------------------------
-- The End of the Program
------------------------------------------------------------

/- Without lines nothing is ever evaluated. -/
theorem Kept.edition_of_no_lines
    (hKept : Kept dataset settings [] w)
    (hEnded : w.ended ≠ none)
    (hQueue : w.service.queue = []) :
    w.service.worker.edition = 0 := by
  have hSound := hKept.reach.sound
  have hCommands := hSound.fifo
  rw [hQueue, List.append_nil, hKept.finished hEnded] at hCommands
  rw [hSound.edition, List.length_eq_zero_iff]
  -- An outcome would have a submission behind it.
  rw [List.eq_nil_iff_forall_not_mem]
  intro outcome hOutcome
  rcases List.mem_filterMap.mp hOutcome with ⟨n, hMember, hEvent⟩
  rcases List.getElem?_of_mem hMember with ⟨j, hAt⟩
  rcases hSound.lossless.sourced j n outcome hAt hEvent with
    ⟨i, m, _, hSource, hSubmit, _⟩
  rw [← Debouncer.Event.submission?_of_command?] at hSubmit
  rcases Option.bind_eq_some_iff.mp hSubmit with
    ⟨c, hCommand, hQuery⟩
  have hSent : c ∈ [Command.flush] := by
    change [Command.flush] = _ at hCommands
    rw [hCommands]
    exact List.mem_filterMap.mpr
      ⟨m, List.mem_of_getElem? hSource, hCommand⟩
  rw [List.mem_singleton.mp hSent] at hQuery
  cases hQuery

/-
  The last line is evaluated, after all else that is, and its
  answer is published.
-/
theorem Kept.answers_of_last
    {query : String}
    (hKept : Kept dataset settings typed w)
    (hEnded : w.ended ≠ none)
    (hQueue : w.service.queue = [])
    (hLast : typed.getLast? = some query) :
    (∃ before,
      Debouncer.outcomes w.service.history =
        before ++ [dataset.outcome query]) ∧
      w.service.worker.latest.Answers dataset query := by
  have hSound := hKept.reach.sound
  have hSubmitted :
      Service.lastSubmitted? w.service.sent = some query := by
    rw [Service.lastSubmitted?, hKept.finished hEnded,
      List.filterMap_append, List.filterMap_map]
    simp [Function.comp_def, Command.submission?, hLast]
  have hIdle : w.service.worker.debouncer.pending = none := by
    rcases hKept.flushing hEnded with hFlush | ⟨_, hIdle⟩
    · rw [hQueue] at hFlush
      cases hFlush
    · exact hIdle
  have hSent :
      w.service.sent = w.service.sent ++ w.service.queue := by
    rw [hQueue, List.append_nil]
  rcases hSound.exists_lastSubmission hSent hSubmitted with
    ⟨time, later, hSubmission⟩
  cases hSound.lossless.kept _ _ _ hSubmission with
  | waits hDue hPending hCalm =>
      rw [hIdle] at hPending
      cases hPending
  | evaluated hNone hOnce hShown =>
      rcases hSubmission.exists_outcomes with ⟨before, hAll⟩
      rw [hOnce] at hAll
      rw [hSound.latest]
      exact ⟨⟨before, hAll⟩, hShown⟩

/- One flush was sent, so nothing else is evaluated by one. -/
theorem Kept.length_outcomes_le
    (hKept : Kept dataset settings typed w)
    (hEnded : w.ended ≠ none)
    (hQueue : w.service.queue = [])
    (hUnwoken : w.service.Unwoken) :
    (Debouncer.outcomes w.service.history).length ≤ 1 := by
  have hCommands := hKept.reach.sound.fifo
  rw [hQueue, List.append_nil, hKept.finished hEnded] at hCommands
  have hSubmits :
      (typed.map Command.submit).count .flush = 0 := by
    rw [List.count_eq_zero]
    simp
  have hCount := Debouncer.length_outcomes_le_count hUnwoken
  rw [← hCommands, List.count_append, hSubmits] at hCount
  exact hCount

/-
  If nothing was published before the input ended, the program
  prints nothing without lines, and otherwise one snapshot at
  its end, which answers the last line. What becomes of that
  line is logged, and nothing else unless a window was over.
-/
theorem Reachable.close
    {printed : List Snapshot}
    (hReach : Reachable dataset settings typed w)
    (hEnded : w.ended = some 0)
    (hClose : w.close? = some printed) :
    (typed = [] → printed = [] ∧ w.service.entries = []) ∧
      ∀ query, typed.getLast? = some query →
        (∃ s, printed = [s] ∧ s.Answers dataset query) ∧
          (w.service.Unwoken →
            w.service.entries =
              (dataset.outcome query).logged?.toList) := by
  have hKept := hReach.kept
  have hSeen := hKept.late hEnded
  have hSome : w.ended ≠ none := by
    rw [hEnded]
    exact Option.some_ne_none 0
  have hEdition := hKept.reach.sound.edition
  rw [close?] at hClose
  split at hClose
  · next hAnswered =>
      simp only [Bool.and_eq_true, List.isEmpty_iff] at hAnswered
      cases hClose
      constructor
      · rintro rfl
        have hNone :=
          hKept.edition_of_no_lines hSome hAnswered.2
        constructor
        · rw [Watch.refresh, if_pos (hSeen.trans hNone.symm)]
          exact hKept.silent hSeen
        · rw [hEdition, List.length_eq_zero_iff] at hNone
          rw [Service.entries, hNone, List.filterMap_nil]
      · intro query hLast
        rcases hKept.answers_of_last hSome hAnswered.2 hLast with
          ⟨⟨before, hAll⟩, hShown⟩
        constructor
        · refine ⟨_, ?_, hShown⟩
          rw [hAll, List.length_append,
            List.length_singleton] at hEdition
          rw [Watch.refresh, if_neg (by omega),
            hKept.silent hSeen]
          rfl
        · intro hUnwoken
          have hOne :=
            hKept.length_outcomes_le hSome hAnswered.2 hUnwoken
          rw [hAll, List.length_append,
            List.length_singleton] at hOne
          have hBefore : before = [] :=
            List.length_eq_zero_iff.mp (by omega)
          rw [Service.entries, hAll, hBefore, List.nil_append]
          cases hEntry : (dataset.outcome query).logged? with
          | none => simp [hEntry]
          | some entry => simp [hEntry]
  · cases hClose

end Watch

end EmojiQuery
