import EmojiQuery.Proofs.Debounce.History

/-
  What a debouncer shows is what its history made of it: the
  results of the last query that was applied, and the error
  of the last query that was evaluated.

  Main declarations:
    * `Debouncer.apply_cases`
    * `Debouncer.Keeps`
    * `Debouncer.Step.keeps`
    * `Debouncer.Shows`
    * `Debouncer.Shows.concat`
    * `Debouncer.Run.shows_and_keeps`
-/

------------------------------------------------------------
-- Searching
------------------------------------------------------------

namespace EmojiQuery

/- The empty text is the query without clauses. -/
theorem Dataset.search_empty
    (dataset : Dataset) :
    dataset.search "" = .ok dataset.searchAll := by
  have hScan : Clause.Span.scan "".toList = [] := by
    simp [Clause.Span.scan]
  have hParse : Query.parse "" = .ok .empty := by
    rw [Query.parse, Clause.parse, hScan]
    rfl
  rw [search, hParse]
  rfl

namespace Debouncer

/- A query is evaluated by a search, which may fail. -/
theorem apply_cases
    (d : Debouncer)
    (query : String) :
    (∃ results,
      d.dataset.search query = .ok results ∧
        d.apply query =
          (.applied query results.count,
            { d with
              pending := none
              results := results
              query := some query
              error := none })) ∨
      ∃ error,
        d.dataset.search query = .error error ∧
          d.apply query =
            (.rejected query error,
              { d with
                pending := none
                error := some error }) := by
  cases hSearch : d.dataset.search query with
  | ok results =>
      exact .inl ⟨results, rfl, by simp only [apply, hSearch]⟩
  | error error =>
      exact .inr ⟨error, rfl, by simp only [apply, hSearch]⟩

------------------------------------------------------------
-- What a Step Keeps
------------------------------------------------------------

/-
  What a step does not touch. Without an outcome nothing that
  is shown changes. A rejected query leaves the results and
  the query they belong to. No query waits after an outcome.
-/
structure Keeps
    (d : Debouncer)
    (event : Event)
    (d' : Debouncer) : Prop where
  quiet :
    event.outcome? = none →
      d'.results = d.results ∧
        d'.query = d.query ∧ d'.error = d.error
  rejected :
    ∀ query error,
      event.outcome? = some (.rejected query error) →
        d'.results = d.results ∧ d'.query = d.query
  idle :
    event.outcome? ≠ none → d'.isIdle = true

/- An evaluation keeps what it has to. -/
theorem keeps_of_apply
    {d : Debouncer}
    {event : Event}
    {query : String}
    (hOutcome : event.outcome? = some (d.apply query).1) :
    Keeps d event (d.apply query).2 := by
  constructor
  · intro hNone
    rw [hNone] at hOutcome
    cases hOutcome
  · intro query' error hRejected
    rw [hRejected, Option.some.injEq] at hOutcome
    rcases d.apply_cases query with
      ⟨results, _, hApply⟩ | ⟨error', _, hApply⟩
    · rw [hApply] at hOutcome
      cases hOutcome
    · rw [hApply]
      exact ⟨rfl, rfl⟩
  · intro _
    rw [isIdle, pending_apply]
    rfl

/- A step without outcome keeps all that is shown. -/
theorem keeps_of_quiet
    {d d' : Debouncer}
    {event : Event}
    (hOutcome : event.outcome? = none)
    (hResults : d'.results = d.results)
    (hQuery : d'.query = d.query)
    (hError : d'.error = d.error) :
    Keeps d event d' := by
  constructor
  · intro _
    exact ⟨hResults, hQuery, hError⟩
  · intro query error hRejected
    rw [hOutcome] at hRejected
    cases hRejected
  · intro hSome
    exact absurd hOutcome hSome

/- Every step keeps what it has to. -/
theorem Step.keeps
    {d d' : Debouncer}
    {now : Duration}
    {event : Event}
    (hStep : Step d now event d') :
    Keeps d event d' := by
  cases hStep with
  | submitted hDue => exact keeps_of_quiet rfl rfl rfl rfl
  | early hEarly => exact keeps_of_quiet rfl rfl rfl rfl
  | polled hPending hDue => exact keeps_of_apply rfl
  | idle hIdle => exact keeps_of_quiet rfl rfl rfl rfl
  | flushed hPending => exact keeps_of_apply rfl
  | cancelled => exact keeps_of_quiet rfl rfl rfl rfl

------------------------------------------------------------
-- What a Debouncer Shows
------------------------------------------------------------

/- A moment adds its outcome, if it has one. -/
theorem outcomes_concat
    (history : List Moment)
    (m : Moment) :
    outcomes (history ++ [m]) =
      outcomes history ++ m.event.outcome?.toList := by
  cases hOutcome : m.event.outcome? <;>
    simp [outcomes, hOutcome]

/- No query was applied if there is no last one. -/
theorem lastApplied?_eq_none_iff
    (history : List Moment) :
    lastApplied? history = none ↔
      ∀ outcome ∈ outcomes history,
        outcome.applied? = none := by
  simp [lastApplied?]

/- A moment without outcome applies nothing. -/
theorem lastApplied?_concat_of_none
    {history : List Moment}
    {m : Moment}
    (hApplied : m.event.outcome?.bind Outcome.applied? = none) :
    lastApplied? (history ++ [m]) = lastApplied? history := by
  rw [lastApplied?, outcomes_concat]
  cases hOutcome : m.event.outcome? with
  | none =>
      simp [lastApplied?]
  | some outcome =>
      rw [hOutcome] at hApplied
      simp only [Option.bind_some] at hApplied
      simp [lastApplied?, hApplied]

/- A moment that applies a query is the last to do so. -/
theorem lastApplied?_concat_of_some
    {history : List Moment}
    {m : Moment}
    {query : String}
    {count : Nat}
    (hOutcome :
      m.event.outcome? = some (.applied query count)) :
    lastApplied? (history ++ [m]) = some (query, count) := by
  rw [lastApplied?, outcomes_concat, hOutcome]
  simp [Outcome.applied?]

/-
  What a debouncer shows after a history. Until a query was
  applied it shows all records, and from then on the results
  of the last query that was. The error is that of the last
  outcome.
-/
structure Shows
    (dataset : Dataset)
    (history : List Moment)
    (d : Debouncer) : Prop where
  fresh :
    (∀ outcome ∈ outcomes history,
      outcome.applied? = none) →
        d.query = none ∧ dataset.search "" = .ok d.results
  applied :
    ∀ query count,
      lastApplied? history = some (query, count) →
        d.query = some query ∧
          dataset.search query = .ok d.results ∧
            count = d.results.count
  error :
    d.error = (outcomes history).getLast?.bind Outcome.error?

namespace Shows

variable {dataset : Dataset}
variable {history : List Moment}
variable {d d' : Debouncer}
variable {m : Moment}

/- A new debouncer shows all records. -/
theorem start
    (dataset : Dataset)
    (window : Duration) :
    Shows dataset [] (.start dataset window) := by
  constructor
  · intro _
    exact ⟨rfl, dataset.search_empty⟩
  · intro query count hLast
    cases hLast
  · rfl

/- The message belongs to the last outcome as well. -/
theorem message
    (hShows : Shows dataset history d) :
    d.message? =
      (outcomes history).getLast?.bind
        Outcome.message? := by
  rw [message?, hShows.error, Option.map_bind]
  rfl

/- The results do not change while no query is applied. -/
theorem concat_of_unapplied
    (hShows : Shows dataset history d)
    (hApplied : m.event.outcome?.bind Outcome.applied? = none)
    (hResults : d'.results = d.results)
    (hQuery : d'.query = d.query)
    (hError :
      d'.error =
        (outcomes (history ++ [m])).getLast?.bind
          Outcome.error?) :
    Shows dataset (history ++ [m]) d' := by
  have hLast :
      lastApplied? (history ++ [m]) = lastApplied? history :=
    lastApplied?_concat_of_none hApplied
  constructor
  · intro hFresh
    rw [← lastApplied?_eq_none_iff, hLast,
      lastApplied?_eq_none_iff] at hFresh
    rw [hResults, hQuery]
    exact hShows.fresh hFresh
  · intro query count hSome
    rw [hLast] at hSome
    rw [hResults, hQuery]
    exact hShows.applied query count hSome
  · exact hError

/- A step brings about what is shown after it. -/
theorem concat
    {now : Duration}
    {event : Event}
    (hDataset : d.dataset = dataset)
    (hShows : Shows dataset history d)
    (hStep : Step d now event d') :
    Shows dataset (history ++ [⟨now, event⟩]) d' := by
  have hOutcomes :=
    outcomes_concat history ⟨now, event⟩
  cases hOutcome : event.outcome? with
  | none =>
      rcases hStep.keeps.quiet hOutcome with
        ⟨hResults, hQuery, hError⟩
      refine hShows.concat_of_unapplied ?_ hResults hQuery ?_
      · rw [hOutcome]
        rfl
      · rw [hError, hShows.error, hOutcomes, hOutcome]
        simp
  | some outcome =>
      have hLast :
          (outcomes (history ++ [⟨now, event⟩])).getLast? =
            some outcome := by
        rw [hOutcomes, hOutcome]
        simp
      rcases hStep.apply_of_outcome hOutcome with
        ⟨p, hPending, hApply⟩
      rcases d.apply_cases p.query with
        ⟨results, hSearch, hCase⟩ | ⟨error, hSearch, hCase⟩
      · rw [hDataset] at hSearch
        rw [hCase] at hApply
        cases hApply
        have hApplied :
            lastApplied? (history ++ [⟨now, event⟩]) =
              some (p.query, results.count) :=
          lastApplied?_concat_of_some hOutcome
        constructor
        · intro hFresh
          rw [← lastApplied?_eq_none_iff, hApplied] at hFresh
          cases hFresh
        · intro query count hSome
          rw [hApplied] at hSome
          cases hSome
          exact ⟨rfl, hSearch, rfl⟩
        · rw [hLast]
          rfl
      · rw [hCase] at hApply
        cases hApply
        refine hShows.concat_of_unapplied ?_ rfl rfl ?_
        · rw [hOutcome]
          rfl
        · rw [hLast]
          rfl

end Shows

/-
  After every history a debouncer shows what it should, and
  it keeps what it should whatever is asked of it next.
-/
theorem Run.shows_and_keeps
    {dataset : Dataset}
    {window : Duration}
    {history : List Moment}
    {d : Debouncer}
    (hRun : Run dataset window history d) :
    Shows dataset history d ∧
      d.message? =
        (outcomes history).getLast?.bind
          Outcome.message? ∧
        ∀ now request event d',
          d.respond? now request = some (event, d') →
            Keeps d event d' := by
  have hShows : Shows dataset history d := by
    induction hRun with
    | start =>
        exact .start dataset window
    | step hRun hRespond ih =>
        exact ih.concat hRun.dataset_eq
          (step_of_respond? hRespond)
  refine ⟨hShows, hShows.message, ?_⟩
  intro now request event d' hRespond
  exact (step_of_respond? hRespond).keeps

/- A ring, to be searched for. -/
def ringDataset : Dataset :=
  ⟨[{ codepoints := [0x1F48D]
      levels := [21, 22]
      version := .one
      notes := "ring"
      scores := none }],
    ⟨21, 22⟩⟩

/- The ring is found, and shown on after an unknown field. -/
theorem shows_found_after_unknown_field :
    let history : List Moment :=
      [⟨.ofMillis 500, .submitted "u:1F48D"⟩,
        ⟨.ofMillis 900,
          .polled (some (.applied "u:1F48D" 1))⟩,
        ⟨.zero, .submitted "x:1"⟩,
        ⟨.zero, .flushed (some
          (.rejected "x:1" (.unknownField "x" "1")))⟩]
    ∃ d, Run ringDataset (.ofMillis 400) history d ∧
      Shows ringDataset history d ∧
        d.query = some "u:1F48D" ∧
          d.message? = some "unknown field \"x\" in x:1" := by
  intro history
  let fault : SearchError := .unknownField "x" "1"
  let found : Results :=
    ⟨[21, 22], Query.candidates ringDataset.records, 1⟩
  let new : Debouncer := .start ringDataset (.ofMillis 400)
  let first : Debouncer :=
    { new with pending := some ⟨"u:1F48D", .ofMillis 900⟩ }
  let shown : Debouncer :=
    { new with results := found, query := some "u:1F48D" }
  let second : Debouncer :=
    { shown with pending := some ⟨"x:1", .ofMillis 400⟩ }
  let last : Debouncer := { shown with error := some fault }
  have hFirst :
      new.respond? (.ofMillis 500) (.submit "u:1F48D") =
        some (.submitted "u:1F48D", first) := by
    decide +kernel
  have hFound :
      first.respond? (.ofMillis 900) .poll =
        some (.polled (some (.applied "u:1F48D" 1)),
          shown) := by
    decide +kernel
  have hSecond :
      shown.respond? .zero (.submit "x:1") =
        some (.submitted "x:1", second) := by
    decide +kernel
  have hUnknown :
      second.respond? .zero .flush =
        some (.flushed (some (.rejected "x:1" fault)),
          last) := by
    decide +kernel
  have hRun : Run ringDataset (.ofMillis 400) history last :=
    .step (.step (.step (.step .start hFirst) hFound)
      hSecond) hUnknown
  exact ⟨last, hRun, hRun.shows_and_keeps.1, rfl, rfl⟩

end Debouncer

end EmojiQuery
