import DiscordRest.Proofs.Paging.Reports

/-!
How the cursor of a walk moves. Each further request is at the last key of the page before, and
where that key does not lie beyond the cursor the walk signals it. Without a signal on the way the
cursor goes strictly in one direction, so a cursor comes back only behind a signal.
-/

namespace DiscordRest.Paging

variable {σ ρ : Type}

/-- What stands somewhere in a list stands there in a longer one. -/
theorem getElem?_of_prefix {short long : List ρ} (shorter : short <+: long) {index : Nat}
    {entry : ρ} (found : short[index]? = some entry)
    : long[index]? = some entry := by
  obtain ⟨bound, rfl⟩ := List.getElem?_eq_some_iff.mp found
  exact List.prefix_iff_getElem?.mp shorter index bound

namespace Walk

variable {source : Source σ ρ} {paginator : Paginator} {key : ρ → Snowflake} {origin : σ}
variable {walk : Walk ρ}

------------------------------------------------------------------------------------------
-- From one request to the next
------------------------------------------------------------------------------------------

/-- A run makes the requests through some pages in turn, and gets these pages as answers. -/
theorem run_route (source : Source σ ρ) (key : ρ → Snowflake) (origin : σ)
    (opened : open? paginator = .ok walk) (polls : Nat)
    : let run := walk.run source.recorded key polls (.fresh origin)
      ∃ pages,
        run.state.requests <+: paginator.requests key pages
        ∧ pages.map Page.answer <+: run.state.answers := by
  intro run
  rcases run_course source key origin opened polls with
    ⟨pages, given, _, midway⟩ | ⟨pages, ending, later, _, past⟩
  · refine ⟨pages, ?_, ?_⟩
    · rw [show run.state = _ from midway.served, Source.requests_serve]
      exact List.dropLast_prefix _
    · rw [show run.state = _ from midway.served, midway.gives]
  · refine ⟨pages, ?_, ?_⟩
    · rw [show run.state = _ from past.served, Source.requests_serve]
      exact List.prefix_rfl
    · rw [show run.state = _ from past.served, Source.answers_serve_requests, past.gives]
      exact List.prefix_append _ _

/-- All requests of a run are those of its paginator. -/
theorem request_eq_of_mem (source : Source σ ρ) (key : ρ → Snowflake) (origin : σ)
    (opened : open? paginator = .ok walk) (polls : Nat) {exchange : Exchange ρ}
    (member : exchange ∈ (walk.run source.recorded key polls (.fresh origin)).state.exchanges)
    : exchange.request = paginator.request exchange.request.cursor := by
  obtain ⟨pages, requests, _⟩ := run_route source key origin opened polls
  have listed := requests.subset (List.mem_map_of_mem (f := Exchange.request) member)
  obtain ⟨cursor, _, same⟩ := List.mem_map.mp listed
  rw [← same]
  rfl

/-- A further request is made only behind a page, at the last key of that page. -/
theorem request_of_next (source : Source σ ρ) (key : ρ → Snowflake) (origin : σ)
    (opened : open? paginator = .ok walk) (polls : Nat) {index : Nat} {this next : Exchange ρ}
    (found : (walk.run source.recorded key polls (.fresh origin)).state.exchanges[index]?
      = some this)
    (foundNext
      : (walk.run source.recorded key polls (.fresh origin)).state.exchanges[index + 1]?
        = some next)
    : ∃ page : Page ρ,
        this.answer = page.answer ∧ next.request = paginator.request (page.lastKey key) := by
  obtain ⟨pages, requests, answers⟩ := run_route source key origin opened polls
  have asked : (paginator.requests key pages)[index + 1]? = some next.request := by
    refine getElem?_of_prefix requests ?_
    rw [Recorded.requests, List.getElem?_map, foundNext, Option.map_some]
  simp only [Paginator.requests, Paginator.cursors, List.map_cons, List.getElem?_cons_succ,
    List.getElem?_map, Option.map_eq_some_iff] at asked
  obtain ⟨_, ⟨page, onRoute, rfl⟩, asked⟩ := asked
  have answered : (walk.run source.recorded key polls (.fresh origin)).state.answers[index]?
      = some page.answer := by
    refine getElem?_of_prefix answers ?_
    rw [List.getElem?_map, onRoute, Option.map_some]
  rw [Recorded.answers, List.getElem?_map, found, Option.map_some] at answered
  exact ⟨page, Option.some.inj answered, asked.symm⟩

/-- Behind a page without a signal the next request lies beyond the one before. -/
theorem advances_next (source : Source σ ρ) (key : ρ → Snowflake) (origin : σ)
    (opened : open? paginator = .ok walk) (polls : Nat) {index : Nat} {this next : Exchange ρ}
    (found : (walk.run source.recorded key polls (.fresh origin)).state.exchanges[index]?
      = some this)
    (foundNext
      : (walk.run source.recorded key polls (.fresh origin)).state.exchanges[index + 1]?
        = some next)
    (quiet : this.warnings key = [])
    : paginator.direction.advances this.request.cursor next.request.cursor = true := by
  obtain ⟨page, answer, asked⟩ := request_of_next source key origin opened polls found foundNext
  have request := request_eq_of_mem source key origin opened polls (List.mem_of_getElem? found)
  have ahead := (Exchange.warnings_eq_nil_iff answer).mp quiet
  rw [asked]
  rwa [congrArg PageRequest.direction request] at ahead

/--
Where no page on the way from one request to a later one is signalled, the later one lies beyond
the earlier, by induction on the way between them.
-/
theorem advances_of_quiet (source : Source σ ρ) (key : ρ → Snowflake) (origin : σ)
    (opened : open? paginator = .ok walk) (polls : Nat) {i j : Nat} (lt : i < j)
    {first last : Exchange ρ}
    (found : (walk.run source.recorded key polls (.fresh origin)).state.exchanges[i]?
      = some first)
    (foundLast : (walk.run source.recorded key polls (.fresh origin)).state.exchanges[j]?
      = some last)
    (quiet
      : ∀ between exchange,
          i ≤ between
          → between < j
          → (walk.run source.recorded key polls (.fresh origin)).state.exchanges[between]?
            = some exchange
          → exchange.warnings key = [])
    : paginator.direction.advances first.request.cursor last.request.cursor = true := by
  induction j, lt using Nat.le_induction generalizing last with
  | base =>
      exact advances_next source key origin opened polls found foundLast
        (quiet i first (Nat.le_refl i) (Nat.lt_succ_self i) found)
  | succ j le ih =>
      have bound := (List.getElem?_eq_some_iff.mp foundLast).1
      have foundMiddle := List.getElem?_eq_getElem (Nat.lt_of_succ_lt bound)
      have earlier := ih foundMiddle
        fun between exchange from_i before => quiet between exchange from_i (by omega)
      have later := advances_next source key origin opened polls foundMiddle foundLast
        (quiet j _ (by omega) (Nat.lt_succ_self j) foundMiddle)
      exact Direction.advances_trans earlier later

------------------------------------------------------------------------------------------
-- Cursors that come back
------------------------------------------------------------------------------------------

/--
Whatever the source does, the signals that a walk reports are, in order, those that its exchanges
call for: one for each page whose last key does not lie strictly beyond the cursor of its request.
And where two requests have the same cursor, one of the exchanges from the first of them up to the
second is signalled. What the source reports itself stands apart in the log.
-/
theorem run_signals_returning_cursors (source : Source σ ρ) (paginator : Paginator)
    (key : ρ → Snowflake) (origin : σ) (opened : open? paginator = .ok walk) (polls : Nat)
    : let run := walk.run source.recorded key polls (.fresh origin)
      let exchanges := run.state.exchanges
      let reports := (Progress.startingAt paginator.start).reports key exchanges
      run.events
          = (List.zipWith (· ++ ·) (source.reports origin run.state.requests) reports).flatten
        ∧ (∀ exchange ∈ exchanges, exchange.request.direction = paginator.direction)
        ∧ reports.map (List.filter Log.Event.isStuck) = exchanges.map (Exchange.warnings key)
        ∧ ∀ (i j : Nat) (first last : Exchange ρ),
            i < j
            → exchanges[i]? = some first
            → exchanges[j]? = some last
            → first.request.cursor = last.request.cursor
            → ∃ between events,
                i ≤ between
                ∧ between < j
                ∧ reports[between]? = some events
                ∧ events.any Log.Event.isStuck = true := by
  intro run exchanges reports
  refine ⟨?_, ?_, ?_, ?_⟩
  · exact (run_logged source key origin opened polls).events
  · intro exchange member
    exact congrArg PageRequest.direction (request_eq_of_mem source key origin opened polls member)
  · exact Progress.map_filter_isStuck_reports key (.startingAt paginator.start) exchanges
  · intro i j first last lt found foundLast same
    by_contra unsignalled
    -- Without a signal on the way the later cursor lies beyond the earlier one.
    have ahead := advances_of_quiet source key origin opened polls lt found foundLast ?_
    · rw [same] at ahead
      exact Direction.not_advances_self _ _ ahead
    · intro between exchange from_i before foundBetween
      by_contra signalled
      have stretch : (reports.map (List.filter Log.Event.isStuck))[between]?
          = some (exchange.warnings key) := by
        rw [Progress.map_filter_isStuck_reports, List.getElem?_map, foundBetween,
          Option.map_some]
      rw [List.getElem?_map] at stretch
      obtain ⟨events, reported, signals⟩ := Option.map_eq_some_iff.mp stretch
      obtain ⟨event, member⟩ := List.exists_mem_of_ne_nil _ signalled
      rw [← signals] at member
      refine unsignalled ⟨between, events, from_i, before, reported, ?_⟩
      exact List.any_eq_true.mpr ⟨event, List.mem_filter.mp member⟩

/-- The cursor goes from 5 to 9 and back by way of 7; both steps back are signalled. -/
theorem run_signals_returning_cursors_of_script
    : let script := Memory.ofStock
        (.script [.ok [.ofId ⟨9⟩], .ok [⟨⟨4⟩, ⟨7⟩⟩], .ok [.ofId ⟨8⟩, .ofId ⟨5⟩]])
      let paginator := (Paginator.after 2).startAt ⟨5⟩
      let walk : Walk Entry := ⟨paginator, .startingAt ⟨5⟩, []⟩
      let run := walk.run Memory.fetch.recorded Entry.key 5 (.fresh script)
      let reports := (Progress.startingAt ⟨5⟩).reports Entry.key run.state.exchanges
      open? paginator = .ok walk
      ∧ run.state.requests.map PageRequest.cursor = [⟨5⟩, ⟨9⟩, ⟨7⟩, ⟨5⟩]
      ∧ run.events.filter Log.Event.isStuck
        = [.cursorStuck .after ⟨9⟩ ⟨7⟩, .cursorStuck .after ⟨7⟩ ⟨5⟩]
      ∧ ∃ between events,
          between < 3
          ∧ reports[between]? = some events
          ∧ events.any Log.Event.isStuck = true := by
  intro script paginator walk run reports
  have opened : open? paginator = .ok walk := rfl
  obtain ⟨_, _, _, signalled⟩ :=
    run_signals_returning_cursors Memory.fetch paginator Entry.key script opened 5
  obtain ⟨between, events, _, before, reported, signal⟩ :=
    signalled 0 3 _ _ (by decide) rfl rfl rfl
  exact ⟨opened, by decide +kernel, by decide +kernel, between, events, before, reported, signal⟩

end Walk

end DiscordRest.Paging
