import DiscordRest.Command.Run
import DiscordRest.Paging.Memory
import DiscordRest.Proofs.Paging.Consumption

/-!
What a walk delivers: all records of the pages of its source, in the order of the pages and on
each page in the order in which they came, and the failure that ends the pages if one does. The
source gets one request for each page and one more, each at the last key of the page before.
-/

namespace DiscordRest.Paging

variable {σ ρ : Type} {source : Source σ ρ} {paginator : Paginator} {key : ρ → Snowflake}
variable {origin : σ} {pages : List (Page ρ)} {ending : Ending} {walk : Walk ρ}

------------------------------------------------------------------------------------------
-- Pages with a known ending
------------------------------------------------------------------------------------------

/-- The answers to the requests through some pages are these and an ending exactly when the source
gives the pages and then the ending.
-/
theorem Source.answers_eq_iff
    : (source.serve (.fresh origin) (paginator.requests key pages)).answers
        = pages.map Page.answer ++ [ending.answer]
      ↔ source.Gives paginator key origin pages
        ∧ source.answerAfter paginator key origin pages = ending.answer := by
  rw [answers_serve_requests]
  constructor
  · intro same
    obtain ⟨before, last⟩ := List.append_inj' same rfl
    exact ⟨before, List.singleton_inj.mp last⟩
  · rintro ⟨before, last⟩
    rw [before, last]

/-- Pages that a source gives are the first ones of those behind which it has an ending. -/
theorem Source.Gives.prefix_of_ending {others : List (Page ρ)}
    (given : source.Gives paginator key origin others)
    (gives : source.Gives paginator key origin pages)
    (last : source.answerAfter paginator key origin pages = ending.answer)
    : others <+: pages := by
  have all := pages_eq_of_ending gives (fun page => last ▸ ending.answer_ne_page page)
    (Nat.le_max_left pages.length others.length)
  have first := source.pages_prefix_of_le paginator key origin
    (Nat.le_max_right pages.length others.length)
  rwa [all, pages_length_of_gives given] at first

/-- The pages that a source gives hold no more records than all pages up to its ending. -/
theorem Source.Gives.length_le_of_ending {others : List (Page ρ)}
    (given : source.Gives paginator key origin others)
    (gives : source.Gives paginator key origin pages)
    (last : source.answerAfter paginator key origin pages = ending.answer)
    : (others.flatMap Page.records).length ≤ (pages.flatMap Page.records).length :=
  ((given.prefix_of_ending gives last).flatMap Page.records).length_le

------------------------------------------------------------------------------------------
-- What is delivered
------------------------------------------------------------------------------------------

namespace Walk

/-- What a walk through pages up to an ending delivers, and what it asked its source for. -/
structure Delivers (paginator : Paginator) (key : ρ → Snowflake) (pages : List (Page ρ))
    (ending : Ending) (taken : Taken (Recorded σ ρ) ρ)
    : Prop where
  /-- All records of the pages in order, and then the failure if there is one. -/
  items : taken.items = (pages.flatMap Page.records).map .ok ++ ending.failures
  /-- The end was seen. -/
  ended : taken.ended = true
  /-- There was a request for each page and one for the ending. -/
  calls : taken.state.exchanges.length = pages.length + 1
  /-- The first cursor is the start, and each further one the last key of the page before. -/
  cursors
    : taken.state.requests.map PageRequest.cursor
      = paginator.start :: pages.map (Page.lastKey key)
  /-- All requests go in the direction of the paginator and ask for pages of its size. -/
  steady
    : ∀ request ∈ taken.state.requests,
        request.direction = paginator.direction ∧ request.limit = paginator.pageSize
  /-- The answers are the pages and the ending. -/
  answers : taken.state.answers = pages.map Page.answer ++ [ending.answer]

/-- A walk that is over has asked for its pages and their ending in this way. -/
theorem Over.delivers {taken : Taken (Recorded σ ρ) ρ}
    (past : taken.walk.Over source paginator key origin pages ending taken.state)
    (items : taken.items = (pages.flatMap Page.records).map .ok ++ ending.failures)
    (ended : taken.ended = true)
    : Delivers paginator key pages ending taken := by
  have requests : taken.state.requests = paginator.requests key pages := by
    rw [past.served, Source.requests_serve]
    rfl
  exact {
    items
    ended
    calls := past.length_exchanges
    cursors := by
      rw [requests, Paginator.requests, List.map_map]
      exact List.map_id _
    steady := by
      intro request member
      rw [requests] at member
      obtain ⟨cursor, _, rfl⟩ := List.mem_map.mp member
      exact ⟨rfl, rfl⟩
    answers := by
      rw [past.served]
      exact Source.answers_eq_iff.mpr ⟨past.gives, past.ending⟩
  }

/-- What is taken up to the end is what the pages of the source hold, and the walk is over. -/
theorem over_of_ended (opened : open? paginator = .ok walk)
    (answers : (source.serve (.fresh origin) (paginator.requests key pages)).answers
      = pages.map Page.answer ++ [ending.answer])
    {count : Nat} (ended : (walk.take source.recorded key count (.fresh origin)).ended = true)
    : let taken := walk.take source.recorded key count (.fresh origin)
      taken.items = (pages.flatMap Page.records).map .ok ++ ending.failures
      ∧ taken.walk.Over source paginator key origin pages ending taken.state := by
  obtain ⟨gives, last⟩ := Source.answers_eq_iff.mp answers
  rcases take_course source key origin opened count with
    ⟨_, _, _, going, _⟩ | ⟨others, otherEnding, items, _, _, past⟩
  · rw [going] at ended
    contradiction
  · have forth := past.gives.prefix_of_ending gives last
    have back := gives.prefix_of_ending past.gives past.ending
    obtain rfl := forth.eq_of_length_le back.length_le
    obtain rfl := Ending.answer_injective (last.symm.trans past.ending)
    exact ⟨items, past⟩

/-- What is taken up to the end is delivered. -/
theorem delivers_of_ended (opened : open? paginator = .ok walk)
    (answers : (source.serve (.fresh origin) (paginator.requests key pages)).answers
      = pages.map Page.answer ++ [ending.answer])
    {count : Nat} (ended : (walk.take source.recorded key count (.fresh origin)).ended = true)
    : Delivers paginator key pages ending
        (walk.take source.recorded key count (.fresh origin)) := by
  obtain ⟨items, past⟩ := over_of_ended opened answers ended
  exact past.delivers items ended

/-- Enough polls see the end: one for each record, one for a failure, and one more. -/
theorem ended_take (opened : open? paginator = .ok walk)
    (answers : (source.serve (.fresh origin) (paginator.requests key pages)).answers
      = pages.map Page.answer ++ [ending.answer])
    {count : Nat} (enough : (pages.flatMap Page.records).length + 1 < count)
    : (walk.take source.recorded key count (.fresh origin)).ended = true := by
  obtain ⟨gives, last⟩ := Source.answers_eq_iff.mp answers
  rcases take_course source key origin opened count with
    ⟨_, given, _, _, polled, midway⟩ | ⟨others, otherEnding, items, ended, _, past⟩
  · have some_given := midway.length_given_le
    have bound := midway.gives.length_le_of_ending gives last
    omega
  · have bound := past.gives.length_le_of_ending gives last
    have few : (otherEnding.failures : List (Except Error ρ)).length ≤ 1 :=
      otherEnding.length_failures_le
    rw [ended, decide_eq_true_iff, items, List.length_append, List.length_map]
    omega

/-- Draining sees the end when a request for each page and one more are allowed for. -/
theorem ended_drain (opened : open? paginator = .ok walk)
    (answers : (source.serve (.fresh origin) (paginator.requests key pages)).answers
      = pages.map Page.answer ++ [ending.answer])
    {fetches : Nat} (enough : pages.length < fetches)
    : (walk.drain source.recorded key fetches (.fresh origin)).ended = true := by
  obtain ⟨gives, last⟩ := Source.answers_eq_iff.mp answers
  -- Were it still going, each request allowed for would have brought a page: more than there are.
  by_contra going
  have going := Bool.eq_false_iff.mpr going
  obtain ⟨counted, records⟩ := drain_of_not_ended source key fetches walk (.fresh origin) going
  have taken := drain_eq_take source.recorded key fetches walk (.fresh origin)
  dsimp only at taken
  rw [going, Bool.toNat_false, Nat.add_zero] at taken
  generalize walk.drain source.recorded key fetches (.fresh origin) = drained at *
  have course := take_course source key origin opened drained.items.length
  rw [← taken] at course
  rcases course with
    ⟨others, given, _, _, _, midway⟩ | ⟨others, otherEnding, items, _, polled, past⟩
  · have bound := (midway.gives.prefix_of_ending gives last).length_le
    rw [midway.length_exchanges] at counted
    simp only [Recorded.fresh, List.length_nil] at counted
    omega
  · cases otherEnding with
    | exhausted =>
        rw [items, Ending.failures, List.append_nil, List.length_map] at polled
        omega
    | failed error =>
        obtain ⟨record, same⟩ := records (.error error) (by simp [items, Ending.failures])
        cases same

/--
Of a paginator without room on its pages no walk opens, and a listing asks for nothing. Of any
other one the walk delivers what lies on the pages of its source, up to the first page without
records or the first failure, whether it is polled for its items or drained.
-/
theorem delivers_pages (source : Source σ ρ) (paginator : Paginator) (key : ρ → Snowflake)
    (origin : σ)
    : (paginator.pageSize = 0
        → (open? paginator : Except Error (Walk ρ)) = .error (.invalidPageSize 0)
          ∧ ∀ (collection : Command.Collection ρ) (options : ListingOptions)
              (surroundings : Command.Surroundings),
              let outcome := Command.list collection paginator options surroundings
              outcome.result = .error (.invalidPageSize 0)
              ∧ outcome.network = surroundings.network)
      ∧ (paginator.pageSize ≠ 0
        → ∃ walk : Walk ρ,
            open? paginator = .ok walk
            ∧ ∀ pages ending,
                (source.serve (.fresh origin) (paginator.requests key pages)).answers
                  = pages.map Page.answer ++ [ending.answer]
                → (∀ polls,
                    (pages.flatMap Page.records).length + 1 < polls
                    → Delivers paginator key pages ending
                        (walk.take source.recorded key polls (.fresh origin))
                      ∧ (walk.take source key polls origin).items
                        = (pages.flatMap Page.records).map .ok ++ ending.failures)
                  ∧ ∀ fetches,
                      pages.length < fetches
                      → Delivers paginator key pages ending
                          (walk.drain source.recorded key fetches (.fresh origin))) := by
  constructor
  · intro empty
    have closed : (open? paginator : Except Error (Walk ρ)) = .error (.invalidPageSize 0) := by
      rw [open?, if_pos empty, empty]
    refine ⟨closed, ?_⟩
    intro collection options surroundings
    simp only [Command.list, closed, Command.Outcome.failure, and_self]
  · intro positive
    obtain ⟨walk, opened⟩ : ∃ walk : Walk ρ, open? paginator = .ok walk :=
      ⟨_, open?_eq_ok_iff.mpr ⟨positive, rfl⟩⟩
    refine ⟨walk, opened, ?_⟩
    intro pages ending answers
    constructor
    · intro polls enough
      have delivers := delivers_of_ended opened answers (ended_take opened answers enough)
      refine ⟨delivers, ?_⟩
      have plain := take_recorded source key polls walk (.fresh origin)
      exact (congrArg Taken.items plain).trans delivers.items
    · intro fetches enough
      have ended := ended_drain opened answers enough
      rw [drain_eq_take] at ended ⊢
      exact delivers_of_ended opened answers ended

/-- A script of two pages and a failure, walked in pages of two records. -/
theorem delivers_pages_of_script
    : let pages : List (Page Entry) :=
        [.ofCons (.ofId ⟨4⟩) [.ofId ⟨7⟩], .ofCons ⟨⟨9⟩, ⟨5⟩⟩ []]
      let failure := Error.status 500 "down"
      let script := Memory.ofStock (.script (pages.map Page.answer ++ [.error failure]))
      (Paginator.after 2).pageSize ≠ 0
      ∧ ∃ walk,
          open? (.after 2) = .ok walk
          ∧ Delivers (.after 2) Entry.key pages (.failed failure)
              (walk.take Memory.fetch.recorded Entry.key 5 (.fresh script)) := by
  intro pages failure script
  have positive : (Paginator.after 2).pageSize ≠ 0 := by decide
  obtain ⟨walk, opened, delivers⟩ :=
    (delivers_pages Memory.fetch (.after 2) Entry.key script).2 positive
  exact ⟨positive, walk, opened, ((delivers pages (.failed failure) rfl).1 5 (by decide)).1⟩

end Walk

end DiscordRest.Paging
