import DiscordRest.Proofs.Paging.Exchange

/-!
The course of a walk. In the midst of its pages a walk has given some of their records and holds
the others, and it asks for a page only when those before it are used up; behind them it is at
its end for good. One poll keeps this up, so every run has it.
-/

namespace DiscordRest.Paging

variable {σ ρ : Type}

------------------------------------------------------------------------------------------
-- Endings
------------------------------------------------------------------------------------------

/-- How the pages of a source come to an end. -/
inductive Ending where
  /-- There is a page without records. -/
  | exhausted
  /-- A request fails. -/
  | failed (error : Error)

namespace Ending

/-- The answer that ends the pages. -/
def answer : Ending → Except Error (List ρ)
  | exhausted => .ok []
  | failed error => .error error

/-- What the poll at which the pages end gives. -/
def item : Ending → Item ρ
  | exhausted => .finished
  | failed error => .failure error

/-- The failures that an ending gives: none, or the one that it is. -/
def failures : Ending → List (Except Error ρ)
  | exhausted => []
  | failed error => [.error error]

theorem length_failures_le (ending : Ending)
    : (ending.failures : List (Except Error ρ)).length ≤ 1 := by
  cases ending with
  | exhausted => exact Nat.zero_le 1
  | failed error => exact Nat.le_refl 1

/-- The item of an ending and the ends after it are its failures and the ends after these. -/
theorem item_cons_replicate (ending : Ending) (later : Nat)
    : (ending.item :: List.replicate later .finished : List (Item ρ))
      = ending.failures.map Item.ofResult
        ++ List.replicate (later + 1 - (ending.failures : List (Except Error ρ)).length) .finished := by
  cases ending with
  | exhausted => rfl
  | failed error => rfl

theorem answer_ne_page (ending : Ending) (page : Page ρ) : ending.answer ≠ page.answer := by
  cases ending with
  | exhausted =>
      intro same
      exact page.nonempty (Except.ok.inj same).symm
  | failed error =>
      intro same
      cases same

/-- Endings with the same answer are the same. -/
theorem answer_injective {a b : Ending} (same : (a.answer : Except Error (List ρ)) = b.answer)
    : a = b := by
  cases a with
  | exhausted =>
      cases b with
      | exhausted => rfl
      | failed _ => cases same
  | failed _ =>
      cases b with
      | exhausted => cases same
      | failed _ => rw [Except.error.inj same]

end Ending

------------------------------------------------------------------------------------------
-- Where a walk is
------------------------------------------------------------------------------------------

namespace Walk

/--
A walk in the midst of some pages of a source that remembers: it has given some of their records,
the others are pending, and the last page was asked for only after the records of all others.
-/
structure Midway (source : Source σ ρ) (paginator : Paginator) (key : ρ → Snowflake) (origin : σ)
    (pages : List (Page ρ)) (given : List ρ) (walk : Walk ρ) (state : Recorded σ ρ)
    : Prop where
  /-- The walk pages as it began. -/
  settings : walk.paginator = paginator
  /-- The cursor lies behind the pages. -/
  cursor : walk.progress.cursor = paginator.cursorAfter key pages
  /-- There may be more to ask for. -/
  going : walk.progress.done = false
  /-- The records that were given and the pending ones are those of the pages, in order. -/
  records : given ++ walk.pending = pages.flatMap Page.records
  /-- The last page was asked for when a record was wanted that no page before it has. -/
  needed
    : ∀ before last,
        pages = before ++ [last] → (before.flatMap Page.records).length < given.length
  /-- The source got the requests for the pages and no others. -/
  served : state = source.serve (.fresh origin) (paginator.requests key pages).dropLast
  /-- It answered with the pages. -/
  gives : source.Gives paginator key origin pages

/-- A walk at its end behind some pages of a source that remembers. -/
structure Over (source : Source σ ρ) (paginator : Paginator) (key : ρ → Snowflake) (origin : σ)
    (pages : List (Page ρ)) (ending : Ending) (walk : Walk ρ) (state : Recorded σ ρ)
    : Prop where
  /-- No record is left. -/
  pending : walk.pending = []
  /-- Nothing is left to ask for. -/
  done : walk.progress.done = true
  /-- The source got the requests for the pages and the one behind them. -/
  served : state = source.serve (.fresh origin) (paginator.requests key pages)
  /-- It answered with the pages. -/
  gives : source.Gives paginator key origin pages
  /-- It answered the request behind them with their ending. -/
  ending : source.answerAfter paginator key origin pages = ending.answer

section

variable {source : Source σ ρ} {paginator : Paginator} {key : ρ → Snowflake} {origin : σ}
variable {pages : List (Page ρ)} {given : List ρ} {walk : Walk ρ} {state : Recorded σ ρ}

/-- A walk that was just opened has no pages behind it. -/
theorem midway_of_open? (opened : open? paginator = .ok walk)
    : walk.Midway source paginator key origin [] [] (.fresh origin) := by
  obtain ⟨_, rfl⟩ := open?_eq_ok_iff.mp opened
  exact {
    settings := rfl
    cursor := rfl
    going := rfl
    records := rfl
    needed := by simp
    served := rfl
    gives := source.gives_nil paginator key origin
  }

namespace Midway

/-- The next request of a walk lies behind its pages. -/
theorem request_eq (midway : walk.Midway source paginator key origin pages given state)
    : walk.request = paginator.request (paginator.cursorAfter key pages) := by
  rw [request, midway.settings, midway.cursor]

/-- The source answers the next request with what lies behind the pages. -/
theorem answer_eq (midway : walk.Midway source paginator key origin pages given state)
    : (source.recorded state walk.request).answer
      = source.answerAfter paginator key origin pages := by
  rw [midway.request_eq, midway.served]
  rfl

/-- The next request takes the source behind the pages. -/
theorem state_eq (midway : walk.Midway source paginator key origin pages given state)
    : (source.recorded state walk.request).state
      = source.serve (.fresh origin) (paginator.requests key pages) := by
  rw [midway.request_eq, midway.served, Source.serve_requests]

theorem length_exchanges (midway : walk.Midway source paginator key origin pages given state)
    : state.exchanges.length = pages.length := by
  rw [midway.served, Source.length_exchanges_serve, List.length_dropLast,
    Paginator.length_requests, Nat.add_sub_cancel]

/-- A pending record is given. -/
theorem pop (midway : walk.Midway source paginator key origin pages given state) {record : ρ}
    {rest : List ρ} (pending : walk.pending = record :: rest)
    : { walk with pending := rest }.Midway source paginator key origin pages
        (given ++ [record]) state := by
  exact {
    settings := midway.settings
    cursor := midway.cursor
    going := midway.going
    records := by
      rw [← midway.records, pending, List.append_assoc, List.singleton_append]
    needed := by
      intro before last split
      have earlier := midway.needed before last split
      rw [List.length_append, List.length_singleton]
      omega
    served := midway.served
    gives := midway.gives
  }

/-- A further page is taken in when all records of the pages before were given. -/
theorem fetch (midway : walk.Midway source paginator key origin pages given state)
    (pending : walk.pending = []) (page : Page ρ)
    (answer : source.answerAfter paginator key origin pages = page.answer)
    : { walk with
        progress := (walk.progress.addPage page.records.length).moveTo (page.lastKey key)
        pending := page.records.tail }.Midway source paginator key origin (pages ++ [page])
        (given ++ [page.first]) (source.recorded state walk.request).state := by
  have used : given = pages.flatMap Page.records := by
    simpa only [pending, List.append_nil] using midway.records
  exact {
    settings := midway.settings
    cursor := (paginator.cursorAfter_append_singleton key pages page).symm
    going := midway.going
    records := by
      rw [List.append_assoc, List.singleton_append, page.first_cons_tail, used,
        List.flatMap_append, List.flatMap_singleton]
    needed := by
      intro before last split
      obtain ⟨rfl, _⟩ := List.append_inj' split rfl
      rw [← used, List.length_append, List.length_singleton]
      omega
    served := by
      rw [Paginator.requests_append_singleton, List.dropLast_concat, midway.state_eq]
    gives := (source.gives_append_singleton_iff ..).mpr ⟨midway.gives, answer⟩
  }

theorem length_given_le (midway : walk.Midway source paginator key origin pages given state)
    : given.length ≤ (pages.flatMap Page.records).length := by
  rw [← midway.records, List.length_append]
  omega

/-- Records are pending exactly when not all records of the pages were given. -/
theorem pending_eq_nil_iff (midway : walk.Midway source paginator key origin pages given state)
    : walk.pending = [] ↔ given.length = (pages.flatMap Page.records).length := by
  rw [← midway.records, List.length_append, ← List.length_eq_zero_iff]
  omega

/-- The records that were given are the first ones of the pages. -/
theorem given_eq_take (midway : walk.Midway source paginator key origin pages given state)
    : given = (pages.flatMap Page.records).take given.length := by
  rw [← midway.records, List.take_left]

/--
A poll gives the next record of the pages, or it asks for what lies behind them: the first record
of another page, or the end.
-/
theorem poll (midway : walk.Midway source paginator key origin pages given state)
    : let polled := walk.poll source.recorded key state
      (∃ record,
        given.length < (pages.flatMap Page.records).length
        ∧ polled.item = .record record
        ∧ polled.walk.Midway source paginator key origin pages (given ++ [record]) polled.state)
      ∨ (∃ page,
          given.length = (pages.flatMap Page.records).length
          ∧ polled.item = .record page.first
          ∧ polled.walk.Midway source paginator key origin (pages ++ [page])
              (given ++ [page.first]) polled.state)
      ∨ (∃ ending,
          given.length = (pages.flatMap Page.records).length
          ∧ polled.item = ending.item
          ∧ polled.walk.Over source paginator key origin pages ending polled.state) := by
  cases pending : walk.pending with
  | cons record rest =>
      rw [poll_of_pending source.recorded pending]
      have some_left := midway.pending_eq_nil_iff.not.mp (by simp [pending])
      exact Or.inl ⟨
        record,
        Nat.lt_of_le_of_ne midway.length_given_le some_left,
        rfl,
        midway.pop pending
      ⟩
  | nil =>
      -- All records were given, so the answer behind the pages decides how it goes on.
      have used := midway.pending_eq_nil_iff.mp pending
      have same := midway.answer_eq
      rcases answer_cases (source.answerAfter paginator key origin pages) with
        ⟨error, failed⟩ | empty | ⟨page, more⟩
      · rw [poll_of_failure source.recorded pending midway.going (same.trans failed)]
        exact Or.inr (Or.inr ⟨.failed error, used, rfl, {
          pending
          done := rfl
          served := midway.state_eq
          gives := midway.gives
          ending := failed
        }⟩)
      · rw [poll_of_empty source.recorded pending midway.going (same.trans empty)]
        exact Or.inr (Or.inr ⟨.exhausted, used, rfl, {
          pending
          done := rfl
          served := midway.state_eq
          gives := midway.gives
          ending := empty
        }⟩)
      · rw [poll_of_page source.recorded page pending midway.going (same.trans more)]
        exact Or.inr (Or.inl ⟨page, used, rfl, midway.fetch pending page more⟩)

end Midway

namespace Over

variable {ending : Ending}

theorem length_exchanges (past : walk.Over source paginator key origin pages ending state)
    : state.exchanges.length = pages.length + 1 := by
  rw [past.served, Source.length_exchanges_serve, Paginator.length_requests]

end Over

------------------------------------------------------------------------------------------
-- Runs
------------------------------------------------------------------------------------------

/--
Every run of an opened walk is in the midst of some pages, all of whose polls gave records, or it
came to its end behind all records of its pages and gave nothing but the end from there on. By
induction on the number of polls.
-/
theorem run_course (source : Source σ ρ) (key : ρ → Snowflake) (origin : σ)
    (opened : open? paginator = .ok walk) (count : Nat)
    : let run := walk.run source.recorded key count (.fresh origin)
      (∃ pages given,
        run.items = given.map .record
        ∧ run.walk.Midway source paginator key origin pages given run.state)
      ∨ (∃ pages ending later,
          run.items
            = (pages.flatMap Page.records).map .record
              ++ ending.item :: List.replicate later .finished
          ∧ run.walk.Over source paginator key origin pages ending run.state) := by
  induction count with
  | zero => exact Or.inl ⟨[], [], rfl, midway_of_open? opened⟩
  | succ count ih =>
      rw [run_succ]
      dsimp only
      rcases ih with ⟨pages, given, items, midway⟩ | ⟨pages, ending, later, items, past⟩
      · rcases midway.poll with
          ⟨record, _, item, next⟩ | ⟨page, _, item, next⟩ | ⟨ending, used, item, next⟩
        · refine Or.inl ⟨pages, given ++ [record], ?_, next⟩
          simp only [items, item, List.map_append, List.map_singleton]
        · refine Or.inl ⟨pages ++ [page], given ++ [page.first], ?_, next⟩
          simp only [items, item, List.map_append, List.map_singleton]
        · refine Or.inr ⟨pages, ending, 0, ?_, next⟩
          have all := midway.given_eq_take
          rw [used, List.take_length] at all
          simp only [items, item, ← all, List.replicate_zero]
      · rw [poll_of_done source.recorded past.pending past.done]
        refine Or.inr ⟨pages, ending, later + 1, ?_, past⟩
        simp only [items, List.append_assoc, List.cons_append, List.replicate_succ']

/-- A record of a run comes from a page that the source answered with. -/
theorem mem_answer_of_mem_items (source : Source σ ρ) (key : ρ → Snowflake) (origin : σ)
    (opened : open? paginator = .ok walk) (count : Nat) {record : ρ}
    (member : .record record ∈ (walk.run source.recorded key count (.fresh origin)).items)
    : ∃ records,
        Except.ok records ∈ (walk.run source.recorded key count (.fresh origin)).state.answers
        ∧ record ∈ records := by
  have listed : ∀ pages : List (Page ρ),
      record ∈ pages.flatMap Page.records
      → ∃ records, Except.ok records ∈ pages.map Page.answer ∧ record ∈ records := by
    intro pages among
    obtain ⟨page, found, inside⟩ := List.mem_flatMap.mp among
    exact ⟨page.records, List.mem_map_of_mem found, inside⟩
  rcases run_course source key origin opened count with
    ⟨pages, given, items, midway⟩ | ⟨pages, ending, later, items, past⟩
  · rw [items] at member
    have taken : record ∈ given := by simpa using member
    rw [midway.given_eq_take] at taken
    rw [midway.served, midway.gives]
    exact listed pages (List.mem_of_mem_take taken)
  · rw [items] at member
    have among : record ∈ pages.flatMap Page.records := by
      cases ending <;> simpa [Ending.item, List.mem_replicate] using member
    obtain ⟨records, found, inside⟩ := listed pages among
    refine ⟨records, ?_, inside⟩
    rw [past.served, Source.answers_serve_requests, past.gives]
    exact List.mem_append_left _ found

/-- A run that comes to an end without a failure is over behind an empty page. -/
theorem over_of_finished (source : Source σ ρ) (key : ρ → Snowflake) (origin : σ)
    (opened : open? paginator = .ok walk) (count : Nat)
    (finished : .finished ∈ (walk.run source.recorded key count (.fresh origin)).items)
    (unfailed : ∀ error, .failure error ∉ (walk.run source.recorded key count (.fresh origin)).items)
    : let run := walk.run source.recorded key count (.fresh origin)
      ∃ pages, run.walk.Over source paginator key origin pages .exhausted run.state := by
  rcases run_course source key origin opened count with
    ⟨pages, given, items, midway⟩ | ⟨pages, ending, later, items, past⟩
  · rw [items] at finished
    simp at finished
  · cases ending with
    | exhausted => exact ⟨pages, past⟩
    | failed error =>
        refine absurd ?_ (unfailed error)
        rw [items]
        exact List.mem_append_right _ List.mem_cons_self

end

end Walk

end DiscordRest.Paging
