import Mathlib.Data.List.Induction
import Mathlib.Data.List.Infix
import DiscordRest.Proofs.Paging.Run

/-!
What passes between a walk and a source. A source can be made to remember its exchanges, and the
requests that lead through some pages are known from the pages alone.
-/

namespace DiscordRest.Paging

variable {σ ρ : Type}

------------------------------------------------------------------------------------------
-- Sources that remember
------------------------------------------------------------------------------------------

/-- A request with the answer that it got. -/
structure Exchange (ρ : Type) where
  request : PageRequest
  answer : Except Error (List ρ)

/-- A source with all its exchanges. -/
structure Recorded (σ ρ : Type) where
  state : σ
  exchanges : List (Exchange ρ)

namespace Recorded

/-- A source that was asked for nothing yet. -/
def fresh (state : σ) : Recorded σ ρ :=
  ⟨state, []⟩

/-- The requests that a source got. -/
def requests (recorded : Recorded σ ρ) : List PageRequest :=
  recorded.exchanges.map Exchange.request

/-- The answers that a source gave. -/
def answers (recorded : Recorded σ ρ) : List (Except Error (List ρ)) :=
  recorded.exchanges.map Exchange.answer

end Recorded

namespace Source

/-- The source, made to remember its exchanges. -/
def recorded (source : Source σ ρ) : Source (Recorded σ ρ) ρ := fun recorded request =>
  let reply := source recorded.state request
  ⟨⟨reply.state, recorded.exchanges ++ [⟨request, reply.answer⟩]⟩, reply.answer, reply.events⟩

/-- A source after some requests, with what it answered. -/
def serve (source : Source σ ρ) (state : Recorded σ ρ) (requests : List PageRequest)
    : Recorded σ ρ :=
  requests.foldl (fun state request => (source.recorded state request).state) state

theorem serve_append_singleton (source : Source σ ρ) (state : Recorded σ ρ)
    (requests : List PageRequest) (request : PageRequest)
    : source.serve state (requests ++ [request])
      = (source.recorded (source.serve state requests) request).state := by
  simp [serve]

theorem requests_serve (source : Source σ ρ) (state : Recorded σ ρ)
    (requests : List PageRequest)
    : (source.serve state requests).requests = state.requests ++ requests := by
  induction requests generalizing state with
  | nil => simp [serve]
  | cons request rest ih =>
      have next := ih (source.recorded state request).state
      simpa [serve, recorded, Recorded.requests] using next

/-- A fresh source remembers one exchange for each request that is served. -/
theorem length_exchanges_serve (source : Source σ ρ) (origin : σ) (requests : List PageRequest)
    : (source.serve (.fresh origin) requests).exchanges.length = requests.length := by
  have requested := congrArg List.length (source.requests_serve (.fresh origin) requests)
  simpa [Recorded.requests, Recorded.fresh] using requested

theorem answers_recorded (source : Source σ ρ) (state : Recorded σ ρ) (request : PageRequest)
    : (source.recorded state request).state.answers
      = state.answers ++ [(source.recorded state request).answer] := by
  simp [recorded, Recorded.answers]

end Source

namespace Walk

/-- A walk does the same by way of a source that remembers, by the kinds of polls. -/
theorem poll_recorded (source : Source σ ρ) (key : ρ → Snowflake) (walk : Walk ρ)
    (state : Recorded σ ρ)
    : walk.poll source key state.state
      = let polled := walk.poll source.recorded key state
        ⟨polled.item, polled.walk, polled.state.state, polled.events⟩ := by
  cases pending : walk.pending with
  | cons record rest => simp only [poll_of_pending _ pending]
  | nil =>
      cases done : walk.progress.done with
      | true => simp only [poll_of_done _ pending done]
      | false =>
          rcases answer_cases (source state.state walk.request).answer with
            ⟨error, failed⟩ | empty | ⟨page, given⟩
          · rw [poll_of_failure source pending done failed,
              poll_of_failure source.recorded pending done failed]
            rfl
          · rw [poll_of_empty source pending done empty,
              poll_of_empty source.recorded pending done empty]
            rfl
          · rw [poll_of_page source page pending done given,
              poll_of_page source.recorded page pending done given]
            rfl

theorem run_recorded (source : Source σ ρ) (key : ρ → Snowflake) (count : Nat)
    (walk : Walk ρ) (state : Recorded σ ρ)
    : walk.run source key count state.state
      = let run := walk.run source.recorded key count state
        ⟨run.items, run.walk, run.state.state, run.events⟩ := by
  induction count generalizing walk state with
  | zero => rfl
  | succ count ih => simp only [run, poll_recorded source key walk state, ih]

end Walk

------------------------------------------------------------------------------------------
-- The way through some pages
------------------------------------------------------------------------------------------

namespace Paginator

/-- The cursors that lead through some pages: the start, and the last key of each page. -/
def cursors (paginator : Paginator) (key : ρ → Snowflake) (pages : List (Page ρ))
    : List Snowflake :=
  paginator.start :: pages.map (Page.lastKey key)

/-- The requests that lead through some pages, the one behind the last page included. -/
def requests (paginator : Paginator) (key : ρ → Snowflake) (pages : List (Page ρ))
    : List PageRequest :=
  (paginator.cursors key pages).map paginator.request

/-- The cursor behind some pages. -/
def cursorAfter (paginator : Paginator) (key : ρ → Snowflake) (pages : List (Page ρ))
    : Snowflake :=
  (pages.getLast?.map (Page.lastKey key)).getD paginator.start

/-- A further page is asked for at the cursor behind the pages before. -/
theorem requests_append_singleton (paginator : Paginator) (key : ρ → Snowflake)
    (pages : List (Page ρ)) (page : Page ρ)
    : paginator.requests key (pages ++ [page])
      = paginator.requests key pages ++ [paginator.request (page.lastKey key)] := by
  simp [requests, cursors]

theorem cursorAfter_append_singleton (paginator : Paginator) (key : ρ → Snowflake)
    (pages : List (Page ρ)) (page : Page ρ)
    : paginator.cursorAfter key (pages ++ [page]) = page.lastKey key := by
  simp [cursorAfter]

/-- The last request that leads through some pages is the one behind them. -/
theorem dropLast_requests_append (paginator : Paginator) (key : ρ → Snowflake)
    (pages : List (Page ρ))
    : (paginator.requests key pages).dropLast
        ++ [paginator.request (paginator.cursorAfter key pages)]
      = paginator.requests key pages := by
  rcases List.eq_nil_or_concat pages with rfl | ⟨before, page, rfl⟩
  · rfl
  · rw [List.concat_eq_append, requests_append_singleton, cursorAfter_append_singleton,
      List.dropLast_concat]

theorem length_requests (paginator : Paginator) (key : ρ → Snowflake) (pages : List (Page ρ))
    : (paginator.requests key pages).length = pages.length + 1 := by
  simp [requests, cursors]

end Paginator

namespace Source

variable (source : Source σ ρ) (paginator : Paginator) (key : ρ → Snowflake) (origin : σ)

/-- A source that is asked for some pages one after another answers with just these. -/
def Gives (pages : List (Page ρ)) : Prop :=
  (source.serve (.fresh origin) (paginator.requests key pages).dropLast).answers
    = pages.map Page.answer

/-- The answer to the request behind some pages. -/
def answerAfter (pages : List (Page ρ)) : Except Error (List ρ) :=
  let state := source.serve (.fresh origin) (paginator.requests key pages).dropLast
  (source state.state (paginator.request (paginator.cursorAfter key pages))).answer

/--
The pages with records among the first `count` answers of a source, up to the first answer that
is none.
-/
def pages : Nat → List (Page ρ)
  | 0 => []
  | count + 1 =>
    match source.answerAfter paginator key origin (pages count) with
    | .ok (first :: rest) => pages count ++ [.ofCons first rest]
    | _ => pages count

/-- The request behind some pages is served last. -/
theorem serve_requests (pages : List (Page ρ))
    : source.serve (.fresh origin) (paginator.requests key pages)
      = (source.recorded
          (source.serve (.fresh origin) (paginator.requests key pages).dropLast)
          (paginator.request (paginator.cursorAfter key pages))).state := by
  rw [← serve_append_singleton, Paginator.dropLast_requests_append]

/-- The answers to all requests through some pages end with the one behind them. -/
theorem answers_serve_requests (pages : List (Page ρ))
    : (source.serve (.fresh origin) (paginator.requests key pages)).answers
      = (source.serve (.fresh origin) (paginator.requests key pages).dropLast).answers
        ++ [source.answerAfter paginator key origin pages] := by
  rw [serve_requests, answers_recorded]
  rfl

/-- No pages are given without a request. -/
theorem gives_nil : source.Gives paginator key origin [] :=
  rfl

/-- Pages are given one after another: those before the last, and the last one behind them. -/
theorem gives_append_singleton_iff {pages : List (Page ρ)} {page : Page ρ}
    : source.Gives paginator key origin (pages ++ [page])
      ↔ source.Gives paginator key origin pages
        ∧ source.answerAfter paginator key origin pages = page.answer := by
  unfold Gives
  rw [Paginator.requests_append_singleton, List.dropLast_concat, answers_serve_requests,
    List.map_append, List.map_singleton]
  constructor
  · intro same
    obtain ⟨before, last⟩ := List.append_inj' same rfl
    exact ⟨before, List.singleton_inj.mp last⟩
  · rintro ⟨before, last⟩
    rw [before, last]

/-- An answer holds at most one page. -/
theorem length_pages_le (count : Nat)
    : (source.pages paginator key origin count).length ≤ count := by
  induction count with
  | zero => exact Nat.le_refl 0
  | succ count ih =>
      simp only [Source.pages]
      split
      · rw [List.length_append, List.length_singleton]
        omega
      · omega

/-- The first pages of a source stay the first ones when more are taken. -/
theorem pages_prefix_of_le {count more : Nat} (le : count ≤ more)
    : source.pages paginator key origin count <+: source.pages paginator key origin more := by
  induction le with
  | refl => exact List.prefix_rfl
  | @step more _ ih =>
      refine ih.trans ?_
      simp only [Source.pages]
      split
      · exact List.prefix_append _ _
      · exact List.prefix_rfl

variable {source paginator key origin}

/-- Pages that are given are the first pages of the source, by induction from their end. -/
theorem pages_length_of_gives {pages : List (Page ρ)}
    (gives : source.Gives paginator key origin pages)
    : source.pages paginator key origin pages.length = pages := by
  induction pages using List.reverseRecOn with
  | nil => rfl
  | append_singleton before page ih =>
      obtain ⟨earlier, last⟩ := (source.gives_append_singleton_iff ..).mp gives
      obtain ⟨records, nonempty⟩ := page
      cases records with
      | nil => exact absurd rfl nonempty
      | cons first rest =>
          simp only [List.length_append, List.length_singleton, Source.pages, ih earlier, last,
            Page.answer, Page.ofCons]

/-- Behind the last page a source has no others. -/
theorem pages_eq_of_ending {pages : List (Page ρ)}
    (gives : source.Gives paginator key origin pages)
    (last : ∀ page : Page ρ, source.answerAfter paginator key origin pages ≠ page.answer)
    {count : Nat} (le : pages.length ≤ count)
    : source.pages paginator key origin count = pages := by
  induction le with
  | refl => exact pages_length_of_gives gives
  | @step count _ ih =>
      unfold Source.pages
      rw [ih]
      split
      · rename_i first rest answer
        exact absurd answer (last (.ofCons first rest))
      · rfl

end Source

end DiscordRest.Paging
