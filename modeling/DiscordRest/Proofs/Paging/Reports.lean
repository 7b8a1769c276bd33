import DiscordRest.Proofs.Paging.Course
import DiscordRest.Proofs.Paging.ServedPage

/-!
What a walk reports. Apart from what its source reports itself, the log of a run follows from its
exchanges alone, one stretch of it for each. A page whose last key does not lie beyond the cursor
is signalled there, and so a cursor never comes back without a signal.
-/

namespace DiscordRest

/-- Whether an event says that a cursor did not move. -/
def Log.Event.isStuck : Log.Event → Bool
  | .cursorStuck .. => true
  | _ => false

namespace Paging

variable {σ ρ : Type}

------------------------------------------------------------------------------------------
-- The log of some exchanges
------------------------------------------------------------------------------------------

/--
The signal that an exchange calls for: one if it brought a page whose last key does not lie
strictly beyond the cursor of the request, in the direction of the request.
-/
def Exchange.warnings (key : ρ → Snowflake) (exchange : Exchange ρ) : List Log.Event :=
  match exchange.answer with
  | .error _ => []
  | .ok records =>
    match records.getLast? with
    | none => []
    | some last =>
      let request := exchange.request
      if request.direction.advances request.cursor (key last) then []
      else [.cursorStuck request.direction request.cursor (key last)]

/-- The last key of the page decides on the signal. -/
theorem Exchange.warnings_of_page {key : ρ → Snowflake} {exchange : Exchange ρ} {page : Page ρ}
    (answer : exchange.answer = page.answer)
    : exchange.warnings key
      = if exchange.request.direction.advances exchange.request.cursor (page.lastKey key) then []
        else [.cursorStuck exchange.request.direction exchange.request.cursor
          (page.lastKey key)] := by
  simp only [warnings, answer, Page.answer, List.getLast?_eq_some_getLast page.nonempty]
  rfl

/-- A page is not signalled exactly when it leads on. -/
theorem Exchange.warnings_eq_nil_iff {key : ρ → Snowflake} {exchange : Exchange ρ}
    {page : Page ρ} (answer : exchange.answer = page.answer)
    : exchange.warnings key = []
      ↔ exchange.request.direction.advances exchange.request.cursor (page.lastKey key)
        = true := by
  rw [warnings_of_page answer]
  split
  · rename_i ahead
    exact iff_of_true rfl ahead
  · rename_i behind
    exact iff_of_false (List.cons_ne_nil _ _) behind

namespace Progress

/-- How far a walk has come after one more exchange. -/
def next (key : ρ → Snowflake) (progress : Progress) (exchange : Exchange ρ) : Progress :=
  match exchange.answer with
  | .error _ => progress.finish
  | .ok records =>
    match records.getLast? with
    | none => (progress.addPage 0).finish
    | some last => (progress.addPage records.length).moveTo (key last)

/-- What a walk that has come some way reports of one more exchange. -/
def report (key : ρ → Snowflake) (progress : Progress) (exchange : Exchange ρ)
    : List Log.Event :=
  let later := progress.next key exchange
  match exchange.answer with
  | .error error => [.pageFailed exchange.request error]
  | .ok records =>
    match records.getLast? with
    | none => [.exhausted later.pages later.records]
    | some last =>
      exchange.warnings key
        ++ [.pageFetched later.pages records.length exchange.request (key last)]

section

variable {key : ρ → Snowflake} {exchange : Exchange ρ} {page : Page ρ}

/-- A page takes a walk on to its last key. -/
theorem next_of_page (progress : Progress) (answer : exchange.answer = page.answer)
    : progress.next key exchange
      = (progress.addPage page.records.length).moveTo (page.lastKey key) := by
  simp only [next, answer, Page.answer, List.getLast?_eq_some_getLast page.nonempty, Page.lastKey]

/-- Of a page a walk reports the signal if there is one, and then that it was fetched. -/
theorem report_of_page (progress : Progress) (answer : exchange.answer = page.answer)
    : progress.report key exchange
      = exchange.warnings key
        ++ [.pageFetched (progress.addPage page.records.length).pages page.records.length
          exchange.request (page.lastKey key)] := by
  rw [report, next_of_page progress answer]
  simp only [answer, Page.answer, List.getLast?_eq_some_getLast page.nonempty, Page.lastKey]
  rfl

end

/-- What a walk reports of further exchanges, one list of events for each. -/
def reports (key : ρ → Snowflake) : Progress → List (Exchange ρ) → List (List Log.Event)
  | _, [] => []
  | progress, exchange :: rest =>
    progress.report key exchange :: reports key (progress.next key exchange) rest

theorem reports_append_singleton (key : ρ → Snowflake) (progress : Progress)
    (exchanges : List (Exchange ρ)) (exchange : Exchange ρ)
    : progress.reports key (exchanges ++ [exchange])
      = progress.reports key exchanges
        ++ [(exchanges.foldl (next key) progress).report key exchange] := by
  induction exchanges generalizing progress with
  | nil => rfl
  | cons first rest ih => simp only [List.cons_append, reports, ih, List.foldl_cons]

/-- There is one list of events for each exchange. -/
theorem length_reports (key : ρ → Snowflake) (progress : Progress)
    (exchanges : List (Exchange ρ))
    : (progress.reports key exchanges).length = exchanges.length := by
  induction exchanges generalizing progress with
  | nil => rfl
  | cons first rest ih => simp only [reports, List.length_cons, ih]

/-- Of an exchange the signal that it calls for is reported, and no other signal. -/
theorem filter_isStuck_report (key : ρ → Snowflake) (progress : Progress)
    (exchange : Exchange ρ)
    : (progress.report key exchange).filter Log.Event.isStuck = exchange.warnings key := by
  rcases Walk.answer_cases exchange.answer with ⟨error, failed⟩ | empty | ⟨page, given⟩
  · simp only [report, Exchange.warnings, failed]
    rfl
  · simp only [report, Exchange.warnings, empty]
    rfl
  · rw [report_of_page progress given, Exchange.warnings_of_page given]
    split <;> rfl

/-- The signals among the reports are those that the exchanges call for, each in its place. -/
theorem map_filter_isStuck_reports (key : ρ → Snowflake) (progress : Progress)
    (exchanges : List (Exchange ρ))
    : (progress.reports key exchanges).map (List.filter Log.Event.isStuck)
      = exchanges.map (Exchange.warnings key) := by
  induction exchanges generalizing progress with
  | nil => rfl
  | cons first rest ih =>
      simp only [reports, List.map_cons, filter_isStuck_report, ih]

end Progress

namespace Source

/-- What a source reports itself of some requests, one list of events for each. -/
def reports (source : Source σ ρ) : σ → List PageRequest → List (List Log.Event)
  | _, [] => []
  | state, request :: rest =>
    let reply := source state request
    reply.events :: source.reports reply.state rest

theorem length_reports (source : Source σ ρ) (state : σ) (requests : List PageRequest)
    : (source.reports state requests).length = requests.length := by
  induction requests generalizing state with
  | nil => rfl
  | cons request rest ih => simp only [reports, List.length_cons, ih]

/-- Of one more request a source reports what it does after those before. -/
theorem reports_append_singleton (source : Source σ ρ) (state : Recorded σ ρ)
    (requests : List PageRequest) (request : PageRequest)
    : source.reports state.state (requests ++ [request])
      = source.reports state.state requests
        ++ [(source (source.serve state requests).state request).events] := by
  induction requests generalizing state with
  | nil => rfl
  | cons first rest ih =>
      have later := ih (source.recorded state first).state
      simp only [List.cons_append, reports, List.cons.injEq, true_and]
      exact later

end Source

/--
The log of a walk from a source in some state through some exchanges: for each of them what the
source reports and then what the walk does.
-/
def logOf (source : Source σ ρ) (key : ρ → Snowflake) (origin : σ) (start : Snowflake)
    (exchanges : List (Exchange ρ))
    : List (List Log.Event) :=
  List.zipWith (· ++ ·) (source.reports origin (exchanges.map Exchange.request))
    ((Progress.startingAt start).reports key exchanges)

/-- One more exchange puts its reports behind the log. -/
theorem logOf_append_singleton (source : Source σ ρ) (key : ρ → Snowflake) (origin : σ)
    (start : Snowflake) (exchanges : List (Exchange ρ)) (exchange : Exchange ρ)
    : logOf source key origin start (exchanges ++ [exchange])
      = logOf source key origin start exchanges
        ++ [(source (source.serve (.fresh origin) (exchanges.map Exchange.request)).state
              exchange.request).events
            ++ (exchanges.foldl (Progress.next key) (.startingAt start)).report key exchange] := by
  have asked := source.reports_append_singleton (.fresh origin) (exchanges.map Exchange.request)
    exchange.request
  dsimp only [Recorded.fresh] at asked
  rw [logOf, List.map_append, List.map_singleton, asked, Progress.reports_append_singleton,
    List.zipWith_append
      (by rw [Source.length_reports, Progress.length_reports, List.length_map])]
  rfl

------------------------------------------------------------------------------------------
-- The log of a run
------------------------------------------------------------------------------------------

namespace Walk

variable {source : Source σ ρ} {paginator : Paginator} {key : ρ → Snowflake} {origin : σ}
variable {start : Snowflake} {walk : Walk ρ} {state : Recorded σ ρ} {events : List Log.Event}

/--
A poll that asks the source moves the walk on by this exchange and reports it, by the kinds of
answers.
-/
theorem poll_of_going (source : Source σ ρ) (key : ρ → Snowflake) (walk : Walk ρ)
    (state : Recorded σ ρ) (pending : walk.pending = []) (going : walk.progress.done = false)
    : let reply := source state.state walk.request
      let polled := walk.poll source.recorded key state
      polled.walk.progress = walk.progress.next key ⟨walk.request, reply.answer⟩
      ∧ polled.state = (source.recorded state walk.request).state
      ∧ polled.events
        = reply.events ++ walk.progress.report key ⟨walk.request, reply.answer⟩ := by
  dsimp only
  rcases answer_cases (source state.state walk.request).answer with
    ⟨error, failed⟩ | empty | ⟨page, given⟩
  · rw [poll_of_failure source.recorded pending going failed, failed]
    exact ⟨rfl, rfl, rfl⟩
  · rw [poll_of_empty source.recorded pending going empty, empty]
    exact ⟨rfl, rfl, rfl⟩
  · rw [poll_of_page source.recorded page pending going given,
      Progress.next_of_page walk.progress given, Progress.report_of_page walk.progress given,
      Exchange.warnings_of_page given]
    exact ⟨rfl, rfl, rfl⟩

/-- The exchanges of a walk account for how far it has come and for its log. -/
structure Logged (source : Source σ ρ) (key : ρ → Snowflake) (origin : σ) (start : Snowflake)
    (walk : Walk ρ) (state : Recorded σ ρ) (events : List Log.Event)
    : Prop where
  /-- The walk has come as far as the exchanges lead. -/
  progress : walk.progress = state.exchanges.foldl (Progress.next key) (.startingAt start)
  /-- The source got these requests. -/
  served : state = source.serve (.fresh origin) state.requests
  /-- The log is that of the exchanges. -/
  events : events = (logOf source key origin start state.exchanges).flatten

/-- One more exchange keeps the account if it is reported. -/
theorem Logged.exchange (logged : Logged source key origin start walk state events)
    {later : Walk ρ}
    (progress : later.progress
      = walk.progress.next key ⟨walk.request, (source state.state walk.request).answer⟩)
    : Logged source key origin start later (source.recorded state walk.request).state
        (events
          ++ ((source state.state walk.request).events
            ++ walk.progress.report key
              ⟨walk.request, (source state.state walk.request).answer⟩)) := by
  have requests : (source.recorded state walk.request).state.requests
      = state.requests ++ [walk.request] := by
    simp [Source.recorded, Recorded.requests]
  exact {
    progress := by
      rw [progress, logged.progress]
      simp only [Source.recorded, List.foldl_append, List.foldl_cons, List.foldl_nil]
    served := by
      rw [requests, Source.serve_append_singleton, ← logged.served]
    events := by
      have before := logOf_append_singleton source key origin start state.exchanges
        ⟨walk.request, (source state.state walk.request).answer⟩
      have served := logged.served
      unfold Recorded.requests at served
      rw [← served, ← logged.progress] at before
      rw [show (source.recorded state walk.request).state.exchanges
        = state.exchanges ++ [⟨walk.request, _⟩] from rfl, before, List.flatten_concat,
        ← logged.events]
  }

/-- A poll keeps the account: it makes no exchange and reports nothing, or it makes one. -/
theorem Logged.poll (logged : Logged source key origin start walk state events)
    : let polled := walk.poll source.recorded key state
      Logged source key origin start polled.walk polled.state (events ++ polled.events) := by
  dsimp only
  cases pending : walk.pending with
  | cons record rest =>
      rw [poll_of_pending source.recorded pending, List.append_nil]
      exact { logged with }
  | nil =>
      cases done : walk.progress.done with
      | true =>
          rw [poll_of_done source.recorded pending done, List.append_nil]
          exact logged
      | false =>
          obtain ⟨progress, served, reported⟩ := poll_of_going source key walk state pending done
          rw [served, reported]
          exact logged.exchange progress

/-- The exchanges of a run account for its log, by induction on the number of polls. -/
theorem run_logged (source : Source σ ρ) (key : ρ → Snowflake) (origin : σ)
    (opened : open? paginator = .ok walk) (polls : Nat)
    : let run := walk.run source.recorded key polls (.fresh origin)
      Logged source key origin paginator.start run.walk run.state run.events := by
  induction polls with
  | zero =>
      obtain ⟨_, rfl⟩ := open?_eq_ok_iff.mp opened
      exact ⟨rfl, rfl, rfl⟩
  | succ polls ih =>
      rw [run_succ]
      exact Logged.poll ih

end Walk

end Paging

end DiscordRest
