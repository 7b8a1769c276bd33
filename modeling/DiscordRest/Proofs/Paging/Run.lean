import DiscordRest.Paging.Paginator

/-!
Polls of a walk, one at a time and in runs that go on past its end. Each kind of poll has its
equation here, so that no later proof opens the poll itself.
-/

namespace DiscordRest.Paging

variable {σ ρ : Type}

------------------------------------------------------------------------------------------
-- Pages with records
------------------------------------------------------------------------------------------

/-- A page that holds at least one record. -/
structure Page (ρ : Type) where
  records : List ρ
  nonempty : records ≠ []

namespace Page

/-- The page of a first record and further ones. -/
def ofCons (first : ρ) (rest : List ρ) : Page ρ :=
  ⟨first :: rest, List.cons_ne_nil first rest⟩

/-- The first record of a page. -/
def first (page : Page ρ) : ρ :=
  page.records.head page.nonempty

/-- The key of the last record of a page. -/
def lastKey (key : ρ → Snowflake) (page : Page ρ) : Snowflake :=
  key (page.records.getLast page.nonempty)

/-- The answer that a page is. -/
def answer (page : Page ρ) : Except Error (List ρ) :=
  .ok page.records

theorem first_cons_tail (page : Page ρ) : page.first :: page.records.tail = page.records :=
  List.cons_head_tail page.nonempty

end Page

------------------------------------------------------------------------------------------
-- One poll
------------------------------------------------------------------------------------------

/-- Whether a poll gave a record. -/
def Item.isRecord : Item ρ → Bool
  | .record _ => true
  | _ => false

/-- The record that a poll gave, if it gave one. -/
def Item.record? : Item ρ → Option ρ
  | .record given => some given
  | _ => none

/-- The item of a record or a failure. -/
def Item.ofResult : Except Error ρ → Item ρ
  | .ok given => .record given
  | .error error => .failure error

namespace Walk

/-- A walk opens exactly where pages may hold a record; nothing is received or pending then. -/
theorem open?_eq_ok_iff {paginator : Paginator} {walk : Walk ρ}
    : open? paginator = .ok walk
      ↔ paginator.pageSize ≠ 0 ∧ walk = ⟨paginator, .startingAt paginator.start, []⟩ := by
  unfold open?
  split
  · rename_i empty
    simp [empty]
  · rename_i positive
    simp [positive, eq_comm]

variable (source : Source σ ρ) {key : ρ → Snowflake} {walk : Walk ρ} {state : σ}

theorem poll_of_pending {record : ρ} {rest : List ρ} (pending : walk.pending = record :: rest)
    : walk.poll source key state
      = ⟨.record record, { walk with pending := rest }, state, []⟩ := by
  simp only [poll, pending]

theorem poll_of_done (pending : walk.pending = []) (done : walk.progress.done = true)
    : walk.poll source key state = ⟨.finished, walk, state, []⟩ := by
  simp only [poll, pending, done, if_true]

theorem poll_of_failure {error : Error} (pending : walk.pending = [])
    (going : walk.progress.done = false)
    (answer : (source state walk.request).answer = .error error)
    : walk.poll source key state
      = ⟨.failure error, { walk with progress := walk.progress.finish },
          (source state walk.request).state,
          (source state walk.request).events ++ [.pageFailed walk.request error]⟩ := by
  simp [poll, pending, going, answer]

theorem poll_of_empty (pending : walk.pending = []) (going : walk.progress.done = false)
    (answer : (source state walk.request).answer = .ok [])
    : walk.poll source key state
      = ⟨.finished, { walk with progress := (walk.progress.addPage 0).finish },
          (source state walk.request).state,
          (source state walk.request).events
            ++ [.exhausted (walk.progress.addPage 0).finish.pages
              (walk.progress.addPage 0).finish.records]⟩ := by
  simp [poll, pending, going, answer]

/-- A page gives its first record, keeps the others, and moves the cursor to its last key. -/
theorem poll_of_page (page : Page ρ) (pending : walk.pending = [])
    (going : walk.progress.done = false)
    (answer : (source state walk.request).answer = page.answer)
    : walk.poll source key state
      = ⟨.record page.first,
          { walk with
            progress := (walk.progress.addPage page.records.length).moveTo (page.lastKey key)
            pending := page.records.tail },
          (source state walk.request).state,
          (source state walk.request).events
            ++ walk.pageEvents page.records.length (page.lastKey key)⟩ := by
  obtain ⟨records, nonempty⟩ := page
  cases records with
  | nil => exact absurd rfl nonempty
  | cons first rest =>
      simp only [Page.answer] at answer
      simp [poll, pending, going, answer, Page.first, Page.lastKey]

/-- An answer is a failure, an empty page, or a page with records. -/
theorem answer_cases (answer : Except Error (List ρ))
    : (∃ error, answer = .error error) ∨ answer = .ok [] ∨ ∃ page : Page ρ, answer = page.answer := by
  match answer with
  | .error error => exact Or.inl ⟨error, rfl⟩
  | .ok [] => exact Or.inr (Or.inl rfl)
  | .ok (first :: rest) => exact Or.inr (Or.inr ⟨.ofCons first rest, rfl⟩)

/-- A poll that gives no record leaves a walk at its end, by the kinds of polls. -/
theorem poll_done_of_not_isRecord
    (past : (walk.poll source key state).item.isRecord = false)
    : (walk.poll source key state).walk.pending = []
      ∧ (walk.poll source key state).walk.progress.done = true := by
  cases pending : walk.pending with
  | cons record rest =>
      simp [poll_of_pending source pending, Item.isRecord] at past
  | nil =>
      cases done : walk.progress.done with
      | true =>
          rw [poll_of_done source pending done]
          exact ⟨pending, done⟩
      | false =>
          rcases answer_cases (source state walk.request).answer with
            ⟨error, failed⟩ | empty | ⟨page, given⟩
          · rw [poll_of_failure source pending done failed]
            exact ⟨pending, rfl⟩
          · rw [poll_of_empty source pending done empty]
            exact ⟨pending, rfl⟩
          · simp [poll_of_page source page pending done given, Item.isRecord] at past

/-- A poll leaves the source alone or makes the next request of the walk, by the kinds of polls. -/
theorem state_poll (key : ρ → Snowflake) (walk : Walk ρ) (state : σ)
    : (walk.poll source key state).state = state
      ∨ (walk.poll source key state).state = (source state walk.request).state := by
  cases pending : walk.pending with
  | cons record rest => exact Or.inl (by rw [poll_of_pending source pending])
  | nil =>
      cases done : walk.progress.done with
      | true => exact Or.inl (by rw [poll_of_done source pending done])
      | false =>
          right
          rcases answer_cases (source state walk.request).answer with
            ⟨error, failed⟩ | empty | ⟨page, given⟩
          · rw [poll_of_failure source pending done failed]
          · rw [poll_of_empty source pending done empty]
          · rw [poll_of_page source page pending done given]

/-- What every request of a source keeps up, a poll keeps up. -/
theorem poll_keeps {kept : σ → Prop}
    (keeps : ∀ state request, kept state → kept (source state request).state)
    (key : ρ → Snowflake) (walk : Walk ρ) {state : σ} (start : kept state)
    : kept (walk.poll source key state).state := by
  rcases state_poll source key walk state with same | next
  · rw [same]
    exact start
  · rw [next]
    exact keeps state walk.request start

/-- A record that was not pending comes with a page, by the kinds of polls. -/
theorem exists_page_of_poll {record : ρ} (pending : walk.pending = [])
    (item : (walk.poll source key state).item = .record record)
    : ∃ page : Page ρ,
        (source state walk.request).answer = page.answer
        ∧ (walk.poll source key state).state = (source state walk.request).state := by
  cases done : walk.progress.done with
  | true => simp [poll_of_done source pending done] at item
  | false =>
      rcases answer_cases (source state walk.request).answer with
        ⟨error, failed⟩ | empty | ⟨page, given⟩
      · simp [poll_of_failure source pending done failed] at item
      · simp [poll_of_empty source pending done empty] at item
      · refine ⟨page, given, ?_⟩
        rw [poll_of_page source page pending done given]

------------------------------------------------------------------------------------------
-- Several polls
------------------------------------------------------------------------------------------

/-- A walk after some polls, those at its end included. -/
structure Run (σ ρ : Type) where
  items : List (Item ρ)
  walk : Walk ρ
  state : σ
  events : List Log.Event

/-- Polls a walk `count` times, whether or not it is at its end. -/
def run (source : Source σ ρ) (key : ρ → Snowflake) : Nat → Walk ρ → σ → Run σ ρ
  | 0, walk, state => ⟨[], walk, state, []⟩
  | count + 1, walk, state =>
    let polled := walk.poll source key state
    let rest := run source key count polled.walk polled.state
    { rest with items := polled.item :: rest.items, events := polled.events ++ rest.events }

theorem length_items_run (key : ρ → Snowflake) (count : Nat) (walk : Walk ρ) (state : σ)
    : (walk.run source key count state).items.length = count := by
  induction count generalizing walk state with
  | zero => rfl
  | succ count ih => simp only [run, List.length_cons, ih]

/-- What every request of a source keeps up, a run keeps up, by induction on its polls. -/
theorem run_keeps {kept : σ → Prop}
    (keeps : ∀ state request, kept state → kept (source state request).state)
    (key : ρ → Snowflake) (count : Nat) (walk : Walk ρ) {state : σ} (start : kept state)
    : kept (walk.run source key count state).state := by
  induction count generalizing walk state with
  | zero => exact start
  | succ count ih => exact ih _ (poll_keeps source keeps key walk start)

/-- A run goes on where a shorter one stopped. -/
theorem run_add (key : ρ → Snowflake) (count more : Nat) (walk : Walk ρ) (state : σ)
    : walk.run source key (count + more) state
      = let earlier := walk.run source key count state
        let later := earlier.walk.run source key more earlier.state
        ⟨earlier.items ++ later.items, later.walk, later.state,
          earlier.events ++ later.events⟩ := by
  induction count generalizing walk state with
  | zero => simp [run]
  | succ count ih =>
      rw [show count + 1 + more = count + more + 1 by omega]
      simp only [run, ih, List.cons_append, List.append_assoc]

/-- The last poll of a run, with what came before it. -/
theorem run_succ (key : ρ → Snowflake) (count : Nat) (walk : Walk ρ) (state : σ)
    : walk.run source key (count + 1) state
      = let earlier := walk.run source key count state
        let polled := earlier.walk.poll source key earlier.state
        ⟨earlier.items ++ [polled.item], polled.walk, polled.state,
          earlier.events ++ polled.events⟩ := by
  rw [run_add]
  simp [run]

/-- Past its end a walk gives the end at every poll and asks for nothing more. -/
theorem run_of_done (pending : walk.pending = []) (done : walk.progress.done = true)
    (count : Nat)
    : walk.run source key count state
      = ⟨List.replicate count .finished, walk, state, []⟩ := by
  induction count with
  | zero => rfl
  | succ count ih => simp [run, poll_of_done source pending done, ih, List.replicate_succ]

end Walk

end DiscordRest.Paging
