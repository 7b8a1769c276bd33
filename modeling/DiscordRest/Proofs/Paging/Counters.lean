import DiscordRest.Paging.Memory
import DiscordRest.Proofs.Paging.Capacity

/-!
The counters of a walk. They hold how many pages and records were received, as far as their 32 and
64 bits reach, and so do the events that name them. Behind more of either they start again at zero,
or the program stops there if it checks its sums.
-/

namespace DiscordRest.Paging

variable {σ ρ : Type}

/-- Whether an answer ends a walk: it is a failure, or a page without records. -/
def isEnding : Except Error (List ρ) → Bool
  | .ok (_ :: _) => false
  | _ => true

------------------------------------------------------------------------------------------
-- What is counted of some answers
------------------------------------------------------------------------------------------

namespace Progress

/-- How far a walk from a start has come behind some answers; its counters have a width. -/
structure Counts (key : ρ → Snowflake) (start : Snowflake) (answers : List (Except Error (List ρ)))
    (progress : Progress)
    : Prop where
  /-- Every page counts, the empty one at the end included, and no failure does. -/
  pages : progress.pages.toNat = (received answers).length % UInt32.size
  /-- The records of all pages count. -/
  records : progress.records.toNat = recordCount (received answers) % UInt64.size
  /-- The cursor is the key of the last record so far, which the latest page that has any holds. -/
  cursor : progress.cursor = ((received answers).flatten.getLast?.map key).getD start

variable {key : ρ → Snowflake} {start : Snowflake} {answers : List (Except Error (List ρ))}
variable {progress : Progress}

theorem counts_startingAt (key : ρ → Snowflake) (start : Snowflake)
    : (startingAt start).Counts key start [] :=
  ⟨rfl, rfl, rfl⟩

/-- A page more is counted, with its records. -/
theorem Counts.addPage (counts : progress.Counts key start answers) (records : List ρ)
    : (progress.addPage records.length).pages.toNat
        = (received (answers ++ [.ok records])).length % UInt32.size
      ∧ (progress.addPage records.length).records.toNat
        = recordCount (received (answers ++ [.ok records])) % UInt64.size := by
  rw [received_page, recordCount_append_singleton, List.length_append, List.length_singleton,
    toNat_pages_addPage, toNat_records_addPage, counts.pages, counts.records]
  exact ⟨Nat.mod_add_mod _ _ _, Nat.mod_add_mod _ _ _⟩

/-- One exchange more is counted, by the kinds of answers. -/
theorem Counts.next (counts : progress.Counts key start answers) (exchange : Exchange ρ)
    : (progress.next key exchange).Counts key start (answers ++ [exchange.answer]) := by
  rcases Walk.answer_cases exchange.answer with ⟨error, failed⟩ | empty | ⟨page, given⟩
  · rw [failed]
    simp only [Progress.next, failed]
    exact {
      pages := by rw [received_failure, ← counts.pages]; rfl
      records := by rw [received_failure, ← counts.records]; rfl
      cursor := by rw [received_failure, ← counts.cursor]; rfl
    }
  · obtain ⟨pages, records⟩ := counts.addPage []
    rw [empty]
    simp only [Progress.next, empty, List.getLast?_nil]
    refine ⟨pages, records, ?_⟩
    rw [received_page, List.flatten_concat, List.append_nil, ← counts.cursor]
    rfl
  · obtain ⟨pages, records⟩ := counts.addPage page.records
    rw [Progress.next_of_page progress given, given]
    refine ⟨pages, records, ?_⟩
    rw [Page.answer, received_page, List.flatten_concat,
      List.getLast?_append_of_ne_nil _ page.nonempty,
      List.getLast?_eq_some_getLast page.nonempty]
    rfl

/-- Some exchanges from a start are counted, by induction from the last of them. -/
theorem counts_foldl (key : ρ → Snowflake) (start : Snowflake) (exchanges : List (Exchange ρ))
    : (exchanges.foldl (next key) (.startingAt start)).Counts key start
        (exchanges.map Exchange.answer) := by
  induction exchanges using List.reverseRecOn with
  | nil => exact counts_startingAt key start
  | append_singleton earlier exchange ih =>
      rw [List.foldl_append, List.map_append]
      exact ih.next exchange

/-- The number of pages is the true one where it fits into 32 bits. -/
theorem Counts.pages_eq_iff (counts : progress.Counts key start answers)
    : progress.pages.toNat = (received answers).length
      ↔ (received answers).length < UInt32.size := by
  rw [counts.pages, Nat.mod_eq_iff_lt (by decide)]

/-- The number of records is the true one where it fits into 64 bits. -/
theorem Counts.records_eq_iff (counts : progress.Counts key start answers)
    : progress.records.toNat = recordCount (received answers)
      ↔ recordCount (received answers) < UInt64.size := by
  rw [counts.records, Nat.mod_eq_iff_lt (by decide)]

end Progress

------------------------------------------------------------------------------------------
-- What is reported of the numbers
------------------------------------------------------------------------------------------

/--
What a walk reports of an answer behind some others. A page is reported with its place among all
pages and the number of its records, and the empty page at the end with the numbers of all pages and
records, each number as far as the width of its counter reaches.
-/
inductive Numbers (answers : List (Except Error (List ρ)))
    : Except Error (List ρ) → List Log.Event → Prop
  | failed (request : PageRequest) (error : Error)
    : Numbers answers (.error error) [.pageFailed request error]
  | exhausted (pages : UInt32) (records : UInt64)
    (allPages : pages.toNat = ((received answers).length + 1) % UInt32.size)
    (allRecords : records.toNat = recordCount (received answers) % UInt64.size)
    : Numbers answers (.ok []) [.exhausted pages records]
  | fetched (page : Page ρ) (number : UInt32) (request : PageRequest) (next : Snowflake)
    (signals : List Log.Event) (signalled : ∀ event ∈ signals, event.isStuck = true)
    (place : number.toNat = ((received answers).length + 1) % UInt32.size)
    : Numbers answers page.answer
        (signals ++ [.pageFetched number page.records.length request next])

namespace Progress

variable {key : ρ → Snowflake} {start : Snowflake} {answers : List (Except Error (List ρ))}
variable {progress : Progress}

theorem isStuck_of_mem_warnings {exchange : Exchange ρ} {event : Log.Event}
    (signal : event ∈ exchange.warnings key)
    : event.isStuck = true := by
  rw [← filter_isStuck_report key (.startingAt .zero) exchange] at signal
  exact (List.mem_filter.mp signal).2

/-- What is reported of one exchange more has the numbers with it counted in. -/
theorem Counts.numbers_report (counts : progress.Counts key start answers)
    (exchange : Exchange ρ)
    : Numbers answers exchange.answer (progress.report key exchange) := by
  have later := counts.next exchange
  rcases Walk.answer_cases exchange.answer with ⟨error, failed⟩ | empty | ⟨page, given⟩
  · rw [failed]
    simp only [report, failed]
    exact .failed _ error
  · obtain ⟨pages, records, _⟩ := later
    rw [empty, received_page] at pages records
    rw [List.length_append] at pages
    rw [recordCount_append_singleton] at records
    simp only [report, empty]
    exact .exhausted _ _ pages records
  · obtain ⟨pages, _, _⟩ := later
    rw [Progress.next_of_page progress given, given, Page.answer, received_page,
      List.length_append] at pages
    rw [report_of_page progress given, given]
    exact .fetched page _ _ _ _ (fun _ => isStuck_of_mem_warnings) pages

/-- An exchange is reported by a walk that has come as far as the exchanges before it lead. -/
theorem getElem?_reports (key : ρ → Snowflake) (progress : Progress)
    (exchanges : List (Exchange ρ)) (index : Nat)
    : (progress.reports key exchanges)[index]?
      = exchanges[index]?.map
        (((exchanges.take index).foldl (next key) progress).report key) := by
  induction exchanges generalizing progress index with
  | nil => rfl
  | cons first rest ih =>
      cases index with
      | zero => rfl
      | succ index => exact ih (progress.next key first) index

/-- The reports of some exchanges have the numbers with the exchanges before them counted in. -/
theorem numbers_reports (key : ρ → Snowflake) (start : Snowflake)
    {exchanges : List (Exchange ρ)} {index : Nat} {exchange : Exchange ρ}
    {events : List Log.Event} (found : exchanges[index]? = some exchange)
    (reported : ((startingAt start).reports key exchanges)[index]? = some events)
    : Numbers ((exchanges.take index).map Exchange.answer) exchange.answer events := by
  rw [getElem?_reports, found, Option.map_some] at reported
  obtain rfl := Option.some.inj reported
  exact (counts_foldl key start (exchanges.take index)).numbers_report exchange

end Progress

------------------------------------------------------------------------------------------
-- The counters of a run
------------------------------------------------------------------------------------------

namespace Walk

variable {source : Source σ ρ} {paginator : Paginator} {key : ρ → Snowflake} {origin : σ}
variable {walk : Walk ρ}

/-- A run has counted the answers of its source. -/
theorem counts_run (source : Source σ ρ) (key : ρ → Snowflake) (origin : σ)
    (opened : open? paginator = .ok walk) (polls : Nat)
    : let run := walk.run source.recorded key polls (.fresh origin)
      run.walk.progress.Counts key paginator.start run.state.answers := by
  intro run
  rw [show run.walk.progress = _ from (run_logged source key origin opened polls).progress]
  exact Progress.counts_foldl key paginator.start run.state.exchanges

/-- A run has nothing left to ask for exactly behind an answer that ends it. -/
theorem done_run_iff (source : Source σ ρ) (key : ρ → Snowflake) (origin : σ)
    (opened : open? paginator = .ok walk) (polls : Nat)
    : let run := walk.run source.recorded key polls (.fresh origin)
      run.walk.progress.done = true
        ↔ ∃ answer ∈ run.state.answers.getLast?, isEnding answer = true := by
  intro run
  rcases run_course source key origin opened polls with
    ⟨pages, given, _, midway⟩ | ⟨pages, ending, later, _, past⟩
  · rw [show run.walk.progress.done = false from midway.going]
    refine iff_of_false (by decide) ?_
    rintro ⟨answer, last, ends⟩
    rw [show run.state.answers = pages.map Page.answer by
      rw [show run.state = _ from midway.served, midway.gives]] at last
    obtain ⟨page, _, rfl⟩ := List.mem_map.mp (List.mem_of_getLast? last)
    obtain ⟨records, nonempty⟩ := page
    cases records with
    | nil => exact nonempty rfl
    | cons first rest => cases ends
  · rw [show run.walk.progress.done = true from past.done]
    refine iff_of_true rfl ⟨ending.answer, ?_, ?_⟩
    · rw [show run.state = _ from past.served, Source.answers_serve_requests,
        List.getLast?_concat, past.ending]
      rfl
    · cases ending <;> rfl

/--
Behind every run the counters of a walk hold how many pages and records it received, modulo their
widths: they are exact just as long as there are fewer than 2 to the 32 pages, and fewer than 2 to
the 64 records. Just as long a program that checks its sums makes the same run, and behind that it
stops. The cursor is the key of the last record of all, or the start, and nothing is left to ask for
just behind an answer that ends the walk. The reports on the exchanges, with which those of the
source alternate in the log, have the numbers that the counters had then.
-/
theorem counters_exact_iff (source : Source σ ρ) (paginator : Paginator) (key : ρ → Snowflake)
    (origin : σ) (opened : open? paginator = .ok walk) (polls : Nat)
    : let run := walk.run source.recorded key polls (.fresh origin)
      let progress := run.walk.progress
      let answers := run.state.answers
      let reports := (Progress.startingAt paginator.start).reports key run.state.exchanges
      progress.Counts key paginator.start answers
        ∧ (progress.pages.toNat = (received answers).length
          ↔ (received answers).length < UInt32.size)
        ∧ (progress.records.toNat = recordCount (received answers)
          ↔ recordCount (received answers) < UInt64.size)
        ∧ walk.run? source.recorded key polls (.fresh origin)
          = (if Fits answers then some run else none)
        ∧ (progress.done = true ↔ ∃ answer ∈ answers.getLast?, isEnding answer = true)
        ∧ run.events
          = (List.zipWith (· ++ ·) (source.reports origin run.state.requests) reports).flatten
        ∧ reports.length = answers.length
        ∧ ∀ (index : Nat) (answer : Except Error (List ρ)) (events : List Log.Event),
            answers[index]? = some answer
            → reports[index]? = some events
            → Numbers (answers.take index) answer events := by
  intro run progress answers reports
  have counts := counts_run source key origin opened polls
  refine ⟨counts, counts.pages_eq_iff, counts.records_eq_iff, ?_, ?_, ?_, ?_, ?_⟩
  · obtain ⟨_, rfl⟩ := open?_eq_ok_iff.mp opened
    exact run?_eq source key polls ⟨rfl, rfl⟩
  · exact done_run_iff source key origin opened polls
  · exact (run_logged source key origin opened polls).events
  · rw [show answers = run.state.exchanges.map Exchange.answer from rfl, List.length_map]
    exact Progress.length_reports key _ run.state.exchanges
  · intro index answer events answered reported
    rw [show answers = run.state.exchanges.map Exchange.answer from rfl, List.getElem?_map]
      at answered
    obtain ⟨exchange, found, rfl⟩ := Option.map_eq_some_iff.mp answered
    rw [show answers = run.state.exchanges.map Exchange.answer from rfl, ← List.map_take]
    exact Progress.numbers_reports key paginator.start found reported

/-- A page of two, a page of one that leads back, and the empty page; all are counted. -/
theorem counters_exact_iff_of_script
    : let script := Memory.ofStock (.script [.ok [.ofId ⟨4⟩, .ofId ⟨7⟩], .ok [⟨⟨9⟩, ⟨5⟩⟩]])
      let walk : Walk Entry := ⟨.after 2, .startingAt .zero, []⟩
      let run := walk.run Memory.fetch.recorded Entry.key 4 (.fresh script)
      open? (.after 2) = .ok walk
      ∧ received run.state.answers = [[.ofId ⟨4⟩, .ofId ⟨7⟩], [⟨⟨9⟩, ⟨5⟩⟩], []]
      ∧ run.walk.progress.pages.toNat = 3
      ∧ run.walk.progress.records.toNat = 3
      ∧ walk.run? Memory.fetch.recorded Entry.key 4 (.fresh script) = some run
      ∧ run.walk.progress.cursor = ⟨5⟩
      ∧ run.walk.progress.done = true := by
  intro script walk run
  have opened : open? (.after 2) = .ok walk := rfl
  have pages : received run.state.answers = [[.ofId ⟨4⟩, .ofId ⟨7⟩], [⟨⟨9⟩, ⟨5⟩⟩], []] := rfl
  obtain ⟨counts, allPages, allRecords, checked, ends, _⟩ :=
    counters_exact_iff Memory.fetch (.after 2) Entry.key script opened 4
  have cursor := counts.cursor
  have room : Fits run.state.answers := by
    rw [Fits, pages]
    decide
  rw [show Recorded.answers _ = run.state.answers from rfl, pages] at allPages allRecords cursor
  exact ⟨opened, pages, allPages.mpr (by decide), allRecords.mpr (by decide),
    checked.trans (if_pos room), cursor, ends.mpr ⟨.ok [], rfl, rfl⟩⟩

end Walk

------------------------------------------------------------------------------------------
-- Counters that start again
------------------------------------------------------------------------------------------

/-- A source that answers with the same page for ever. -/
def Source.endless (page : Page ρ) : Source Unit ρ := fun state _ =>
  ⟨state, page.answer, []⟩

theorem Source.answers_serve_endless (page : Page ρ) (state : Recorded Unit ρ)
    (requests : List PageRequest)
    : ((endless page).serve state requests).answers
      = state.answers ++ List.replicate requests.length page.answer := by
  induction requests generalizing state with
  | nil => simp [serve]
  | cons request rest ih =>
      have later := ih ((endless page).recorded state request).state
      rw [answers_recorded, List.append_assoc] at later
      exact later

/-- Pages that are given by a source with one page for ever are all this page. -/
theorem Source.eq_replicate_of_gives {page : Page ρ} {paginator : Paginator}
    {key : ρ → Snowflake} {pages : List (Page ρ)}
    (gives : (endless page).Gives paginator key () pages)
    : pages = List.replicate pages.length page := by
  rw [Gives, answers_serve_endless, List.length_dropLast, Paginator.length_requests,
    Nat.add_sub_cancel] at gives
  have same : pages.map Page.answer = List.replicate pages.length page.answer := gives.symm
  refine List.eq_replicate_iff.mpr ⟨rfl, ?_⟩
  intro other member
  have answer := (List.eq_replicate_iff.mp same).2 _ (List.mem_map_of_mem member)
  obtain ⟨records, _⟩ := other
  obtain ⟨_, _⟩ := page
  obtain rfl : records = _ := Except.ok.inj answer
  rfl

theorem recordCount_replicate (count : Nat) (records : List ρ)
    : recordCount (List.replicate count records) = count * records.length := by
  simp [recordCount]

theorem length_flatMap_replicate (page : Page ρ) (count : Nat)
    : ((List.replicate count page).flatMap Page.records).length
      = count * page.records.length := by
  simp [List.length_flatMap]

/--
Against a source with one page for ever a run receives this page again and again, as often as its
polls need the records.
-/
theorem Walk.exists_received_run_endless (page : Page ρ) {paginator : Paginator} {walk : Walk ρ}
    (opened : open? paginator = .ok walk) (key : ρ → Snowflake) {polls : Nat}
    (some_polls : 0 < polls)
    : let run := walk.run (Source.endless page).recorded key polls (.fresh ())
      ∃ count,
        received run.state.answers = List.replicate (count + 1) page.records
        ∧ polls ≤ (count + 1) * page.records.length
        ∧ count * page.records.length < polls := by
  intro run
  rcases run_course (Source.endless page) key () opened polls with
    ⟨pages, given, items, midway⟩ | ⟨pages, ending, later, _, past⟩
  · have length : given.length = polls := by
      rw [← List.length_map Item.record, ← items, length_items_run]
    have answers : run.state.answers = pages.map Page.answer := by
      rw [show run.state = _ from midway.served, midway.gives]
    have held := midway.length_given_le
    have needed := midway.needed
    rw [Source.eq_replicate_of_gives midway.gives] at answers held needed
    rw [length_flatMap_replicate, length] at held
    cases number : pages.length with
    | zero =>
        rw [number, Nat.zero_mul] at held
        omega
    | succ count =>
        rw [number] at answers held needed
        have fewer := needed (List.replicate count page) page List.replicate_succ'
        rw [length_flatMap_replicate, length] at fewer
        refine ⟨count, ?_, held, fewer⟩
        rw [answers, List.map_replicate, received, List.filterMap_replicate]
        rfl
  · exact absurd past.ending.symm (ending.answer_ne_page page)

/-- A page with one record and some more, which take no room. -/
def unitPage (more : Nat) : Page Unit :=
  .ofCons () (List.replicate more ())

theorem length_unitPage (more : Nat) : (unitPage more).records.length = more + 1 := by
  simp [unitPage, Page.ofCons]

/-- Against pages of one record a run receives as many of them as it has polls. -/
theorem Walk.le_length_received_run_unitPage {walk : Walk Unit}
    (opened : open? (.after 1) = .ok walk) {polls : Nat} (some_polls : 0 < polls)
    : let run := walk.run (Source.endless (unitPage 0)).recorded (fun _ => .zero) polls (.fresh ())
      polls ≤ (received run.state.answers).length := by
  intro run
  obtain ⟨count, pages, bound, _⟩ :=
    exists_received_run_endless (unitPage 0) opened (fun _ => .zero) some_polls
  rw [length_unitPage, Nat.mul_one] at bound
  rw [pages, List.length_replicate]
  exact bound

/-- With checked sums such a run stops at the latest where the number of its pages has no room. -/
theorem Walk.run?_unitPage_eq_none {walk : Walk Unit} (opened : open? (.after 1) = .ok walk)
    {polls : Nat} (many : UInt32.size ≤ polls)
    : walk.run? (Source.endless (unitPage 0)).recorded (fun _ => .zero) polls (.fresh ())
      = none := by
  have some_polls : 0 < polls := Nat.lt_of_lt_of_le (by decide) many
  have pages := le_length_received_run_unitPage opened some_polls
  obtain ⟨_, rfl⟩ := open?_eq_ok_iff.mp opened
  rw [run?_eq (.endless (unitPage 0)) (fun _ => .zero) polls ⟨rfl, rfl⟩]
  exact if_neg fun room => Nat.not_lt_of_le (many.trans pages) room.1

/--
Not every run has exact counters. One that gets a record on each of 2 to the 32 pages has lost the
number of its pages; one that gets two pages with 2 to the 64 records less one each, which take no
room, has lost that of its records. A program that checks its sums does not come that far.
-/
theorem Walk.not_forall_counters_exact
    : (¬∀ (source : Source Unit Unit) (walk : Walk Unit) (polls : Nat),
        open? (.after 1) = .ok walk
        → let run := walk.run source.recorded (fun _ => .zero) polls (.fresh ())
          run.walk.progress.pages.toNat = (received run.state.answers).length)
      ∧ (¬∀ (source : Source Unit Unit) (walk : Walk Unit) (polls : Nat),
        open? (.after 1) = .ok walk
        → let run := walk.run source.recorded (fun _ => .zero) polls (.fresh ())
          run.walk.progress.records.toNat = recordCount (received run.state.answers))
      ∧ ¬∀ (source : Source Unit Unit) (walk : Walk Unit) (polls : Nat),
        open? (.after 1) = .ok walk
        → ∃ run, walk.run? source.recorded (fun _ => .zero) polls (.fresh ()) = some run := by
  let walk : Walk Unit := ⟨.after 1, .startingAt .zero, []⟩
  have opened : open? (.after 1) = .ok walk := rfl
  refine ⟨?_, ?_, ?_⟩
  · intro always
    have many := le_length_received_run_unitPage opened (show 0 < UInt32.size by decide)
    have counts := counts_run (.endless (unitPage 0)) (fun _ => .zero) () opened UInt32.size
    exact Nat.not_lt_of_le many (counts.pages_eq_iff.mp (always _ _ _ opened))
  · intro always
    obtain ⟨count, pages, bound, _⟩ :=
      exists_received_run_endless (unitPage 18446744073709551614) opened (fun _ => .zero)
        (show 0 < UInt64.size by decide)
    have counts := counts_run (.endless (unitPage 18446744073709551614)) (fun _ => .zero) () opened
      UInt64.size
    have fits := counts.records_eq_iff.mp (always _ _ _ opened)
    rw [pages, recordCount_replicate] at fits
    exact Nat.not_lt_of_le bound fits
  · intro always
    obtain ⟨_, complete⟩ := always (.endless (unitPage 0)) walk UInt32.size opened
    exact absurd ((run?_unitPage_eq_none opened (Nat.le_refl _)).symm.trans complete) nofun

end DiscordRest.Paging
