import DiscordRest.Proofs.Paging.Course
import DiscordRest.Proofs.Paging.ServedPage

/-!
Walks through data that changes. Between two requests records may come and go anywhere; a walk
still gives no key twice, and it misses none that was there at every request.
-/

namespace DiscordRest.Paging

variable {ρ : Type} {key : ρ → Snowflake}

------------------------------------------------------------------------------------------
-- Changing data
------------------------------------------------------------------------------------------

/-- The records that a server has at some moment. -/
structure Catalog (key : ρ → Snowflake) where
  /-- The keys of the records. -/
  ids : List Snowflake
  /-- The keys ascend, so no two records have the same one. -/
  ascending : ids.Pairwise (· < ·)
  /-- The record of a key. -/
  record : Snowflake → ρ
  /-- A record has the key under which it is found. -/
  key_record : ∀ id ∈ ids, key (record id) = id

/-- The page of a catalog that a request asks for. -/
def Catalog.page (catalog : Catalog key) (request : PageRequest) : List ρ :=
  (servePage catalog.ids request).map catalog.record

/-- The keys on a page are those that its request asks for. -/
theorem Catalog.keys_page (catalog : Catalog key) (request : PageRequest)
    : (catalog.page request).map key = servePage catalog.ids request := by
  rw [page, List.map_map]
  refine (List.map_congr_left ?_).trans (List.map_id _)
  intro id member
  exact catalog.key_record id (mem_of_mem_servePage member).1

namespace Source

/-- A server that answers each request from the catalog that it has at this call. -/
def changing (catalogs : Nat → Catalog key) : Source Nat ρ := fun calls request =>
  ⟨calls + 1, .ok ((catalogs calls).page request), []⟩

/-- A changing server counts the requests that it served. -/
theorem state_serve_changing (catalogs : Nat → Catalog key) (state : Recorded Nat ρ)
    (requests : List PageRequest)
    : ((changing catalogs).serve state requests).state = state.state + requests.length := by
  induction requests generalizing state with
  | nil => rfl
  | cons request rest ih =>
      have next := ih ((changing catalogs).recorded state request).state
      rw [List.length_cons, Nat.add_comm rest.length 1, ← Nat.add_assoc]
      exact next

/-- Behind some pages a changing server answers from the catalog of the next call. -/
theorem answerAfter_changing (catalogs : Nat → Catalog key) (paginator : Paginator)
    (pages : List (Page ρ))
    : (changing catalogs).answerAfter paginator key 0 pages
      = .ok ((catalogs pages.length).page
          (paginator.request (paginator.cursorAfter key pages))) := by
  have calls := state_serve_changing catalogs (.fresh 0) (paginator.requests key pages).dropLast
  rw [List.length_dropLast, Paginator.length_requests] at calls
  simp only [Recorded.fresh, Nat.zero_add, Nat.add_sub_cancel] at calls
  simp only [answerAfter, changing, Recorded.fresh, calls]

end Source

------------------------------------------------------------------------------------------
-- Keys of pages
------------------------------------------------------------------------------------------

/-- The keys of the records on a page. -/
def Page.keys (key : ρ → Snowflake) (page : Page ρ) : List Snowflake :=
  page.records.map key

/-- The keys of the records on some pages. -/
def keysOf (key : ρ → Snowflake) (pages : List (Page ρ)) : List Snowflake :=
  (pages.flatMap Page.records).map key

/-- The keys of a further page come behind the others. -/
theorem keysOf_append_singleton (pages : List (Page ρ)) (page : Page ρ)
    : keysOf key (pages ++ [page]) = keysOf key pages ++ page.keys key := by
  simp [keysOf, Page.keys]

namespace Page

variable {page : Page ρ} {direction : Direction}

theorem lastKey_mem_keys (key : ρ → Snowflake) (page : Page ρ)
    : page.lastKey key ∈ page.keys key :=
  List.mem_map_of_mem (List.getLast_mem page.nonempty)

/-- No key of an ordered page lies behind its last one. -/
theorem not_advances_lastKey
    (ordered : (page.keys key).Pairwise fun a b => direction.advances a b = true) {id : Snowflake}
    (member : id ∈ page.keys key)
    : ¬direction.advances (page.lastKey key) id = true := by
  have split : page.keys key = page.records.dropLast.map key ++ [page.lastKey key] := by
    rw [keys, lastKey, ← List.map_singleton, ← List.map_append,
      List.dropLast_append_getLast page.nonempty]
  rw [split] at ordered member
  rcases List.mem_append.mp member with earlier | last
  · have forth := (List.pairwise_append.mp ordered).2.2 id earlier _ (List.mem_singleton_self _)
    exact Direction.not_advances_of_advances forth
  · rw [List.mem_singleton.mp last]
    exact Direction.not_advances_self direction _

end Page

------------------------------------------------------------------------------------------
-- What a walk has swept
------------------------------------------------------------------------------------------

/--
What holds of the pages that a walk got from a changing server: it has swept the stretch from its
start to its cursor, in order and without a gap.
-/
structure Swept (catalogs : Nat → Catalog key) (paginator : Paginator) (pages : List (Page ρ))
    : Prop where
  /-- The walk advances from each key to the next. -/
  ordered : (keysOf key pages).Pairwise fun a b => paginator.direction.advances a b = true
  /-- The keys lie behind the start. -/
  behindStart
    : ∀ id ∈ keysOf key pages, paginator.direction.advances paginator.start id = true
  /-- The cursor lies behind no key that was given. -/
  upToCursor
    : ∀ id ∈ keysOf key pages,
        ¬paginator.direction.advances (paginator.cursorAfter key pages) id = true
  /-- The cursor is still at the start, or it lies behind the start. -/
  cursor
    : paginator.cursorAfter key pages = paginator.start
      ∨ paginator.direction.advances paginator.start (paginator.cursorAfter key pages) = true
  /-- The keys of each page come from the catalog of its call. -/
  drawn : ∀ call page, pages[call]? = some page → ∀ id ∈ page.keys key, id ∈ (catalogs call).ids
  /-- What was there at every call, from the start up to the cursor, was given. -/
  gapless
    : ∀ id,
        paginator.direction.advances paginator.start id = true
        → ¬paginator.direction.advances (paginator.cursorAfter key pages) id = true
        → (∀ call < pages.length, id ∈ (catalogs call).ids)
        → id ∈ keysOf key pages

namespace Swept

variable {catalogs : Nat → Catalog key} {paginator : Paginator} {pages : List (Page ρ)}

/-- Before its first page a walk has swept nothing. -/
theorem nil (catalogs : Nat → Catalog key) (paginator : Paginator)
    : Swept catalogs paginator [] where
  ordered := List.Pairwise.nil
  behindStart := by simp [keysOf]
  upToCursor := by simp [keysOf]
  cursor := Or.inl rfl
  drawn := by simp
  gapless := by
    intro id behind notBehind
    exact absurd behind notBehind

/-- What lies behind the cursor lies behind the start. -/
theorem advances_start (swept : Swept catalogs paginator pages) {id : Snowflake}
    (behind : paginator.direction.advances (paginator.cursorAfter key pages) id = true)
    : paginator.direction.advances paginator.start id = true := by
  rcases swept.cursor with still | ahead
  · rwa [still] at behind
  · exact Direction.advances_trans ahead behind

/--
A further page from behind the cursor takes the walk up to its last key: it is in order and skips
nothing of its own catalog.
-/
theorem append_singleton (swept : Swept catalogs paginator pages) {page : Page ρ}
    (served : page.records
      = (catalogs pages.length).page (paginator.request (paginator.cursorAfter key pages)))
    : Swept catalogs paginator (pages ++ [page]) := by
  have ascending := (catalogs pages.length).ascending
  have keys : page.keys key
      = servePage (catalogs pages.length).ids
          (paginator.request (paginator.cursorAfter key pages)) := by
    rw [Page.keys, served, Catalog.keys_page]
  have ordered : (page.keys key).Pairwise
      fun a b => paginator.direction.advances a b = true := by
    rw [keys]
    exact pairwise_servePage ascending (paginator.request (paginator.cursorAfter key pages))
  have fresh : ∀ id ∈ page.keys key,
      id ∈ (catalogs pages.length).ids
      ∧ paginator.direction.advances (paginator.cursorAfter key pages) id = true := by
    intro id member
    rw [keys] at member
    exact mem_of_mem_servePage member
  have moved := (fresh _ (page.lastKey_mem_keys key)).2
  exact {
    ordered := by
      rw [keysOf_append_singleton]
      refine List.pairwise_append.mpr ⟨swept.ordered, ordered, ?_⟩
      intro earlier before later after
      exact Direction.advances_of_not_advances (swept.upToCursor earlier before)
        (fresh later after).2
    behindStart := by
      intro id member
      rw [keysOf_append_singleton] at member
      rcases List.mem_append.mp member with earlier | onPage
      · exact swept.behindStart id earlier
      · exact swept.advances_start (fresh id onPage).2
    upToCursor := by
      intro id member
      rw [keysOf_append_singleton] at member
      rw [Paginator.cursorAfter_append_singleton]
      rcases List.mem_append.mp member with earlier | onPage
      · exact Direction.not_advances_of_advances
          (Direction.advances_of_not_advances (swept.upToCursor id earlier) moved)
      · exact Page.not_advances_lastKey ordered onPage
    cursor := by
      rw [Paginator.cursorAfter_append_singleton]
      exact Or.inr (swept.advances_start moved)
    drawn := by
      intro call one found id member
      rcases Nat.lt_or_ge call pages.length with earlier | last
      · rw [List.getElem?_append_left earlier] at found
        exact swept.drawn call one found id member
      · rw [List.getElem?_append_right last, List.getElem?_singleton] at found
        split at found
        · rename_i same
          obtain rfl := Option.some.inj found
          rw [show call = pages.length by omega]
          exact (fresh id member).1
        · contradiction
    gapless := by
      intro id behind notBehind always
      rw [Paginator.cursorAfter_append_singleton] at notBehind
      rw [List.length_append, List.length_singleton] at always
      rw [keysOf_append_singleton, List.mem_append]
      -- The key lies up to the old cursor, or between the old and the new one.
      by_cases further
          : paginator.direction.advances (paginator.cursorAfter key pages) id = true
      · have last := page.lastKey_mem_keys key
        rw [keys] at last ⊢
        exact Or.inr (mem_servePage_of_not_advances ascending
          (always pages.length (Nat.lt_succ_self _)) further last notBehind)
      · exact Or.inl (swept.gapless id behind further
          fun call earlier => always call (Nat.lt_succ_of_lt earlier))
  }

/-- Pages that a changing server gives are swept, by induction from their end. -/
theorem of_gives (gives : (Source.changing catalogs).Gives paginator key 0 pages)
    : Swept catalogs paginator pages := by
  induction pages using List.reverseRecOn with
  | nil => exact nil catalogs paginator
  | append_singleton before page ih =>
      obtain ⟨earlier, last⟩ := ((Source.changing catalogs).gives_append_singleton_iff ..).mp gives
      rw [Source.answerAfter_changing] at last
      exact (ih earlier).append_singleton (Except.ok.inj last).symm

/-- An empty page behind the cursor: all that was there at every call was given. -/
theorem all_given (swept : Swept catalogs paginator pages) (positive : paginator.pageSize ≠ 0)
    (empty : (catalogs pages.length).page
        (paginator.request (paginator.cursorAfter key pages))
      = [])
    {id : Snowflake} (behind : paginator.direction.advances paginator.start id = true)
    (always : ∀ call < pages.length + 1, id ∈ (catalogs call).ids)
    : id ∈ keysOf key pages := by
  have nothing_left := not_advances_of_servePage_eq_nil positive (List.map_eq_nil_iff.mp empty)
    (always pages.length (Nat.lt_succ_self _))
  exact swept.gapless id behind nothing_left
    fun call earlier => always call (Nat.lt_succ_of_lt earlier)

end Swept

------------------------------------------------------------------------------------------
-- What a walk gives
------------------------------------------------------------------------------------------

namespace Walk

/-- The records of a run that gave only some records are these. -/
theorem filterMap_record?_map (given : List ρ)
    : (given.map Item.record).filterMap Item.record? = given := by
  rw [List.filterMap_map]
  exact List.filterMap_some

/-- The records of a run that came to its end are those of its pages. -/
theorem filterMap_record?_ended (given : List ρ) (ending : Ending) (later : Nat)
    : (given.map Item.record ++ ending.item :: List.replicate later .finished).filterMap
        Item.record?
      = given := by
  rw [List.filterMap_append, filterMap_record?_map]
  cases ending <;> simp [Ending.item, Item.record?]

/--
What holds of the items that a walk gave and of the answers that it got, when the answers come
from catalogs that change between the calls.
-/
structure Sweeps (catalogs : Nat → Catalog key) (paginator : Paginator) (items : List (Item ρ))
    (answers : List (Except Error (List ρ)))
    : Prop where
  /-- The walk advances from each key to the next. -/
  ordered
    : ((items.filterMap Item.record?).map key).Pairwise
        fun a b => paginator.direction.advances a b = true
  /-- No key is given twice. -/
  distinct : ((items.filterMap Item.record?).map key).Nodup
  /-- The keys lie behind the start. -/
  behindStart
    : ∀ record ∈ items.filterMap Item.record?,
        paginator.direction.advances paginator.start (key record) = true
  /-- The records come from pages, each of them from the catalog of its call. -/
  drawn
    : ∃ pages : List (List ρ),
        answers = pages.map Except.ok
        ∧ items.filterMap Item.record? <+: pages.flatten
        ∧ ∀ call page,
            pages[call]? = some page → ∀ record ∈ page, key record ∈ (catalogs call).ids
  /-- At the end the last page was empty, and what was there at every call was given. -/
  complete
    : Item.finished ∈ items
      → answers.getLast? = some (.ok [])
        ∧ ∀ id,
            paginator.direction.advances paginator.start id = true
            → (∀ call < answers.length, id ∈ (catalogs call).ids)
            → ∃ record ∈ items.filterMap Item.record?, key record = id

variable {catalogs : Nat → Catalog key} {paginator : Paginator} {pages : List (Page ρ)}
variable {items : List (Item ρ)}

/--
Swept pages and empty ones behind them account for items that are the first records of these
pages; what is left to see is that they are complete at the end.
-/
theorem sweeps_of_swept (swept : Swept catalogs paginator pages)
    (given : items.filterMap Item.record? <+: pages.flatMap Page.records)
    {more : List (List ρ)} (empty : ∀ page ∈ more, page = [])
    (complete
      : Item.finished ∈ items
        → more ≠ []
          ∧ ∀ id,
              paginator.direction.advances paginator.start id = true
              → (∀ call < pages.length + more.length, id ∈ (catalogs call).ids)
              → ∃ record ∈ items.filterMap Item.record?, key record = id)
    : Sweeps catalogs paginator items ((pages.map Page.records ++ more).map .ok) := by
  have ordered := swept.ordered.sublist (given.sublist.map key)
  exact {
    ordered
    distinct := by
      refine ordered.imp ?_
      rintro a b forth rfl
      exact Direction.not_advances_self _ a forth
    behindStart := by
      intro record member
      exact swept.behindStart _ (List.mem_map_of_mem (given.subset member))
    drawn := by
      refine ⟨pages.map Page.records ++ more, rfl, ?_, ?_⟩
      · rw [List.flatten_append, ← List.flatMap_def]
        exact given.trans (List.prefix_append _ _)
      · intro call page found record member
        rcases Nat.lt_or_ge call pages.length with earlier | later
        · rw [List.getElem?_append_left (by rwa [List.length_map]), List.getElem?_map] at found
          obtain ⟨one, same, rfl⟩ := Option.map_eq_some_iff.mp found
          exact swept.drawn call one same _ (List.mem_map_of_mem member)
        · rw [List.getElem?_append_right (by rwa [List.length_map])] at found
          rw [empty page (List.mem_of_getElem? found)] at member
          contradiction
    complete := by
      intro finished
      obtain ⟨some_more, all⟩ := complete finished
      rw [List.length_map, List.length_append, List.length_map]
      refine ⟨?_, all⟩
      rw [List.map_append, List.getLast?_append_of_ne_nil _ (by simpa using some_more),
        List.getLast?_map, List.getLast?_eq_some_getLast some_more,
        empty _ (List.getLast_mem some_more)]
      rfl
  }

/--
However the data of a server changes between the calls, a walk gives keys in its direction from
behind its start, none of them twice and each from the data of its call; and at its end it has
given every key behind its start that was there at all calls.
-/
theorem run_sweeps_changing_data (catalogs : Nat → Catalog key) (paginator : Paginator)
    {walk : Walk ρ} (opened : open? paginator = .ok walk) (polls : Nat)
    : let run := walk.run (Source.changing catalogs).recorded key polls (.fresh 0)
      Sweeps catalogs paginator run.items run.state.answers := by
  intro run
  rcases run_course (Source.changing catalogs) key 0 opened polls with
    ⟨pages, given, items, midway⟩ | ⟨pages, ending, later, items, past⟩
  · have answers : run.state.answers = (pages.map Page.records ++ []).map .ok := by
      rw [show run.state = _ from midway.served, midway.gives, List.append_nil, List.map_map]
      rfl
    rw [answers]
    refine sweeps_of_swept (Swept.of_gives midway.gives) ?_ (by simp) ?_
    · rw [items, filterMap_record?_map, ← midway.records]
      exact List.prefix_append given _
    · intro finished
      rw [items] at finished
      obtain ⟨_, _, same⟩ := List.mem_map.mp finished
      cases same
  · have swept := Swept.of_gives past.gives
    have last := past.ending
    rw [Source.answerAfter_changing] at last
    have records := filterMap_record?_ended (pages.flatMap Page.records) ending later
    cases ending with
    | failed error => cases last
    | exhausted =>
        have answers : run.state.answers = (pages.map Page.records ++ [[]]).map .ok := by
          rw [show run.state = _ from past.served, Source.answers_serve_requests, past.gives,
            past.ending, List.map_append, List.map_map]
          rfl
        rw [answers]
        refine sweeps_of_swept swept ?_ (by simp) ?_
        · rw [items, records]
        · intro _
          refine ⟨List.cons_ne_nil _ _, ?_⟩
          intro id behind always
          rw [items, records]
          exact List.mem_map.mp (swept.all_given (open?_eq_ok_iff.mp opened).1
            (Except.ok.inj last) behind always)

/-- While a walk goes on, keys come and go on both sides of its cursor; the key 6 stays. -/
theorem run_sweeps_changing_data_of_three_catalogs
    : let entries := fun (ids : List Snowflake) (ascending : ids.Pairwise (· < ·)) =>
        (⟨ids, ascending, .ofId, fun _ _ => rfl⟩ : Catalog Entry.key)
      let catalogs : Nat → Catalog Entry.key
        | 0 => entries [⟨2⟩, ⟨4⟩, ⟨6⟩] (by decide)
        | 1 => entries [⟨1⟩, ⟨3⟩, ⟨5⟩, ⟨6⟩, ⟨9⟩] (by decide)
        | _ => entries [⟨2⟩, ⟨6⟩] (by decide)
      let walk : Walk Entry := ⟨.after 2, .startingAt .zero, []⟩
      let run := walk.run (Source.changing catalogs).recorded Entry.key 5 (.fresh 0)
      open? (.after 2) = .ok walk
      ∧ Sweeps catalogs (.after 2) run.items run.state.answers
      ∧ (run.items.filterMap Item.record?).map Entry.key = [⟨2⟩, ⟨4⟩, ⟨5⟩, ⟨6⟩]
      ∧ run.state.exchanges.length = 3 := by
  intro entries catalogs walk run
  have opened : open? (.after 2) = .ok walk := rfl
  exact ⟨opened, run_sweeps_changing_data catalogs (.after 2) opened 5, by decide +kernel,
    by decide +kernel⟩

end Walk

end DiscordRest.Paging
