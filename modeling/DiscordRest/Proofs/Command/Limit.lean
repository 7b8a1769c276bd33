import DiscordRest.Proofs.Command.Listing
import DiscordRest.Proofs.Paging.Laziness

/-!
Listings with a limit. A limit on the number of records only cuts a listing short: the lines are
the first ones of what is written without it, and so are the requests. As many requests are sent as
the records need; a limit beyond the last record changes nothing.
-/

namespace DiscordRest

open Http Paging

/-- A command with another limit on its records; only listings have one. -/
def Command.limitedTo (limit : Option UInt64) : Command → Command
  | .me => .me
  | .guilds after options => .guilds after { options with maxRecords := limit }
  | .members guild after options => .members guild after { options with maxRecords := limit }
  | .messages channel before options =>
    .messages channel before { options with maxRecords := limit }

/-- A command line with another limit on the records. -/
def CommandLine.limitedTo (limit : Option UInt64) (commandLine : CommandLine) : CommandLine :=
  { commandLine with command := commandLine.command.limitedTo limit }

namespace Command

------------------------------------------------------------------------------------------
-- Lines
------------------------------------------------------------------------------------------

theorem Sink.write_cases (sink : Sink) (line : String)
    : sink.write line = .error full
      ∨ ∃ room, sink.write line = .ok ⟨room, sink.lines ++ [line]⟩ := by
  obtain ⟨room, lines⟩ := sink
  match room with
  | none => exact Or.inr ⟨none, rfl⟩
  | some 0 => exact Or.inl rfl
  | some (room + 1) => exact Or.inr ⟨some room, rfl⟩

section

variable {ρ : Type} (codec : Json.Codec ρ) (what : String)

/-- Of the first items the first lines are written, by induction on all items. -/
theorem lines_writeRecords_take (sink : Sink) (earlier : Nat) (items : List (Except Error ρ))
    : ∃ written,
        (writeRecords codec what sink earlier items).2.1.lines = sink.lines ++ written
        ∧ ∀ count,
            (writeRecords codec what sink earlier (items.take count)).2.1.lines
              = sink.lines ++ written.take count := by
  have nothing : ∀ lines : List String, lines = lines ++ [] := fun lines =>
    (List.append_nil lines).symm
  induction items generalizing sink earlier with
  | nil => exact ⟨[], nothing _, fun count => by simp [writeRecords]⟩
  | cons item rest ih =>
      cases item with
      | error error =>
          refine ⟨[], nothing _, ?_⟩
          intro count
          cases count <;> simp [writeRecords]
      | ok record =>
          rcases sink.write_cases (codec.text record) with refused | ⟨room, written⟩
          · refine ⟨[], by simp [writeRecords, refused], ?_⟩
            intro count
            cases count <;> simp [writeRecords, refused]
          · obtain ⟨later, all, first⟩ :=
              ih ⟨room, sink.lines ++ [codec.text record]⟩ (earlier + 1)
            refine ⟨codec.text record :: later, by simp [writeRecords, written, all], ?_⟩
            intro count
            cases count with
            | zero => simp [writeRecords]
            | succ count => simp [writeRecords, written, first]

/-- Records that there is room for are written, by induction on them. -/
theorem result_writeRecords_of_room (records : List ρ) {sink : Sink} (earlier : Nat)
    (room : ∀ room, sink.room = some room → records.length ≤ room)
    : (writeRecords codec what sink earlier (records.map .ok)).1 = .ok () := by
  induction records generalizing sink earlier with
  | nil => rfl
  | cons record rest ih =>
      obtain ⟨bound, lines⟩ := sink
      match bound with
      | none =>
          simp only [List.map_cons, writeRecords, Sink.write]
          exact ih (earlier + 1) nofun
      | some 0 => exact absurd (room 0 rfl) (Nat.not_succ_le_zero rest.length)
      | some (left + 1) =>
          simp only [List.map_cons, writeRecords, Sink.write]
          refine ih (earlier + 1) ?_
          intro other same
          obtain rfl := Option.some.inj same
          exact Nat.le_of_succ_le_succ (room (left + 1) rfl)

end

------------------------------------------------------------------------------------------
-- Requests
------------------------------------------------------------------------------------------

section

variable {ρ : Type} {source : Source Network ρ} {key : ρ → Snowflake} {network : Network}
variable {walk : Walk ρ} {paginator : Paginator}

/-- As long as all answers are pages, there was one request for each of them. -/
def Counted (network : Network) (recorded : Recorded Network ρ) : Prop :=
  recorded.state.StaysPut
  ∧ ((∀ answer ∈ recorded.answers, ∃ records, answer = .ok records)
    → recorded.state.received.length = network.received.length + recorded.exchanges.length)

/-- A further exchange adds one request if it brings a page. -/
theorem Counted.step (traffic : ∀ network page, Traffic network (source network page))
    {recorded : Recorded Network ρ} (counted : Counted network recorded) (request : PageRequest)
    : Counted network (source.recorded recorded request).state := by
  refine ⟨(traffic recorded.state request).onward.staysPut counted.1, ?_⟩
  intro pages
  rw [Source.answers_recorded] at pages
  have earlier := counted.2 fun answer member => pages answer (List.mem_append_left _ member)
  obtain ⟨records, answer⟩ := pages _ (List.mem_append_right _ List.mem_cons_self)
  obtain ⟨sent, received⟩ := (traffic recorded.state request).single records counted.1 answer
  show (source recorded.state request).state.received.length = _
  rw [received, List.length_append, earlier]
  simp [Source.recorded, Nat.add_assoc]

/-- A walk in the midst of pages sent one request for each page. -/
theorem length_received_of_midway
    (traffic : ∀ network page, Traffic network (source network page)) (stays : network.StaysPut)
    {count : Nat} {pages : List (Page ρ)} {given : List ρ}
    (midway : let taken := walk.take source.recorded key count (.fresh network)
      taken.walk.Midway source paginator key network pages given taken.state)
    : (walk.take source key count network).state.received.length
      = network.received.length
        + (walk.take source.recorded key count (.fresh network)).state.exchanges.length := by
  have start : Counted network (.fresh network : Recorded Network ρ) := ⟨stays, fun _ => rfl⟩
  have keeps : ∀ state request,
      Counted network state → Counted network (source.recorded state request).state :=
    fun _ request counted => counted.step traffic request
  have counted := Walk.take_keeps keeps key count walk start
  rw [show walk.take source key count network = _ from
    Walk.take_recorded source key count walk (.fresh network)]
  refine counted.2 ?_
  intro answer member
  rw [midway.served, midway.gives] at member
  obtain ⟨page, _, rfl⟩ := List.mem_map.mp member
  exact ⟨page.records, rfl⟩

end

------------------------------------------------------------------------------------------
-- Outcomes
------------------------------------------------------------------------------------------

/-- The outcome of a listing that took some items. -/
def outcomeOf {ρ : Type} (collection : Collection ρ) (sink : Sink)
    (taken : Walk.Taken Network ρ)
    : Outcome :=
  let written := writeRecords collection.codec collection.what sink 0 taken.items
  ⟨written.1, written.2.1, taken.state, taken.events ++ written.2.2⟩

section

variable {ρ : Type} {collection : Collection ρ} {paginator : Paginator} {walk : Walk ρ}
variable {surroundings : Surroundings} {items : List (Except Error ρ)}

theorem list_eq_outcomeOf (opened : Walk.open? paginator = .ok walk) (options : ListingOptions)
    : list collection paginator options surroundings
      = outcomeOf collection surroundings.sink
          (gather collection.source collection.key
            (polls? (options.maxRecords.map UInt64.toNat) surroundings.sink.room) walk
            surroundings.network) := by
  simp only [list, opened, outcomeOf]

/-- The outcome does not depend on whether the end was seen behind the last item. -/
theorem outcomeOf_congr {sink : Sink} {taken other : Walk.Taken Network ρ}
    (same : taken.items = other.items ∧ taken.state = other.state ∧ taken.events = other.events)
    : outcomeOf collection sink taken = outcomeOf collection sink other := by
  obtain ⟨items, state, events⟩ := same
  simp only [outcomeOf, items, state, events]

/--
Without a limit a listing takes some polls, past its stream if its output takes every line and
else one poll more than its output takes lines. With a limit it takes no more polls than that.
-/
theorem exists_polls (traffic : ∀ network page, Traffic network (collection.source network page))
    (opened : Walk.open? paginator = .ok walk)
    (streams : walk.Streams collection.source collection.key surroundings.network items)
    (options : ListingOptions) (count : UInt64)
    : ∃ polls,
        let taken := fun polls =>
          walk.take collection.source collection.key polls surroundings.network
        list collection paginator { options with maxRecords := none } surroundings
          = outcomeOf collection surroundings.sink (taken polls)
        ∧ list collection paginator { options with maxRecords := some count } surroundings
          = outcomeOf collection surroundings.sink (taken (min count.toNat polls))
        ∧ (surroundings.sink.room = none ∧ items.length < polls
          ∨ surroundings.sink.room = some (polls - 1) ∧ 0 < polls) := by
  simp only [list_eq_outcomeOf opened, Option.map_none, Option.map_some]
  cases bound : surroundings.sink.room with
  | some room => exact ⟨room + 1, rfl, rfl, Or.inr ⟨rfl, Nat.succ_pos room⟩⟩
  | none =>
      obtain ⟨whole, taken⟩ := gather_none traffic collection.key walk surroundings.network
      rw [whole.unique streams] at taken
      refine ⟨items.length + 1, congrArg _ taken, ?_, Or.inl ⟨rfl, Nat.lt_succ_self _⟩⟩
      rcases Nat.le_total count.toNat (items.length + 1) with few | many
      · rw [Nat.min_eq_left few]
        rfl
      · -- Behind the end nothing more is taken.
        rw [Nat.min_eq_right many]
        obtain ⟨records, ending, parts, _, past⟩ := streams.course opened
        have last : records.length < items.length + 1 := by
          rw [parts, List.length_append, List.length_map]
          omega
        obtain ⟨pending, done⟩ := past (items.length + 1) last
        exact outcomeOf_congr (Walk.take_eq_of_le many pending done)

end

/-- How a listing with a limit compares with the one without it, where a stream gives some records. -/
structure Shortens {ρ : Type} (collection : Collection ρ) (paginator : Paginator) (count : Nat)
    (surroundings : Surroundings) (records : List ρ) (limited whole : Outcome)
    : Prop where
  /-- The lines that are written are the first ones of those without a limit. -/
  lines
    : ∃ written,
        whole.sink.lines = surroundings.sink.lines ++ written
        ∧ limited.sink.lines = surroundings.sink.lines ++ written.take count
  /-- The requests are the first ones as well. -/
  requests : limited.network.received <+: whole.network.received
  /-- Enough records that there is room for come with the fewest requests whose pages hold them. -/
  enough
    : count ≤ records.length
      → (∀ room, surroundings.sink.room = some room → count ≤ room)
      → limited.result = .ok ()
        ∧ ∃ sent,
            IsLeast
              {sent
                | count
                  ≤ ((collection.source.pages paginator collection.key surroundings.network
                    sent).flatMap Page.records).length}
              sent
            ∧ limited.network.received.length = surroundings.network.received.length + sent
  /-- A limit that is not reached changes nothing. -/
  unreached
    : (records.length < count ∨ ∃ room, surroundings.sink.room = some room ∧ room < count)
      → limited = whole

/-- A listing over a network without redirects is cut short by a limit. -/
theorem exists_shortens {ρ : Type} {collection : Collection ρ} {paginator : Paginator}
    {walk : Walk ρ} {surroundings : Surroundings}
    (traffic : ∀ network page, Traffic network (collection.source network page))
    (stays : surroundings.network.StaysPut) (opened : Walk.open? paginator = .ok walk)
    (options : ListingOptions) (count : UInt64)
    : ∃ (records : List ρ) (ending : Ending),
        walk.Streams collection.source collection.key surroundings.network
          (records.map .ok ++ ending.failures)
        ∧ Shortens collection paginator count.toNat surroundings records
            (list collection paginator { options with maxRecords := some count } surroundings)
            (list collection paginator { options with maxRecords := none } surroundings) := by
  obtain ⟨streams, _⟩ := gather_none traffic collection.key walk surroundings.network
  obtain ⟨records, ending, items, midst, past⟩ := streams.course opened
  rw [items] at streams
  obtain ⟨polls, whole, limited, bounds⟩ := exists_polls traffic opened streams options count
  rw [whole, limited]
  refine ⟨records, ending, streams, ?_⟩
  exact {
    lines := by
      simp only [outcomeOf, streams.taken, ← List.take_take]
      obtain ⟨written, all, first⟩ := lines_writeRecords_take collection.codec collection.what
        surroundings.sink 0 ((records.map Except.ok ++ ending.failures).take polls)
      exact ⟨written, all, first count.toNat⟩
    requests := by
      refine Walk.take_state_of_le (fun a b : Network => a.received <+: b.received)
        (fun _ => List.prefix_rfl) List.IsPrefix.trans ?_ (Nat.min_le_right count.toNat polls)
      exact fun network page => (traffic network page).onward.received
    enough := by
      intro enough room
      have within : min count.toNat polls = count.toNat := by
        refine Nat.min_eq_left ?_
        rcases bounds with ⟨_, seen⟩ | ⟨bound, positive⟩
        · rw [List.length_append, List.length_map] at seen
          omega
        · have fits := room _ bound
          omega
      obtain ⟨pages, given, length, midway⟩ := midst count.toNat enough
      have least := midway.isLeast_length_exchanges
      rw [length] at least
      rw [within]
      refine ⟨?_, _, least, length_received_of_midway traffic stays midway⟩
      have first : (records.map Except.ok ++ ending.failures).take count.toNat
          = (records.take count.toNat).map Except.ok := by
        rw [List.take_append_of_le_length (by rwa [List.length_map]), List.map_take]
      simp only [outcomeOf, streams.taken, first]
      refine result_writeRecords_of_room _ _ _ _ ?_
      intro bound same
      rw [List.length_take]
      exact Nat.le_trans (Nat.min_le_left _ _) (room bound same)
    unreached := by
      intro short
      rcases Nat.lt_or_ge count.toNat polls with within | beyond
      · have fewer : records.length < count.toNat := by
          refine short.resolve_right ?_
          rintro ⟨room, bound, full⟩
          rcases bounds with ⟨endless, _⟩ | ⟨same, _⟩
          · rw [endless] at bound
            cases bound
          · rw [same] at bound
            have left := Option.some.inj bound
            omega
        obtain ⟨pending, done⟩ := past count.toNat fewer
        rw [Nat.min_eq_left (Nat.le_of_lt within)]
        exact (outcomeOf_congr (Walk.take_eq_of_le (Nat.le_of_lt within) pending done)).symm
      · rw [Nat.min_eq_right beyond]
  }

------------------------------------------------------------------------------------------
-- Command lines
------------------------------------------------------------------------------------------

theorem Lists.limitedTo {ρ : Type} {client : Client} {settings : Settings} {now : Instant}
    {command : Command} {collection : Collection ρ} {paginator : Paginator}
    {options : ListingOptions}
    (lists : Lists client settings now command collection paginator options)
    (limit : Option UInt64)
    : Lists client settings now (command.limitedTo limit) collection paginator
        { options with maxRecords := limit } := by
  cases lists with
  | guilds after options => exact .guilds after { options with maxRecords := limit }
  | members guild after options => exact .members guild after { options with maxRecords := limit }
  | messages channel before options =>
      exact .messages channel before { options with maxRecords := limit }

/--
A command line runs with a limit as it runs without one, but shorter: both fail before anything
happens, or both list the same collection, and the limit cuts the lines and requests short.
-/
theorem limited_run_is_shorter (commandLine : CommandLine) (listing : commandLine.command ≠ .me)
    {surroundings : Surroundings} (stays : surroundings.network.StaysPut) (count : UInt64)
    : let limited := run (commandLine.limitedTo (some count)) surroundings
      let whole := run (commandLine.limitedTo none) surroundings
      (∃ error,
        limited = .failure surroundings error
        ∧ whole = .failure surroundings error
        ∧ ∀ settings client,
            Command.settings commandLine surroundings = .ok settings
            → Client.ofSettings settings ≠ .ok client)
      ∨ ∃ settings client,
          Command.settings commandLine surroundings = .ok settings
          ∧ Client.ofSettings settings = .ok client
          ∧ ∃ (ρ : Type) (collection : Collection ρ) (paginator : Paginator)
              (options : ListingOptions),
              Lists client settings surroundings.now commandLine.command collection paginator
                options
              ∧ (paginator.pageSize ≠ 0
                → ∃ (walk : Walk ρ) (records : List ρ) (ending : Ending),
                    Walk.open? paginator = .ok walk
                    ∧ walk.Streams collection.source collection.key surroundings.network
                        (records.map .ok ++ ending.failures)
                    ∧ Shortens collection paginator count.toNat surroundings records limited
                        whole) := by
  intro limited whole
  rcases run_cases commandLine surroundings with
    ⟨error, failed, unmade⟩ | ⟨settings, client, settled, made, performed⟩
  · exact Or.inl ⟨error, failed _, failed _, unmade⟩
  · obtain ⟨ρ, collection, paginator, options, lists⟩ :=
      exists_lists client settings surroundings.now listing
    refine Or.inr ⟨settings, client, settled, made, ρ, collection, paginator, options, lists, ?_⟩
    intro positive
    obtain ⟨walk, opened⟩ : ∃ walk : Walk ρ, Walk.open? paginator = .ok walk :=
      ⟨_, Walk.open?_eq_ok_iff.mpr ⟨positive, rfl⟩⟩
    obtain ⟨records, ending, streams, shortens⟩ :=
      exists_shortens lists.traffic stays opened options count
    refine ⟨walk, records, ending, opened, streams, ?_⟩
    have limitedRun : limited = _ := performed (commandLine.command.limitedTo (some count))
    have wholeRun : whole = _ := performed (commandLine.command.limitedTo none)
    rw [limitedRun, wholeRun, (lists.limitedTo (some count)).perform_eq,
      (lists.limitedTo none).perform_eq]
    exact shortens

/-- All guilds of a service with two pages of them, and no more than two of these. -/
theorem limited_run_is_shorter_of_two
    : let page := fun text : String => some (⟨200, [], Text.utf8Bytes text.toList, true⟩ : Response)
      let surroundings := mockSurroundings
        [page "[\x7b\x22id\x22:1,\x22name\x22:\x22a\x22\x7d]", page "[]"]
      let commandLine : CommandLine := ⟨none, false, .guilds none ⟨some 1, none⟩⟩
      commandLine.command ≠ .me
      ∧ surroundings.network.StaysPut
      ∧ ∃ (walk : Walk UserGuild) (records : List UserGuild) (ending : Ending),
          Walk.open? ⟨.after, 1, .zero⟩ = .ok walk
          ∧ walk.Streams mockClient.guilds UserGuild.id surroundings.network
              (records.map .ok ++ ending.failures)
          ∧ Shortens ⟨"guilds", UserGuild.codec, UserGuild.id, mockClient.guilds⟩
              ⟨.after, 1, .zero⟩ 2 surroundings records
              (run (commandLine.limitedTo (some 2)) surroundings)
              (run (commandLine.limitedTo none) surroundings) := by
  intro page surroundings commandLine
  have stays : surroundings.network.StaysPut := by
    intro response member
    simp only [surroundings, mockSurroundings, page, List.mem_cons, List.not_mem_nil, or_false,
      Option.some.injEq] at member
    rcases member with rfl | rfl <;> rfl
  have listing : commandLine.command ≠ .me := by decide
  refine ⟨listing, stays, ?_⟩
  have settled : Command.settings commandLine surroundings = .ok mockSettings :=
    settings_mockSurroundings false _ _
  rcases limited_run_is_shorter commandLine listing stays 2 with
    ⟨_, _, _, unmade⟩ | ⟨settings, client, same, made, _, _, _, _, lists, shorter⟩
  · exact absurd ofSettings_mockSettings (unmade _ _ settled)
  · obtain rfl := Except.ok.inj (settled.symm.trans same)
    obtain rfl := Except.ok.inj (ofSettings_mockSettings.symm.trans made)
    cases lists
    exact shorter (by decide)

end Command

end DiscordRest
