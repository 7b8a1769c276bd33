import DiscordRest.Proofs.Command.Listing

/-!
What a listing tells of its stream. To an output that takes every line it writes the records before
the first failure; its result is this failure if there is one, and its last event says so, with
the number of lines.
-/

namespace DiscordRest.Command

open Http Paging

------------------------------------------------------------------------------------------
-- Lines
------------------------------------------------------------------------------------------

namespace Sink

/-- A sink that has taken some more lines and has as much room as before. -/
def add (sink : Sink) (lines : List String) : Sink :=
  { sink with lines := sink.lines ++ lines }

theorem write_of_endless {sink : Sink} (endless : sink.room = none) (line : String)
    : sink.write line = .ok (sink.add [line]) := by
  simp only [write, endless, add]

theorem add_add (sink : Sink) (first rest : List String)
    : (sink.add first).add rest = sink.add (first ++ rest) := by
  simp only [add, List.append_assoc]

theorem text_add (sink : Sink) (lines : List String)
    : (sink.add lines).text = sink.text ++ String.join (lines.map fun line => line ++ "\n") := by
  rw [text, text, add, List.map_append, String.join_append]

end Sink

------------------------------------------------------------------------------------------
-- Endings
------------------------------------------------------------------------------------------

theorem line_listed (count : Nat) (what : String)
    : (Log.Event.listed count what).line = "INFO Listed " ++ Text.decimal count ++ " " ++ what := by
  show "INFO" ++ " " ++ ("Listed " ++ Text.decimal count ++ " " ++ what) = _
  simp only [← String.append_assoc]
  rfl

theorem line_listingFailed (what : String) (count : Nat) (error : Error)
    : (Log.Event.listingFailed what count error).line
      = "ERROR Listing " ++ what ++ " failed after " ++ Text.decimal count ++ " records: "
        ++ error.message := by
  show "ERROR" ++ " " ++ ("Listing " ++ what ++ " failed after " ++ Text.decimal count
    ++ " records: " ++ error.message) = _
  simp only [← String.append_assoc]
  rfl

/--
How a listing of some items ends, and the line in the log for it: all items are records, or some
records come before the first failure.
-/
inductive Ends {ρ : Type} (what : String) (items : List (Except Error ρ)) (records : List ρ)
    : Except Error Unit → String → Prop
  | whole (all : items = records.map .ok)
    : Ends what items records (.ok ())
        ("INFO Listed " ++ Text.decimal records.length ++ " " ++ what)
  | broken (error : Error) (rest : List (Except Error ρ))
    (first : items = records.map .ok ++ .error error :: rest)
    : Ends what items records (.error error)
        ("ERROR Listing " ++ what ++ " failed after " ++ Text.decimal records.length
          ++ " records: " ++ error.message)

/--
Records are written up to the first failure behind those that were written earlier, by induction
on the items.
-/
theorem exists_written {ρ : Type} {sink : Sink} (endless : sink.room = none)
    (codec : Json.Codec ρ) (what : String) (items : List (Except Error ρ)) (earlier : List ρ)
    : ∃ (records : List ρ) (result : Except Error Unit) (report : Log.Event),
        writeRecords codec what sink earlier.length items
          = (result, sink.add (records.map codec.text), [report])
        ∧ Ends what (earlier.map .ok ++ items) (earlier ++ records) result report.line := by
  induction items generalizing sink earlier with
  | nil =>
      refine ⟨[], .ok (), .listed earlier.length what, ?_, ?_⟩
      · simp [writeRecords, Sink.add]
      · rw [line_listed, List.append_nil, List.append_nil]
        exact .whole rfl
  | cons item rest ih =>
      cases item with
      | error error =>
          refine ⟨[], .error error, .listingFailed what earlier.length error, ?_, ?_⟩
          · simp [writeRecords, Sink.add]
          · rw [line_listingFailed, List.append_nil]
            exact .broken error rest rfl
      | ok record =>
          obtain ⟨records, result, report, written, ends⟩ :=
            @ih (sink.add [codec.text record]) endless (earlier ++ [record])
          refine ⟨record :: records, result, report, ?_, ?_⟩
          · rw [List.length_append, List.length_singleton] at written
            simp only [writeRecords, Sink.write_of_endless endless]
            rw [written, Sink.add_add]
            rfl
          · simpa using ends

------------------------------------------------------------------------------------------
-- Whole commands
------------------------------------------------------------------------------------------

/-- What a listing of some items tells, with the records among them that it wrote. -/
structure Tells {ρ : Type} (collection : Collection ρ) (items : List (Except Error ρ))
    (before : Sink) (outcome : Outcome) (records : List ρ)
    : Prop where
  /-- There is one line for each record: its compact text. -/
  lines : outcome.sink.lines = before.lines ++ records.map collection.codec.text
  /-- Behind each of them there is a line break. -/
  text
    : outcome.sink.text
      = before.text
        ++ String.join (records.map fun record => collection.codec.text record ++ "\n")
  /-- The last event is the report on the result; no other event is information or an error. -/
  report
    : ∃ earlier report,
        outcome.events = earlier ++ [report]
        ∧ (∀ event ∈ earlier, event.level = .detail ∨ event.level = .warning)
        ∧ Ends collection.what items records outcome.result report.line

/-- A listing that has an output for every line tells of the items that it gathers. -/
theorem list_tells {ρ : Type} {collection : Collection ρ}
    (traffic : ∀ network page, Traffic network (collection.source network page))
    {paginator : Paginator} {walk : Walk ρ} (opened : Walk.open? paginator = .ok walk)
    {surroundings : Surroundings} (endless : surroundings.sink.room = none)
    {items : List (Except Error ρ)}
    (streams : walk.Streams collection.source collection.key surroundings.network items)
    (options : ListingOptions)
    : ∃ records,
        Tells collection (upTo (options.maxRecords.map UInt64.toNat) items) surroundings.sink
          (list collection paginator options surroundings) records := by
  have unbounded : polls? (options.maxRecords.map UInt64.toNat) surroundings.sink.room
      = options.maxRecords.map UInt64.toNat := by
    rw [endless]
    cases options.maxRecords <;> rfl
  have gathered := items_gather traffic streams (options.maxRecords.map UInt64.toNat)
  obtain ⟨records, result, report, written, ends⟩ := exists_written endless collection.codec
    collection.what (upTo (options.maxRecords.map UInt64.toNat) items) []
  simp only [List.length_nil, List.map_nil, List.nil_append] at written ends
  simp only [list, opened, unbounded, gathered, written]
  exact ⟨records, {
    lines := rfl
    text := by
      rw [Sink.text_add, List.map_map]
      rfl
    report := ⟨_, report, rfl, fun event => level_of_mem_gather traffic _, ends⟩
  }⟩

/--
What becomes of a command line that shows the own user: there is one line with the user of the
answer, or an error and nothing written.
-/
inductive ShowsUser (commandLine : CommandLine) (surroundings : Surroundings) (outcome : Outcome)
    : Prop where
  | shown (settings : Settings) (client : Client) (user : User)
    (settled : Command.settings commandLine surroundings = .ok settings)
    (made : Client.ofSettings settings = .ok client)
    (answer : (client.perform .currentUser surroundings.network).answer = .ok user)
    (result : outcome.result = .ok ())
    (line : outcome.sink = surroundings.sink.add [User.codec.text user])
  | failed (error : Error)
    (unanswered : ∀ settings client (user : User),
      Command.settings commandLine surroundings = .ok settings
      → Client.ofSettings settings = .ok client
      → (client.perform .currentUser surroundings.network).answer ≠ .ok user)
    (result : outcome.result = .error error)
    (nothing : outcome.sink = surroundings.sink)

/-- A command line that shows the own user does so on success, and writes nothing else. -/
theorem showsUser_of_me {commandLine : CommandLine} (shows : commandLine.command = .me)
    {surroundings : Surroundings} (endless : surroundings.sink.room = none)
    : ShowsUser commandLine surroundings (run commandLine surroundings) := by
  rcases run_cases commandLine surroundings with
    ⟨error, failed, unmade⟩ | ⟨settings, client, settled, made, performed⟩
  · rw [show run commandLine surroundings = _ from failed commandLine.command]
    refine .failed error ?_ rfl rfl
    intro settings client user settled made
    exact absurd made (unmade settings client settled)
  · rw [show run commandLine surroundings = _ from performed commandLine.command, shows]
    change ShowsUser commandLine surroundings (showUser client surroundings)
    cases answer : (client.perform .currentUser surroundings.network).answer with
    | ok user =>
        refine .shown settings client user settled made answer ?_ ?_
        · simp only [showUser, answer, Sink.write_of_endless endless]
        · simp only [showUser, answer, Sink.write_of_endless endless]
    | error error =>
        refine .failed error ?_ ?_ ?_
        · intro _ _ user same other given
          rw [settled] at same
          obtain rfl := Except.ok.inj same
          rw [made] at other
          obtain rfl := Except.ok.inj other
          rw [answer] at given
          cases given
        · simp only [showUser, answer]
        · simp only [showUser, answer]

/--
A command line that lists something tells of the stream that the collection has over the network,
up to the limit of its options. The one that shows the own user writes a single line on success,
and nothing on any error.
-/
theorem run_tells_of_its_stream (commandLine : CommandLine) {surroundings : Surroundings}
    (endless : surroundings.sink.room = none)
    : (∀ settings client,
        Command.settings commandLine surroundings = .ok settings
        → Client.ofSettings settings = .ok client
        → commandLine.command ≠ .me
        → ∃ (ρ : Type) (collection : Collection ρ) (paginator : Paginator)
            (options : ListingOptions),
            Lists client settings surroundings.now commandLine.command collection paginator options
            ∧ (paginator.pageSize ≠ 0
              → ∃ walk items records,
                  Walk.open? paginator = .ok walk
                  ∧ walk.Streams collection.source collection.key surroundings.network items
                  ∧ Tells collection (upTo (options.maxRecords.map UInt64.toNat) items)
                      surroundings.sink (run commandLine surroundings) records))
      ∧ (commandLine.command = .me
        → ShowsUser commandLine surroundings (run commandLine surroundings)) := by
  refine ⟨?_, fun shows => showsUser_of_me shows endless⟩
  intro settings client settled made listing
  obtain ⟨ρ, collection, paginator, options, lists⟩ :=
    exists_lists client settings surroundings.now listing
  refine ⟨ρ, collection, paginator, options, lists, ?_⟩
  intro positive
  obtain ⟨walk, opened⟩ : ∃ walk : Walk ρ, Walk.open? paginator = .ok walk :=
    ⟨_, Walk.open?_eq_ok_iff.mpr ⟨positive, rfl⟩⟩
  obtain ⟨streams, _⟩ := gather_none lists.traffic collection.key walk surroundings.network
  obtain ⟨records, tells⟩ := list_tells lists.traffic opened endless streams options
  rw [run_of_ofSettings settled made, lists.perform_eq]
  exact ⟨walk, _, records, opened, streams, tells⟩

/-- The guilds of a service that fails at once, of which at most two are wanted. -/
theorem run_tells_of_its_stream_of_failure
    : let surroundings := mockSurroundings [some ⟨503, [], Text.utf8Bytes "later".toList, true⟩]
      let commandLine : CommandLine := ⟨none, false, .guilds none ⟨some 5, some 2⟩⟩
      surroundings.sink.room = none
      ∧ Command.settings commandLine surroundings = .ok mockSettings
      ∧ Client.ofSettings mockSettings = .ok mockClient
      ∧ ∃ walk items records,
          Walk.open? ⟨.after, 5, .zero⟩ = .ok walk
          ∧ walk.Streams mockClient.guilds UserGuild.id surroundings.network items
          ∧ Tells ⟨"guilds", UserGuild.codec, UserGuild.id, mockClient.guilds⟩ (items.take 2)
              surroundings.sink (run commandLine surroundings) records := by
  intro surroundings commandLine
  have settled : Command.settings commandLine surroundings = .ok mockSettings :=
    settings_mockSurroundings false _ _
  have endless : surroundings.sink.room = none := rfl
  have listing : commandLine.command ≠ .me := by decide
  obtain ⟨_, _, _, _, lists, tells⟩ :=
    (run_tells_of_its_stream commandLine endless).1 mockSettings mockClient settled
      ofSettings_mockSettings listing
  cases lists
  exact ⟨endless, settled, ofSettings_mockSettings, tells (by decide)⟩

end DiscordRest.Command
