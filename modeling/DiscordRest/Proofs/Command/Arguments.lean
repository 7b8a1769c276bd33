import DiscordRest.Proofs.Command.Scopes

/-!
Command lines written from mentions of flags. However the flags are spelled and in whatever order
they stand, a command line is understood as the values that they have; it is not understood where a
flag is there twice in one scope, where a text stands for no value, and where a flag is missing.
-/

namespace DiscordRest.Command

------------------------------------------------------------------------------------------
-- Command lines
------------------------------------------------------------------------------------------

/-- The word that stands for a command. -/
def word : Command → Word
  | .me => .me
  | .guilds _ _ => .guilds
  | .members _ _ _ => .members
  | .messages _ _ _ => .messages

/-- The flags of a command with their values. -/
def given : Command → Given
  | .me => .nothing
  | .guilds after options =>
    { Given.nothing with
      after := after, pageSize := options.pageSize, maxRecords := options.maxRecords }
  | .members guild after options =>
    { Given.nothing with
      guild := some guild, after := after, pageSize := options.pageSize
      maxRecords := options.maxRecords }
  | .messages channel before options =>
    { Given.nothing with
      channel := some channel, before := before, pageSize := options.pageSize
      maxRecords := options.maxRecords }

section

variable {program : String} {found : Given} {kind : Word} {command : Command} {rest : List String}

theorem readWord_eq_ok_iff
    : readWord program kind rest = .ok (found, command)
      ↔ (∃ next, (Scope.command kind).Reads program .start rest found next)
        ∧ ofGiven found kind = .ok command := by
  unfold readWord Scope.Reads
  cases read : readScope (.command kind) program .start rest with
  | error usage => simp [bind, Except.bind]
  | ok ending =>
      obtain ⟨last, next⟩ := ending
      cases settled : last.settle with
      | error usage => simp [bind, Except.bind, settled]
      | ok state =>
          obtain ⟨given, pending⟩ := state
          obtain rfl : pending = none := State.pending_of_settle settled
          by_cases same : given = found
          · subst same
            cases made : ofGiven given kind <;> simp [bind, Except.bind, settled, made]
          · cases made : ofGiven given kind <;> simp [bind, Except.bind, settled, made, same]

theorem ofGiven_members_iff
    : ofGiven found .members = .ok command
      ↔ ∃ guild, found.guild = some guild ∧ .members guild found.after found.listing = command := by
  cases held : found.guild <;> simp [ofGiven, held]

theorem ofGiven_messages_iff
    : ofGiven found .messages = .ok command
      ↔ ∃ channel, found.channel = some channel
        ∧ .messages channel found.before found.listing = command := by
  cases held : found.channel <;> simp [ofGiven, held]

/-- A command is made wherever the flag that it needs is there. -/
theorem exists_ofGiven_iff
    : (∃ command, ofGiven found kind = .ok command)
      ↔ ∀ flag, (Scope.command kind).required? = some flag → found.get flag ≠ none := by
  cases kind with
  | me | guilds => exact iff_of_true ⟨_, rfl⟩ nofun
  | members =>
      simp only [ofGiven_members_iff]
      constructor
      · rintro ⟨_, guild, held, rfl⟩ _ ⟨⟩
        exact ne_of_eq_of_ne held nofun
      · intro needed
        obtain ⟨guild, held⟩ := Option.ne_none_iff_exists'.mp (needed .guild rfl)
        exact ⟨_, guild, held, rfl⟩
  | messages =>
      simp only [ofGiven_messages_iff]
      constructor
      · rintro ⟨_, channel, held, rfl⟩ _ ⟨⟩
        exact ne_of_eq_of_ne held nofun
      · intro needed
        obtain ⟨channel, held⟩ := Option.ne_none_iff_exists'.mp (needed .channel rfl)
        exact ⟨_, channel, held, rfl⟩

/-- A command is made of its flags, where those of the whole program do not matter. -/
theorem ofGiven_given (command : Command) (config : Option String) (verbose : Bool)
    : ofGiven { command.given with config := config, verbose := verbose } command.word
      = .ok command := by
  cases command <;> rfl

/-- A command has the values of the flags that it is made of, if its scope knows them all. -/
theorem ofGiven_eq_ok_iff
    (known : ∀ flag x, found.get flag = some x → flag ∈ (Scope.command kind).flags)
    : ofGiven found kind = .ok command
      ↔ command.word = kind
        ∧ ∀ flag, flag ≠ .config → flag ≠ .verbose → command.given.get flag = found.get flag := by
  have absent (flag : Flag) (unknown : flag ∉ (Scope.command kind).flags)
      : none = found.get flag :=
    (Option.eq_none_iff_forall_ne_some.mpr fun x held => unknown (known flag x held)).symm
  constructor
  · intro made
    cases kind with
    | me | guilds =>
        obtain rfl := Except.ok.inj made
        refine ⟨rfl, fun flag notConfig notVerbose => ?_⟩
        have unknown := absent flag
        cases flag <;> first | rfl | contradiction | exact unknown (by decide)
    | members =>
        obtain ⟨guild, held, rfl⟩ := ofGiven_members_iff.mp made
        refine ⟨rfl, fun flag notConfig notVerbose => ?_⟩
        have unknown := absent flag
        cases flag <;> first | rfl | contradiction | exact held.symm | exact unknown (by decide)
    | messages =>
        obtain ⟨channel, held, rfl⟩ := ofGiven_messages_iff.mp made
        refine ⟨rfl, fun flag notConfig notVerbose => ?_⟩
        have unknown := absent flag
        cases flag <;> first | rfl | contradiction | exact held.symm | exact unknown (by decide)
  · rintro ⟨rfl, same⟩
    have whole : { command.given with config := found.config, verbose := found.verbose }
        = found := by
      refine Given.ext_get fun flag => ?_
      have kept := same flag
      cases flag <;> first | rfl | exact kept nofun nofun
    rw [← whole]
    exact ofGiven_given command found.config found.verbose

end

end DiscordRest.Command

namespace DiscordRest

open Command

namespace CommandLine

/-- The flags of a command line with their values. -/
def given (line : CommandLine) : Given :=
  { line.command.given with config := line.config, verbose := line.verbose }

/--
A command line is what is written: the mentions before and behind a word are sound, none of a flag
that was mentioned there already, and they say which values its flags have. What is mentioned on
both sides of the word counts as it stands behind it.
-/
structure IsWritten (line : CommandLine) (kind : Word) (before after : List Mention) : Prop where
  word : line.command.word = kind
  onceBefore : (before.map Mention.flag).Nodup
  onceAfter : (after.map Mention.flag).Nodup
  sound : ∀ mention ∈ before ++ after, mention.IsSound
  values
    : ∀ flag x, line.given.get flag = some x
      ↔ Says after flag x ∨ flag ∉ after.map Mention.flag ∧ Says before flag x

end CommandLine

namespace Command

variable {program : String} {kind : Word} {before after : List Mention} {line : CommandLine}

/-- A command line is understood by its two scopes, around the word of a command. -/
theorem ofArguments_eq_ok_iff {rest : List String}
    : let name := (fileName? program).getD Program.name
      ofArguments (program :: rest) = .ok line
      ↔ ∃ first text more, Scope.program.Reads name .start rest first (some (text, more))
        ∧ ∃ kind, Word.ofText? text = some kind
        ∧ ∃ second command, readWord name kind more = .ok (second, command)
        ∧ ⟨second.config.or first.config, second.verbose || first.verbose, command⟩ = line := by
  intro name
  unfold ofArguments Scope.Reads
  have named : ((program :: rest).head?.bind fileName?).getD Program.name = name := rfl
  simp only [named, List.tail_cons]
  cases read : readScope .program name .start rest with
  | error usage => simp [bind, Except.bind]
  | ok ending =>
      obtain ⟨last, found⟩ := ending
      cases found with
      | none =>
          cases settled : last.settle with
          | error usage => simp [bind, Except.bind, settled]
          | ok state =>
              by_cases none : state.given = .nothing <;> simp [bind, Except.bind, settled, none]
      | some found =>
          obtain ⟨text, more⟩ := found
          cases stands : Word.ofText? text with
          | none => simp [bind, Except.bind, stands]
          | some kind =>
              cases made : readWord name kind more with
              | error usage => simp [bind, Except.bind, stands, made]
              | ok result =>
                  obtain ⟨second, command⟩ := result
                  cases settled : last.settle with
                  | error usage => simp [bind, Except.bind, stands, made, settled]
                  | ok state =>
                      obtain ⟨given, pending⟩ := state
                      obtain rfl : pending = none := State.pending_of_settle settled
                      simp [bind, Except.bind, stands, made, settled]

/-- The arguments of a command, in which its word stands between mentions of flags. -/
def written (program : String) (kind : Word) (before after : List Mention) : List String :=
  program
    :: (before.flatMap Mention.arguments ++ kind.text :: after.flatMap Mention.arguments)

/-- What two scopes hold together is what their mentions say. -/
theorem get_or_get_eq_some_iff {first second : Given} (adds : Given.nothing.Adds before first)
    (added : Given.nothing.Adds after second) {flag : Flag} {x : flag.Carrier}
    : (second.get flag).or (first.get flag) = some x
      ↔ Says after flag x ∨ flag ∉ after.map Mention.flag ∧ Says before flag x := by
  rw [Option.or_eq_some_iff, Given.get_eq_some_iff adds, Given.get_eq_some_iff added,
    Given.get_eq_none_iff added]

section

variable (fitsBefore : ∀ mention ∈ before, mention.Fits .program)
variable (fitsAfter : ∀ mention ∈ after, mention.Fits (.command kind))
include fitsBefore fitsAfter

/-- Both scopes are read by adding their mentions to nothing. -/
theorem ofArguments_written_iff
    : ofArguments (written program kind before after) = .ok line
      ↔ (∀ mention ∈ before ++ after, mention.IsPlain)
        ∧ ∃ first second, Given.nothing.Adds before first ∧ Given.nothing.Adds after second
        ∧ ofGiven second kind = .ok line.command
        ∧ ⟨second.config.or first.config, second.verbose || first.verbose, line.command⟩ = line := by
  have stands : Word.ofText? kind.text = some kind := by
    cases kind <;> rfl
  have known : Scope.program.knows kind.text = true := by
    cases kind <;> rfl
  have outer (name : String) (first : Given) (text : String) (more : List String)
      : Scope.program.Reads name .start
          (before.flatMap Mention.arguments ++ kind.text :: after.flatMap Mention.arguments) first
          (some (text, more))
        ↔ (∀ mention ∈ before, mention.IsPlain) ∧ Given.nothing.Adds before first
          ∧ kind.text = text ∧ after.flatMap Mention.arguments = more := by
    rw [State.start, Scope.reads_mentions_iff fitsBefore]
    simp [Scope.reads_known_iff State.awaitsValue_checked known, eq_comm]
  have inner (name : String) (second : Given) (command : Command)
      : readWord name kind (after.flatMap Mention.arguments) = .ok (second, command)
        ↔ (∀ mention ∈ after, mention.IsPlain) ∧ Given.nothing.Adds after second
          ∧ ofGiven second kind = .ok command := by
    rw [readWord_eq_ok_iff, State.start, ← List.append_nil (after.flatMap Mention.arguments)]
    simp only [Scope.reads_mentions_iff fitsAfter, Scope.reads_nil_iff]
    simp [and_assoc]
  refine ofArguments_eq_ok_iff.trans ?_
  simp only [outer]
  constructor
  · rintro ⟨first, _, _, ⟨plain, adds, rfl, rfl⟩, _, same, second, command, read, rfl⟩
    obtain rfl := Option.some.inj (stands.symm.trans same)
    obtain ⟨others, added, made⟩ := (inner _ second command).mp read
    exact ⟨List.forall_mem_append.mpr ⟨plain, others⟩, first, second, adds, added, made, rfl⟩
  · rintro ⟨plain, first, second, adds, added, made, same⟩
    obtain ⟨plain, others⟩ := List.forall_mem_append.mp plain
    exact ⟨first, _, _, ⟨plain, adds, rfl, rfl⟩, kind, stands, second, line.command,
      (inner _ second line.command).mpr ⟨others, added, made⟩, same⟩

/-- A line has the values of both scopes, where the second one counts first. -/
theorem get_given_iff {first second : Given} (adds : Given.nothing.Adds before first)
    (added : Given.nothing.Adds after second)
    : ofGiven second kind = .ok line.command
        ∧ ⟨second.config.or first.config, second.verbose || first.verbose, line.command⟩ = line
      ↔ line.command.word = kind
        ∧ ∀ flag, line.given.get flag = (second.get flag).or (first.get flag) := by
  have known (flag : Flag) (x : flag.Carrier) (held : second.get flag = some x)
      : flag ∈ (Scope.command kind).flags := by
    obtain ⟨mention, inside, rfl, -⟩ := (Given.get_eq_some_iff added).mp held
    exact (fitsAfter mention inside).known
  have outer (flag : Flag) (unknown : flag ∉ Scope.program.flags) : first.get flag = none := by
    refine (Given.get_eq_none_iff adds).mpr fun mentioned => ?_
    obtain ⟨mention, inside, rfl⟩ := List.mem_map.mp mentioned
    exact unknown (fitsBefore mention inside).known
  let alone (verbose : Bool) : Option Unit := if verbose then some () else none
  have both (a b : Bool) : alone (a || b) = (alone a).or (alone b) := by
    cases a <;> cases b <;> rfl
  rw [ofGiven_eq_ok_iff known, and_assoc]
  refine and_congr_right fun _ => ?_
  constructor
  · rintro ⟨same, made⟩ flag
    have config : second.config.or first.config = line.config := congrArg CommandLine.config made
    have verbose : (second.verbose || first.verbose) = line.verbose :=
      congrArg CommandLine.verbose made
    have kept := same flag
    have free := outer flag
    cases flag with
    | config => exact config.symm
    | verbose => exact (congrArg alone verbose.symm).trans (both second.verbose first.verbose)
    | help | version => rfl
    | _ => exact (kept nofun nofun).trans (by rw [free (by decide), Option.or_none])
  · intro same
    constructor
    · intro flag notConfig notVerbose
      have kept := same flag
      have free := outer flag
      cases flag with
      | config | verbose => contradiction
      | help | version => rfl
      | _ => exact kept.trans (by rw [free (by decide), Option.or_none])
    · have shown (given : Given) : given.verbose = (given.get .verbose).isSome :=
        given.has_eq_isSome .verbose
      have config : line.config = second.config.or first.config := same .config
      have verbose : line.verbose = (second.verbose || first.verbose) := by
        rw [shown first, shown second, ← Option.isSome_or, ← same .verbose]
        exact shown line.given
      rw [← config, ← verbose]

theorem ofArguments_written_iff_isWritten
    : ofArguments (written program kind before after) = .ok line
      ↔ line.IsWritten kind before after := by
  have values {first second : Given} (adds : Given.nothing.Adds before first)
      (added : Given.nothing.Adds after second)
      : (∀ flag, line.given.get flag = (second.get flag).or (first.get flag))
        ↔ ∀ flag x, line.given.get flag = some x
          ↔ Says after flag x ∨ flag ∉ after.map Mention.flag ∧ Says before flag x := by
    refine forall_congr' fun flag => Option.ext_iff.trans (forall_congr' fun x => ?_)
    rw [get_or_get_eq_some_iff adds added]
  rw [ofArguments_written_iff fitsBefore fitsAfter]
  constructor
  · rintro ⟨plain, first, second, adds, added, made⟩
    obtain ⟨word, same⟩ := (get_given_iff fitsBefore fitsAfter adds added).mp made
    obtain ⟨onceBefore, meansBefore, -⟩ := Given.adds_iff.mp adds
    obtain ⟨onceAfter, meansAfter, -⟩ := Given.adds_iff.mp added
    refine ⟨word, onceBefore, onceAfter, fun mention inside => ⟨plain mention inside, ?_⟩, ?_⟩
    · rcases List.mem_append.mp inside with inside | inside
      · exact (meansBefore mention inside).2
      · exact (meansAfter mention inside).2
    · exact (values adds added).mp same
  · rintro ⟨word, onceBefore, onceAfter, sound, said⟩
    have means := List.forall_mem_append.mp fun mention inside => (sound mention inside).means
    obtain ⟨first, adds⟩ := Given.exists_adds onceBefore means.1
    obtain ⟨second, added⟩ := Given.exists_adds onceAfter means.2
    have made := (get_given_iff fitsBefore fitsAfter adds added).mpr
      ⟨word, (values adds added).mpr said⟩
    exact ⟨fun mention inside => (sound mention inside).plain, first, second, adds, added, made⟩

/-- There is a line for sound mentions, none of a flag twice in its scope, and none missing. -/
theorem exists_ofArguments_written_iff
    : (∃ line, ofArguments (written program kind before after) = .ok line)
      ↔ (before.map Mention.flag).Nodup ∧ (after.map Mention.flag).Nodup
        ∧ (∀ mention ∈ before ++ after, mention.IsSound)
        ∧ ∀ flag, (Scope.command kind).required? = some flag → flag ∈ after.map Mention.flag := by
  constructor
  · rintro ⟨line, understood⟩
    have whole := (ofArguments_written_iff_isWritten fitsBefore fitsAfter).mp understood
    obtain ⟨-, first, second, adds, added, made, -⟩ :=
      (ofArguments_written_iff fitsBefore fitsAfter).mp understood
    refine ⟨whole.onceBefore, whole.onceAfter, whole.sound, fun flag needed => ?_⟩
    have held := exists_ofGiven_iff.mp ⟨_, made⟩ flag needed
    exact not_not.mp ((Given.get_eq_none_iff added).not.mp held)
  · rintro ⟨onceBefore, onceAfter, sound, needed⟩
    have means := List.forall_mem_append.mp fun mention inside => (sound mention inside).means
    obtain ⟨first, adds⟩ := Given.exists_adds onceBefore means.1
    obtain ⟨second, added⟩ := Given.exists_adds onceAfter means.2
    obtain ⟨command, made⟩ := exists_ofGiven_iff.mpr fun flag need =>
      (Given.get_eq_none_iff added).not.mpr (not_not.mpr (needed flag need))
    refine ⟨⟨second.config.or first.config, second.verbose || first.verbose, command⟩, ?_⟩
    refine (ofArguments_written_iff fitsBefore fitsAfter).mpr ?_
    exact ⟨fun mention inside => (sound mention inside).plain, first, second, adds, added, made,
      rfl⟩

end

------------------------------------------------------------------------------------------
-- A line in writing
------------------------------------------------------------------------------------------

/-- A flag with its value, as one argument. -/
def Mention.ofValue (flag : Flag) (x : flag.Carrier) : Mention :=
  if flag.takesValue then .joined flag (flag.text x) else .verbose false

theorem Mention.flag_ofValue (flag : Flag) (x : flag.Carrier) : (ofValue flag x).flag = flag := by
  cases flag with
  | help | version => nomatch x
  | _ => rfl

/-- The flags of a line with their values, all of them behind the word of its command. -/
def mentions (line : CommandLine) : List Mention :=
  (Scope.command line.command.word).flags.filterMap fun flag =>
    (line.given.get flag).map (Mention.ofValue flag)

theorem mem_mentions_iff {mention : Mention}
    : mention ∈ mentions line
      ↔ ∃ flag x, flag ∈ (Scope.command line.command.word).flags ∧ line.given.get flag = some x
        ∧ Mention.ofValue flag x = mention := by
  simp [mentions, Option.map_eq_some_iff]

theorem mem_flags_of_get_given {flag : Flag} {x : flag.Carrier}
    (held : line.given.get flag = some x)
    : flag ∈ (Scope.command line.command.word).flags := by
  obtain ⟨config, verbose, command⟩ := line
  cases command <;> cases flag <;> first | (simp [word, Scope.flags]; done) | cases held

theorem fits_of_mem_mentions {mention : Mention} (inside : mention ∈ mentions line)
    : mention.Fits (.command line.command.word) := by
  obtain ⟨flag, x, known, -, rfl⟩ := mem_mentions_iff.mp inside
  refine ⟨(Mention.flag_ofValue flag x).symm ▸ known, ?_⟩
  cases flag with
  | help | version => nomatch x
  | _ => rfl

/-- Each line is written by its flags, if its file has a name. -/
theorem isWritten_mentions (named : ∀ path ∈ line.config, path ≠ "")
    : line.IsWritten line.command.word [] (mentions line) := by
  have means (flag : Flag) (x : flag.Carrier) (held : line.given.get flag = some x)
      : flag.Means (Mention.ofValue flag x).value? x := by
    have stands (takes : flag.takesValue = true) : flag.Stands (flag.text x) x := by
      refine Flag.stands_text takes ?_
      rintro rfl
      exact named x held
    cases flag with
    | help | version => nomatch x
    | verbose => rfl
    | _ => exact stands rfl
  have said (flag : Flag) (x : flag.Carrier)
      : line.given.get flag = some x ↔ Says (mentions line) flag x := by
    constructor
    · intro held
      exact ⟨_, mem_mentions_iff.mpr ⟨flag, x, mem_flags_of_get_given held, held, rfl⟩,
        Mention.flag_ofValue flag x, means flag x held⟩
    · rintro ⟨_, inside, same, meant⟩
      obtain ⟨other, y, -, held, rfl⟩ := mem_mentions_iff.mp inside
      obtain rfl : other = flag := (Mention.flag_ofValue other y).symm.trans same
      rw [held, (means other y held).unique meant]
  constructor
  · rfl
  · exact List.nodup_nil
  · have once : (Scope.command line.command.word).flags.Nodup := by
      cases line.command.word <;> decide
    rw [mentions, List.map_filterMap]
    refine once.filterMap ?_
    intro flag other found first second
    simp only [Option.map_map, Option.mem_def, Option.map_eq_some_iff, Function.comp,
      Mention.flag_ofValue] at first second
    obtain ⟨_, -, rfl⟩ := first
    obtain ⟨_, -, rfl⟩ := second
    rfl
  · intro mention inside
    obtain ⟨flag, x, -, held, rfl⟩ := mem_mentions_iff.mp inside
    have meant := means flag x held
    constructor <;> cases flag with
    | help | version => nomatch x
    | _ => first | trivial | exact ⟨x, meant⟩
  · intro flag x
    simp [said, Says]

/-- Each line is understood from the arguments that it is written as. -/
theorem ofArguments_mentions (program : String) (named : ∀ path ∈ line.config, path ≠ "")
    : ofArguments (written program line.command.word [] (mentions line)) = .ok line :=
  (ofArguments_written_iff_isWritten (List.forall_mem_nil _) fun _ => fits_of_mem_mentions).mpr
    (isWritten_mentions named)

/--
Flags that are mentioned in any order and spelling, around the word of a command, are understood as
the line that they write. They are an error just where they write none: where a flag is mentioned
twice on one side of the word, where a value cannot be told from a flag or stands for nothing, and
where the flag is missing that the command needs.
-/
theorem understands_written (program : String) (kind : Word) (before after : List Mention)
    (fitsBefore : ∀ mention ∈ before, mention.Fits .program)
    (fitsAfter : ∀ mention ∈ after, mention.Fits (.command kind))
    : (∀ line, ofArguments (written program kind before after) = .ok line
        ↔ line.IsWritten kind before after)
      ∧ ((∃ usage, ofArguments (written program kind before after) = .error usage)
        ↔ ¬(before.map Mention.flag).Nodup
          ∨ ¬(after.map Mention.flag).Nodup
          ∨ (∃ mention ∈ before ++ after, ¬mention.IsSound)
          ∨ ∃ flag,
            (Scope.command kind).required? = some flag ∧ flag ∉ after.map Mention.flag) := by
  refine ⟨fun line => ofArguments_written_iff_isWritten fitsBefore fitsAfter, ?_⟩
  have refused : (∃ usage, ofArguments (written program kind before after) = .error usage)
      ↔ ¬∃ line, ofArguments (written program kind before after) = .ok line := by
    cases ofArguments (written program kind before after) <;> simp
  rw [refused, exists_ofArguments_written_iff fitsBefore fitsAfter]
  simp only [not_and_or, not_forall, exists_prop]

/-- Flags stand on both sides of a word, some with an equals sign; two others are the same. -/
theorem understands_written_messages
    : let line : CommandLine := ⟨some "a b.yml", true, .messages ⟨5⟩ none ⟨some 7, some 0⟩⟩
      ofArguments
          ["cordrest", "-C", "a b.yml", "messages", "--page-size=+007", "-v", "--channel", " 5 ",
            "--max-records", "0"]
        = .ok line
      ∧ line.IsWritten .messages [.configLetter "a b.yml"]
          [.joined .pageSize "+007", .verbose true, .apart .channel " 5 ", .apart .maxRecords "0"]
      ∧ ∃ usage, ofArguments ["cordrest", "guilds", "--after=1", "--after", "1"] = .error usage := by
  intro line
  have read : ofArguments
        ["cordrest", "-C", "a b.yml", "messages", "--page-size=+007", "-v", "--channel", " 5 ",
          "--max-records", "0"]
      = .ok line := by
    decide +kernel
  have whole := understands_written "cordrest" .messages [.configLetter "a b.yml"]
    [.joined .pageSize "+007", .verbose true, .apart .channel " 5 ", .apart .maxRecords "0"]
    (by decide) (by decide)
  have twice := understands_written "cordrest" .guilds [] [.joined .after "1", .apart .after "1"]
    (by decide) (by decide)
  exact ⟨read, (whole.1 line).mp read, twice.2.mpr (.inr (.inl (by decide)))⟩

/-- Not every text is refused that spells no number of 32 bits: zero may have a minus sign. -/
theorem not_forall_unspelled_refused
    : ¬∀ text : String, (¬∃ n : UInt32, Snowflake.Spells text.toList n.toNat) →
        ∃ usage, ofArguments ["cordrest", "guilds", "--page-size=" ++ text] = .error usage := by
  intro refused
  have unspelled : ¬∃ n : UInt32, Snowflake.Spells "-0".toList n.toNat := by
    rintro ⟨n, digits, rfl | plus, numeral⟩
    · exact absurd (numeral.all '-' List.mem_cons_self) (by decide)
    · exact absurd (List.cons.inj plus).1 (by decide)
  obtain ⟨usage, error⟩ := refused "-0" unspelled
  have read : ofArguments ["cordrest", "guilds", "--page-size=-0"]
      = .ok ⟨none, false, .guilds none ⟨some 0, none⟩⟩ := by
    decide +kernel
  cases error.symm.trans read

end Command

end DiscordRest
