import DiscordRest.Proofs.Command.Mentions

/-!
Scopes of a command line, read from mentions of flags. A value that is an argument of its own is
checked late, but before anything else is read, so that each mention has its effect at its place.
-/

namespace DiscordRest.Command

------------------------------------------------------------------------------------------
-- Scopes read from mentions
------------------------------------------------------------------------------------------

/-- A scope is read up to the end, or up to a word, and what awaits its check passes it. -/
def Scope.Reads (scope : Scope) (program : String) (state : State) (arguments : List String)
    (given : Given) (found : Option (String × List String))
    : Prop :=
  ∃ last,
    readScope scope program state arguments = .ok (last, found)
    ∧ last.settle = .ok ⟨given, none⟩

section

variable {scope : Scope} {program : String} {state after : State} {given last : Given}
variable {found : Option (String × List String)} {rest : List String} {flag : Flag}

/-- Nothing awaits its check behind one. -/
theorem State.pending_of_settle (settled : state.settle = .ok after) : after.pending = none := by
  have added {flag : Flag} {value : String} (added : state.add flag value = .ok after)
      : after.pending = none := by
    unfold State.add at added
    split at added
    · cases added
    · obtain ⟨given, -, rfl⟩ := Except.map_eq_ok_iff.mp added
      rfl
  unfold State.settle at settled
  split at settled
  · obtain rfl := Except.ok.inj settled
    assumption
  · cases settled
  · exact added settled

theorem State.add_eq_ok_iff (takes : flag.takesValue = true) {text : String}
    : state.add flag text = .ok after
      ↔ state.given.get flag = none
        ∧ ∃ x, flag.Stands text x ∧ ⟨state.given.set flag x, none⟩ = after := by
  rw [State.add, Given.has_eq_isSome]
  cases state.given.get flag with
  | some x => simp
  | none => simp [Except.map_eq_ok_iff, Given.add_eq_ok_iff takes]

theorem State.settle_of_settle (settled : state.settle = .ok after) : after.settle = .ok after := by
  rw [settle, pending_of_settle settled]

/-- A check that was passed is passed again, whatever comes behind it. -/
theorem State.settle_bind_eq_ok_iff {next : State → Except Usage State}
    : state.settle >>= next = .ok after
      ↔ ∃ settled, state.settle = .ok settled ∧ settled.settle >>= next = .ok after := by
  cases read : state.settle with
  | error usage => simp [bind, Except.bind]
  | ok settled => simp [bind, Except.bind, settle_of_settle read]

theorem readLong_eq_ok_iff {text : List Char}
    : readLong scope program state text = .ok after
      ↔ ∃ settled, state.settle = .ok settled
        ∧ readLong scope program settled text = .ok after := by
  unfold readLong
  split
  split
  · simp
  · split
    · exact State.settle_bind_eq_ok_iff
    · split
      · simp
      · exact State.settle_bind_eq_ok_iff

theorem readLetters_eq_ok_iff {letter : Char} {text : List Char}
    : readLetters scope program state (letter :: text) = .ok after
      ↔ ∃ settled, state.settle = .ok settled
        ∧ readLetters scope program settled (letter :: text) = .ok after := by
  unfold readLetters
  split
  · simp
  · rename_i flag _
    split
    · exact State.settle_bind_eq_ok_iff
    · cases read : state.settle with
      | error usage =>
          have raised : state.raise scope program flag = .error usage := by
            rw [State.raise, read]
            rfl
          simp [raised]
      | ok settled =>
          have raised : state.raise scope program flag = settled.raise scope program flag := by
            rw [State.raise, State.raise, read, State.settle_of_settle read]
          simp [raised]

theorem exists_cons_of_shape {argument : String} {text : List Char}
    (shaped : shape argument = .letters text)
    : ∃ letter more, text = letter :: more := by
  unfold shape at shaped
  split at shaped
  · cases shaped
  · cases shaped
  · exact ⟨_, _, (Shape.letters.inj shaped).symm⟩
  · cases shaped

@[simp]
theorem State.settle_checked : (⟨given, none⟩ : State).settle = .ok ⟨given, none⟩ :=
  rfl

@[simp]
theorem State.awaitsValue_checked : (⟨given, none⟩ : State).awaitsValue = false :=
  rfl

namespace Scope

variable {argument : String} {text : List Char}

theorem reads_nil_iff
    : scope.Reads program state [] last found ↔ state.settle = .ok ⟨last, none⟩ ∧ found = none := by
  simp [Reads, readScope, and_comm, eq_comm]

theorem reads_known_iff (awaits : state.awaitsValue = false) (known : scope.knows argument = true)
    : scope.Reads program state (argument :: rest) last found
      ↔ state.settle = .ok ⟨last, none⟩ ∧ found = some (argument, rest) := by
  simp [Reads, readScope, awaits, known, and_comm, eq_comm]

theorem reads_separator_iff (unknown : scope.knows argument = false)
    (shaped : shape argument = .separator)
    : scope.Reads program state (argument :: rest) last found
      ↔ rest = [] ∧ state.settle = .ok ⟨last, none⟩ ∧ found = none := by
  cases rest <;> simp [Reads, readScope, unknown, shaped, and_comm, eq_comm]

theorem reads_long_iff (unknown : scope.knows argument = false)
    (shaped : shape argument = .long text)
    : scope.Reads program state (argument :: rest) last found
      ↔ ∃ after, readLong scope program state text = .ok after
        ∧ scope.Reads program after rest last found := by
  cases read : readLong scope program state text <;>
    simp [Reads, readScope, unknown, shaped, read]

theorem reads_letters_iff (unknown : scope.knows argument = false)
    (shaped : shape argument = .letters text)
    : scope.Reads program state (argument :: rest) last found
      ↔ ∃ after, readLetters scope program state text = .ok after
        ∧ scope.Reads program after rest last found := by
  cases read : readLetters scope program state text <;>
    simp [Reads, readScope, unknown, shaped, read]

/-- An argument without hyphens is the value that is awaited, or has no place. -/
theorem reads_plain_iff (known : state.awaitsValue = true ∨ scope.knows argument = false)
    (shaped : shape argument = .plain)
    : scope.Reads program state (argument :: rest) last found
      ↔ state.awaitsValue = true ∧ scope.Reads program (state.supply argument) rest last found := by
  cases awaits : state.awaitsValue with
  | true => simp [Reads, readScope, awaits, shaped]
  | false =>
      have unknown := known.resolve_left (by simp [awaits])
      simp [Reads, readScope, awaits, shaped, unknown]

/-- What awaits its check is checked before a scope is read further. -/
theorem reads_iff_settle (awaits : state.awaitsValue = false)
    : scope.Reads program state rest last found
      ↔ ∃ given, state.settle = .ok ⟨given, none⟩
        ∧ scope.Reads program ⟨given, none⟩ rest last found := by
  have through (read : State → Except Usage State) (rest : List String)
      (later : ∀ after, read state = .ok after
        ↔ ∃ settled, state.settle = .ok settled ∧ read settled = .ok after)
      : (∃ after, read state = .ok after ∧ scope.Reads program after rest last found)
        ↔ ∃ given, state.settle = .ok ⟨given, none⟩
          ∧ ∃ after, read ⟨given, none⟩ = .ok after
            ∧ scope.Reads program after rest last found := by
    simp only [later]
    constructor
    · rintro ⟨after, ⟨⟨given, pending⟩, settled, read⟩, reads⟩
      obtain rfl : pending = none := State.pending_of_settle settled
      exact ⟨given, settled, after, read, reads⟩
    · rintro ⟨given, settled, after, read, reads⟩
      exact ⟨after, ⟨_, settled, read⟩, reads⟩
  cases rest with
  | nil => simp [reads_nil_iff]
  | cons argument rest =>
      cases known : scope.knows argument with
      | true => simp [reads_known_iff awaits known, reads_known_iff State.awaitsValue_checked known]
      | false =>
          cases shaped : shape argument with
          | separator => simp [reads_separator_iff known shaped, and_left_comm]
          | long text =>
              simp only [reads_long_iff known shaped]
              exact through (readLong scope program · text) rest fun _ => readLong_eq_ok_iff
          | letters text =>
              obtain ⟨letter, more, rfl⟩ := exists_cons_of_shape shaped
              simp only [reads_letters_iff known shaped]
              exact through (readLetters scope program · (letter :: more)) rest fun _ =>
                readLetters_eq_ok_iff
          | plain => simp [reads_plain_iff (.inr known) shaped, awaits]

/-- An argument with a hyphen in front is no word. -/
theorem knows_eq_false (scope : Scope) (hyphen : argument.toList.head? = some '-')
    : scope.knows argument = false := by
  have differs (word : String) (letter : word.toList.head? ≠ some '-') : argument ≠ word := by
    rintro rfl
    exact letter hyphen
  have noWord : Word.ofText? argument = none := by
    refine List.find?_eq_none.mpr fun word _ => ?_
    have spelled : argument ≠ word.text := differs word.text (by cases word <;> decide)
    simpa using Ne.symm spelled
  simp [knows, noWord, differs helpWord (by decide)]

/-- A flag that awaits its value finds none behind a hyphen. -/
theorem not_reads_of_hyphen {letter : Char} {more : List Char}
    (hyphen : argument.toList = '-' :: letter :: more)
    : ¬scope.Reads program ⟨given, some (flag, none)⟩ (argument :: rest) last found := by
  have unknown := scope.knows_eq_false (hyphen ▸ rfl : argument.toList.head? = some '-')
  have unsettled : (⟨given, some (flag, none)⟩ : State).settle = .error (.missingValue flag) := rfl
  cases shaped : shape argument with
  | separator => simp [reads_separator_iff unknown shaped, unsettled]
  | long text =>
      rw [reads_long_iff unknown shaped]
      rintro ⟨after, read, -⟩
      obtain ⟨settled, checked, -⟩ := readLong_eq_ok_iff.mp read
      cases unsettled.symm.trans checked
  | letters text =>
      obtain ⟨letter, more, rfl⟩ := exists_cons_of_shape shaped
      rw [reads_letters_iff unknown shaped]
      rintro ⟨after, read, -⟩
      obtain ⟨settled, checked, -⟩ := readLetters_eq_ok_iff.mp read
      cases unsettled.symm.trans checked
  | plain =>
      unfold shape at shaped
      split at shaped
      · cases shaped
      · cases shaped
      · cases shaped
      · rename_i other
        exact absurd hyphen (other letter more)

end Scope

------------------------------------------------------------------------------------------
-- One mention
------------------------------------------------------------------------------------------

/-- An argument of its own is a value unless a hyphen and more are in it. -/
theorem shape_eq_plain {argument : String}
    (free : ∀ rest, argument.toList = '-' :: rest → rest = [])
    : shape argument = .plain := by
  unfold shape
  split
  · rename_i whole
    cases free _ whole
  · rename_i whole
    cases free _ whole
  · rename_i whole
    cases free _ whole
  · rfl

theorem cutValue_append {name value : List Char} (uncut : '=' ∉ name)
    : cutValue (name ++ '=' :: value) = (name, some value) := by
  induction name with
  | nil => rfl
  | cons c name ih =>
      obtain ⟨differ, uncut⟩ := not_or.mp (List.mem_cons.not.mp uncut)
      simp [cutValue, Ne.symm differ, ih uncut]

theorem cutValue_eq_self {name : List Char} (uncut : '=' ∉ name)
    : cutValue name = (name, none) := by
  induction name with
  | nil => rfl
  | cons c name ih =>
      obtain ⟨differ, uncut⟩ := not_or.mp (List.mem_cons.not.mp uncut)
      simp [cutValue, Ne.symm differ, ih uncut]

theorem Flag.uncut_long (flag : Flag) : '=' ∉ flag.long.toList := by
  cases flag <;> decide

theorem Flag.long_injective {flag other : Flag} (same : flag.long = other.long) : flag = other := by
  cases flag <;> cases other <;> first | rfl | exact absurd same (by decide)

/-- A flag of a scope is found by its name. -/
theorem Scope.long?_long (known : flag ∈ scope.flags) : scope.long? flag.long = some flag := by
  cases found : scope.long? flag.long with
  | none => exact absurd (List.find?_eq_none.mp found flag known) (by simp)
  | some other =>
      have same := List.find?_some found
      exact congrArg some (Flag.long_injective (by simpa using same))

theorem readLong_long (known : flag ∈ scope.flags) (takes : flag.takesValue = true)
    : readLong scope program ⟨given, none⟩ flag.long.toList = .ok ⟨given, some (flag, none)⟩ := by
  simp only [readLong, cutValue_eq_self flag.uncut_long, String.ofList_toList,
    Scope.long?_long known, takes, if_true]
  rfl

theorem readLong_append (known : flag ∈ scope.flags) (takes : flag.takesValue = true)
    (value : String)
    : readLong scope program ⟨given, none⟩ (flag.long.toList ++ '=' :: value.toList)
      = (⟨given, none⟩ : State).add flag value := by
  simp only [readLong, cutValue_append flag.uncut_long, String.ofList_toList,
    Scope.long?_long known, takes, if_true, Option.map_some]
  rfl

theorem readLong_verbose (known : Flag.verbose ∈ scope.flags)
    : readLong scope program state Flag.verbose.long.toList
      = state.raise scope program .verbose := by
  simp only [readLong, cutValue_eq_self (Flag.uncut_long .verbose), String.ofList_toList,
    Scope.long?_long known]
  rfl

theorem readLetters_verbose
    : readLetters scope program state ['v'] = state.raise scope program .verbose := by
  have named : scope.short? 'v' = some .verbose := by
    cases scope with
    | program => rfl
    | command word => cases word <;> rfl
  have alone : Flag.verbose.takesValue = false := rfl
  simp only [readLetters, named, alone]
  cases state.raise scope program .verbose <;> rfl

theorem readLetters_config
    : readLetters scope program ⟨given, none⟩ ['C'] = .ok ⟨given, some (.config, none)⟩ := by
  have named : scope.short? 'C' = some .config := by
    cases scope with
    | program => rfl
    | command word => cases word <;> rfl
  simp only [readLetters, named]
  rfl

namespace Scope

/-- A value that is awaited is the next argument, if this cannot be a flag. -/
theorem reads_supply_iff (takes : flag.takesValue = true) {value : String}
    : scope.Reads program ⟨given, some (flag, none)⟩ (value :: rest) last found
      ↔ (∀ more, value.toList = '-' :: more → more = [])
        ∧ given.get flag = none
        ∧ ∃ x, flag.Stands value x
          ∧ scope.Reads program ⟨given.set flag x, none⟩ rest last found := by
  by_cases plain : ∀ more, value.toList = '-' :: more → more = []
  · have supplied : (⟨given, some (flag, none)⟩ : State).supply value
        = ⟨given, some (flag, some value)⟩ := rfl
    have settled : (⟨given, some (flag, some value)⟩ : State).settle
        = (⟨given, some (flag, some value)⟩ : State).add flag value := rfl
    have awaited : (⟨given, some (flag, none)⟩ : State).awaitsValue = true := rfl
    rw [reads_plain_iff (.inl awaited) (shape_eq_plain plain), supplied, reads_iff_settle rfl,
      settled]
    simp only [State.add_eq_ok_iff takes, awaited, true_and]
    constructor
    · rintro ⟨_, ⟨free, x, stands, same⟩, reads⟩
      cases same
      exact ⟨plain, free, x, stands, reads⟩
    · rintro ⟨-, free, x, stands, reads⟩
      exact ⟨_, ⟨free, x, stands, rfl⟩, reads⟩
  · refine iff_of_false ?_ fun whole => plain whole.1
    obtain ⟨more, unlike⟩ := not_forall.mp plain
    obtain ⟨hyphen, more_ne⟩ := Classical.not_imp.mp unlike
    obtain ⟨letter, more, rfl⟩ := List.exists_cons_of_ne_nil more_ne
    exact not_reads_of_hyphen hyphen

/-- A value that is attached is checked at once. -/
theorem reads_added_iff (takes : flag.takesValue = true) {value : String}
    : (∃ after, (⟨given, none⟩ : State).add flag value = .ok after
        ∧ scope.Reads program after rest last found)
      ↔ given.get flag = none
        ∧ ∃ x, flag.Stands value x
          ∧ scope.Reads program ⟨given.set flag x, none⟩ rest last found := by
  simp only [State.add_eq_ok_iff takes]
  constructor
  · rintro ⟨_, ⟨free, x, stands, rfl⟩, reads⟩
    exact ⟨free, x, stands, reads⟩
  · rintro ⟨free, x, stands, reads⟩
    exact ⟨_, ⟨free, x, stands, rfl⟩, reads⟩

theorem reads_raised_iff
    : (∃ after, (⟨given, none⟩ : State).raise scope program .verbose = .ok after
        ∧ scope.Reads program after rest last found)
      ↔ given.get .verbose = none
        ∧ ∃ x, Flag.Means .verbose none x
          ∧ scope.Reads program ⟨given.set .verbose x, none⟩ rest last found := by
  have raised : (⟨given, none⟩ : State).raise scope program .verbose
      = if given.has .verbose then .error (.repeated .verbose)
        else .ok ⟨given.set .verbose (), none⟩ := rfl
  rw [raised, Given.has_eq_isSome]
  cases given.get .verbose with
  | some x => simp
  | none =>
      constructor
      · rintro ⟨_, same, reads⟩
        cases same
        exact ⟨rfl, (), rfl, reads⟩
      · rintro ⟨-, x, -, reads⟩
        exact ⟨_, rfl, reads⟩

/-- An argument with two hyphens in front names a flag. -/
theorem reads_named_iff {argument : String} {text : List Char}
    (spelled : argument.toList = '-' :: '-' :: text) (some : text ≠ [])
    : scope.Reads program state (argument :: rest) last found
      ↔ ∃ after, readLong scope program state text = .ok after
        ∧ scope.Reads program after rest last found := by
  have shaped : shape argument = .long text := by
    cases text with
    | nil => exact absurd rfl some
    | cons c text => simp [shape, spelled]
  exact reads_long_iff (scope.knows_eq_false (by simp [spelled])) shaped

/-- A letter behind a hyphen stands for a flag. -/
theorem reads_letter_iff {argument : String} {letter : Char}
    (spelled : argument.toList = ['-', letter]) (other : letter ≠ '-')
    : scope.Reads program state (argument :: rest) last found
      ↔ ∃ after, readLetters scope program state [letter] = .ok after
        ∧ scope.Reads program after rest last found := by
  have shaped : shape argument = .letters [letter] := by
    simp [shape, spelled, other]
  exact reads_letters_iff (scope.knows_eq_false (by simp [spelled])) shaped

/-- A mention has its effect on the flags that were given, however it is spelled. -/
theorem reads_mention_iff {mention : Mention} (fits : mention.Fits scope)
    : scope.Reads program ⟨given, none⟩ (mention.arguments ++ rest) last found
      ↔ mention.IsPlain
        ∧ given.get mention.flag = none
        ∧ ∃ x, mention.flag.Means mention.value? x
          ∧ scope.Reads program ⟨given.set mention.flag x, none⟩ rest last found := by
  have unnamed (flag : Flag) : flag.long.toList ≠ [] := by
    cases flag <;> decide
  obtain ⟨known, takes⟩ := fits
  cases mention with
  | verbose letter =>
      refine Iff.trans ?_ (reads_raised_iff.trans (and_iff_right trivial).symm)
      cases letter with
      | true =>
          refine (reads_letter_iff rfl (by decide : 'v' ≠ '-')).trans ?_
          rw [readLetters_verbose]
          exact Iff.rfl
      | false =>
          refine (reads_named_iff rfl (unnamed .verbose)).trans ?_
          rw [readLong_verbose known]
          exact Iff.rfl
  | apart flag value =>
      have known : flag ∈ scope.flags := known
      have takes : flag.takesValue = true := takes
      have spelled : ("--" ++ flag.long).toList = '-' :: '-' :: flag.long.toList := by
        simp [String.toList_append]
      refine (reads_named_iff spelled (unnamed flag)).trans ?_
      simp only [readLong_long known takes, Except.ok.injEq, exists_eq_left']
      exact reads_supply_iff takes
  | joined flag value =>
      have known : flag ∈ scope.flags := known
      have takes : flag.takesValue = true := takes
      have spelled : ("--" ++ flag.long ++ "=" ++ value).toList
          = '-' :: '-' :: (flag.long.toList ++ '=' :: value.toList) := by
        simp [String.toList_append]
      refine (reads_named_iff spelled (by simp)).trans ?_
      rw [readLong_append known takes]
      exact (reads_added_iff takes).trans (and_iff_right trivial).symm
  | configLetter value =>
      refine (reads_letter_iff rfl (by decide : 'C' ≠ '-')).trans ?_
      simp only [readLetters_config, Except.ok.injEq, exists_eq_left']
      exact reads_supply_iff takes

/-- Mentions have their effects one after another, by induction on them. -/
theorem reads_mentions_iff {mentions : List Mention}
    (fits : ∀ mention ∈ mentions, mention.Fits scope)
    : scope.Reads program ⟨given, none⟩ (mentions.flatMap Mention.arguments ++ rest) last found
      ↔ (∀ mention ∈ mentions, mention.IsPlain)
        ∧ ∃ next, given.Adds mentions next
          ∧ scope.Reads program ⟨next, none⟩ rest last found := by
  induction mentions generalizing given with
  | nil => simp [Given.Adds]
  | cons mention mentions ih =>
      obtain ⟨first, later⟩ := List.forall_mem_cons.mp fits
      rw [List.flatMap_cons, List.append_assoc, reads_mention_iff first]
      simp only [ih later, Given.Adds, List.forall_mem_cons]
      constructor
      · rintro ⟨plain, free, x, means, others, next, adds, reads⟩
        exact ⟨⟨plain, others⟩, next, ⟨free, x, means, adds⟩, reads⟩
      · rintro ⟨⟨plain, others⟩, next, ⟨free, x, means, adds⟩, reads⟩
        exact ⟨plain, free, x, means, others, next, adds, reads⟩

end Scope

end

end DiscordRest.Command
