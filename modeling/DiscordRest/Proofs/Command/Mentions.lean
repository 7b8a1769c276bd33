import DiscordRest.Proofs.Command.Values

/-!
Mentions of flags on a command line. Several of them say which values the flags have, in whatever
order they stand, if no flag is mentioned twice and each of them stands for something.
-/

namespace DiscordRest.Command

------------------------------------------------------------------------------------------
-- Ways to write a flag
------------------------------------------------------------------------------------------

/-- A flag as it is written among arguments. -/
inductive Mention where
  /-- Details are asked for, by name or by letter. -/
  | verbose (letter : Bool)
  /-- A flag is named, and its value is the next argument. -/
  | apart (flag : Flag) (value : String)
  /-- A flag is named, and its value stands behind an equals sign. -/
  | joined (flag : Flag) (value : String)
  /-- The file with the settings stands behind its letter, as the next argument. -/
  | configLetter (value : String)
  deriving DecidableEq

namespace Mention

/-- The flag that is written. -/
def flag : Mention → Flag
  | verbose _ => .verbose
  | apart flag _ => flag
  | joined flag _ => flag
  | configLetter _ => .config

/-- The text of the flag's value. -/
def value? : Mention → Option String
  | verbose _ => none
  | apart _ value => some value
  | joined _ value => some value
  | configLetter value => some value

/-- The arguments that the flag takes up. -/
def arguments : Mention → List String
  | verbose true => ["-v"]
  | verbose false => ["--verbose"]
  | apart flag value => ["--" ++ flag.long, value]
  | joined flag value => ["--" ++ flag.long ++ "=" ++ value]
  | configLetter value => ["-C", value]

/-- A value that is an argument of its own has no hyphen in front, unless it is nothing else. -/
def IsPlain (mention : Mention) : Prop :=
  match mention with
  | apart _ value | configLetter value => ∀ rest, value.toList = '-' :: rest → rest = []
  | verbose _ | joined _ _ => True

/-- The flag may stand in a scope, with a value if it takes one. -/
structure Fits (mention : Mention) (scope : Scope) : Prop where
  known : mention.flag ∈ scope.flags
  valued : mention.flag.takesValue = mention.value?.isSome

instance (mention : Mention) (scope : Scope) : Decidable (mention.Fits scope) :=
  decidable_of_iff
    (mention.flag ∈ scope.flags ∧ mention.flag.takesValue = mention.value?.isSome)
    ⟨fun fits => ⟨fits.1, fits.2⟩, fun fits => ⟨fits.known, fits.valued⟩⟩

/-- The value can be told from a flag, and stands for something. -/
structure IsSound (mention : Mention) : Prop where
  plain : mention.IsPlain
  means : ∃ x, mention.flag.Means mention.value? x

end Mention

------------------------------------------------------------------------------------------
-- Flags added one after another
------------------------------------------------------------------------------------------

/-- One set of flags comes from another by adding mentions, none of which is there yet. -/
def Given.Adds (given : Given) : List Mention → Given → Prop
  | [], last => given = last
  | mention :: mentions, last =>
    given.get mention.flag = none
    ∧ ∃ x, mention.flag.Means mention.value? x ∧ (given.set mention.flag x).Adds mentions last

/-- Some mentions say that a flag has a value. -/
def Says (mentions : List Mention) (flag : Flag) (x : flag.Carrier) : Prop :=
  ∃ mention ∈ mentions, mention.flag = flag ∧ flag.Means mention.value? x

theorem Flag.Means.unique {flag : Flag} {text : Option String} {x y : flag.Carrier}
    (first : flag.Means text x) (second : flag.Means text y)
    : x = y := by
  cases text with
  | some text => exact Stands.unique first second
  | none =>
      cases flag with
      | verbose => rfl
      | help | version => nomatch x
      | _ => cases first

theorem says_cons {mention : Mention} {mentions : List Mention} {flag : Flag} {x : flag.Carrier}
    : Says (mention :: mentions) flag x
      ↔ mention.flag = flag ∧ flag.Means mention.value? x ∨ Says mentions flag x := by
  simp only [Says, List.mem_cons, exists_eq_or_imp]

namespace Given

variable {given last : Given} {mention : Mention} {mentions : List Mention}

/-- The value of a mention is what the flags hold more than before. -/
theorem get_set_or_says_iff (free : given.get mention.flag = none) {x : mention.flag.Carrier}
    (means : mention.flag.Means mention.value? x) {flag : Flag} {y : flag.Carrier}
    : (given.set mention.flag x).get flag = some y ∨ Says mentions flag y
      ↔ given.get flag = some y ∨ Says (mention :: mentions) flag y := by
  rw [says_cons, ← or_assoc]
  refine or_congr_left ?_
  by_cases same : mention.flag = flag
  · subst same
    rw [get_set_self, free, Option.some.injEq]
    constructor
    · rintro rfl
      exact .inr ⟨rfl, means⟩
    · rintro (held | ⟨-, again⟩)
      · cases held
      · exact means.unique again
  · rw [get_set_of_ne (Ne.symm same)]
    simp only [same, false_and, or_false]

theorem get_set_eq_none_iff {x : mention.flag.Carrier} {flag : Flag}
    : (given.set mention.flag x).get flag = none
      ↔ mention.flag ≠ flag ∧ given.get flag = none := by
  by_cases same : mention.flag = flag
  · subst same
    simp
  · rw [get_set_of_ne (Ne.symm same)]
    simp [same]

/-- The flags hold just what the mentions say, by induction on these. -/
theorem adds_iff
    : given.Adds mentions last
      ↔ (mentions.map Mention.flag).Nodup
        ∧ (∀ mention ∈ mentions,
          given.get mention.flag = none ∧ ∃ x, mention.flag.Means mention.value? x)
        ∧ ∀ flag x, last.get flag = some x ↔ given.get flag = some x ∨ Says mentions flag x := by
  induction mentions generalizing given with
  | nil =>
      simp only [Adds, Says, List.map_nil, List.nodup_nil, List.not_mem_nil, false_and, exists_false,
        or_false, false_implies, implies_true, true_and]
      constructor
      · rintro rfl flag x
        exact Iff.rfl
      · exact fun same => (ext_get fun flag => Option.ext (same flag)).symm
  | cons mention mentions ih =>
      simp only [Adds, ih, get_set_eq_none_iff, List.map_cons, List.nodup_cons, List.forall_mem_cons]
      constructor
      · rintro ⟨free, x, means, once, fit, held⟩
        refine ⟨⟨?_, once⟩, ⟨⟨free, x, means⟩, fun other inside => ?_⟩, fun flag y => ?_⟩
        · intro again
          obtain ⟨other, inside, same⟩ := List.mem_map.mp again
          exact (fit other inside).1.1 same.symm
        · exact ⟨(fit other inside).1.2, (fit other inside).2⟩
        · exact (held flag y).trans (get_set_or_says_iff free means)
      · rintro ⟨⟨fresh, once⟩, ⟨⟨free, x, means⟩, fit⟩, held⟩
        refine ⟨free, x, means, once, fun other inside => ⟨⟨?_, (fit other inside).1⟩, ?_⟩, ?_⟩
        · intro same
          exact fresh (List.mem_map.mpr ⟨other, inside, same.symm⟩)
        · exact (fit other inside).2
        · exact fun flag y => (held flag y).trans (get_set_or_says_iff free means).symm

/-- Mentions that stand for something can be added to nothing, if no flag is there twice. -/
theorem exists_adds (once : (mentions.map Mention.flag).Nodup)
    (means : ∀ mention ∈ mentions, ∃ x, mention.flag.Means mention.value? x)
    : ∃ last, nothing.Adds mentions last := by
  have added : ∀ given : Given, (∀ mention ∈ mentions, given.get mention.flag = none) →
      ∃ last, given.Adds mentions last := by
    induction mentions with
    | nil => exact fun given _ => ⟨given, rfl⟩
    | cons mention mentions ih =>
        intro given free
        obtain ⟨fresh, once⟩ := List.nodup_cons.mp once
        obtain ⟨⟨x, stands⟩, means⟩ := List.forall_mem_cons.mp means
        obtain ⟨here, free⟩ := List.forall_mem_cons.mp free
        have still : ∀ other ∈ mentions, (given.set mention.flag x).get other.flag = none := by
          intro other inside
          refine get_set_eq_none_iff.mpr ⟨fun same => fresh ?_, free other inside⟩
          exact List.mem_map.mpr ⟨other, inside, same.symm⟩
        obtain ⟨last, adds⟩ := ih once means (given.set mention.flag x) still
        exact ⟨last, here, x, stands, adds⟩
  exact added nothing fun mention _ => get_nothing mention.flag

theorem get_eq_some_iff (adds : nothing.Adds mentions last) {flag : Flag} {x : flag.Carrier}
    : last.get flag = some x ↔ Says mentions flag x := by
  have held := (adds_iff.mp adds).2.2 flag x
  rw [get_nothing] at held
  exact held.trans (or_iff_right nofun)

theorem get_eq_none_iff (adds : nothing.Adds mentions last) {flag : Flag}
    : last.get flag = none ↔ flag ∉ mentions.map Mention.flag := by
  constructor
  · intro free mentioned
    obtain ⟨mention, inside, rfl⟩ := List.mem_map.mp mentioned
    obtain ⟨x, means⟩ := ((adds_iff.mp adds).2.1 mention inside).2
    have held := (get_eq_some_iff adds).mpr ⟨mention, inside, rfl, means⟩
    cases free.symm.trans held
  · intro unmentioned
    refine Option.eq_none_iff_forall_ne_some.mpr fun x held => ?_
    obtain ⟨mention, inside, rfl, -⟩ := (get_eq_some_iff adds).mp held
    exact unmentioned (List.mem_map_of_mem inside)

end Given

end DiscordRest.Command
