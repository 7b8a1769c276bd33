import DiscordRest.Command.Reader
import DiscordRest.Proofs.Snowflake.Grammar

/-!
The values of flags. Each flag has a grammar of the texts that stand for its values, and the flags
of a scope hold at most one value each.
-/

namespace DiscordRest.Command

open Snowflake (Spells SpellsTrimmed)

------------------------------------------------------------------------------------------
-- Which texts stand for which values
------------------------------------------------------------------------------------------

namespace Flag

/-- What a flag holds once it is given; those that end the reading hold nothing. -/
def Carrier : Flag → Type
  | config => String
  | verbose => Unit
  | help => Empty
  | version => Empty
  | after => Snowflake
  | before => Snowflake
  | guild => Snowflake
  | channel => Snowflake
  | pageSize => UInt32
  | maxRecords => UInt64

/-- A number of 32 bits, where zero may have a minus sign. -/
def SpellsSize (text : List Char) (n : UInt32) : Prop :=
  Spells text n.toNat ∨ ∃ digits, text = '-' :: digits ∧ Text.IsNumeral digits 0 ∧ n = 0

/-- Which texts stand for which values of a flag. -/
def Stands : (flag : Flag) → String → flag.Carrier → Prop
  | config, text, path => text ≠ "" ∧ path = text
  | verbose, _, _ => False
  | help, _, _ => False
  | version, _, _ => False
  | after, text, id => SpellsTrimmed text.toList id.value.toNat
  | before, text, id => SpellsTrimmed text.toList id.value.toNat
  | guild, text, id => SpellsTrimmed text.toList id.value.toNat
  | channel, text, id => SpellsTrimmed text.toList id.value.toNat
  | pageSize, text, n => SpellsSize text.toList n
  | maxRecords, text, n => Spells text.toList n.toNat

/-- Which value a flag has by the text that comes with it; one without a value comes alone. -/
def Means (flag : Flag) : Option String → flag.Carrier → Prop
  | some text, x => flag.Stands text x
  | none, _ => flag.takesValue = false

/-- A value as a text; numbers are decimal numerals. -/
def text : (flag : Flag) → flag.Carrier → String
  | config, path => path
  | verbose, _ => ""
  | after, id => id.text
  | before, id => id.text
  | guild, id => id.text
  | channel, id => id.text
  | pageSize, n => Text.decimal n.toNat
  | maxRecords, n => Text.decimal n.toNat

end Flag

section

variable {flag : Flag} {text : String}

theorem readSnowflake_eq_ok_iff {id : Snowflake}
    : readSnowflake flag text = .ok id ↔ SpellsTrimmed text.toList id.value.toNat := by
  rw [← Snowflake.read_eq_ok_iff, readSnowflake]
  cases Snowflake.read text <;> simp [Except.mapError]

theorem readCount_eq_ok_iff {n : UInt64}
    : readCount flag text = .ok n ↔ Spells text.toList n.toNat := by
  have below (m : Nat) : m ≤ greatestWord ↔ m < UInt64.size := Nat.lt_succ_iff.symm
  constructor
  · intro read
    unfold readCount at read
    split at read
    · cases read
    · rename_i m found
      obtain ⟨digits, written, numeral, fits⟩ := Text.readUnsigned_eq_ok_iff.mp found
      obtain rfl := Except.ok.inj read
      rw [UInt64.toNat_ofNat_of_lt' ((below m).mp fits)]
      exact ⟨digits, written, numeral⟩
  · rintro ⟨digits, written, numeral⟩
    have found := Text.readUnsigned_eq_ok_iff.mpr
      ⟨digits, written, numeral, (below _).mpr n.toNat_lt⟩
    simp only [readCount, found, UInt64.ofNat_toNat]

/-- The number is read with a sign and 64 bits, and its range is checked afterwards. -/
theorem readPageSize_eq_ok_iff {n : UInt32}
    : readPageSize flag text = .ok n ↔ Flag.SpellsSize text.toList n := by
  have checked : readPageSize flag text = .ok n
      ↔ Text.readSigned 10 (greatestSigned + 1) greatestSigned text.toList = .ok (n.toNat : Int) := by
    have below (m : Nat) : m ≤ greatestHalfWord ↔ m < UInt32.size := Nat.lt_succ_iff.symm
    unfold readPageSize
    cases Text.readSigned 10 (greatestSigned + 1) greatestSigned text.toList with
    | error fault => simp
    | ok i =>
        simp only [Except.ok.injEq]
        split
        · rename_i fits
          have kept := UInt32.toNat_ofNat_of_lt' ((below _).mp fits.2)
          rw [Except.ok.injEq, ← UInt32.toNat_inj, kept]
          omega
        · rename_i unfit
          refine iff_of_false nofun ?_
          rintro rfl
          exact unfit ⟨Int.natCast_nonneg _, (below _).mpr n.toNat_lt⟩
  rw [checked, Text.readSigned_eq_ok_iff]
  constructor
  · rintro ⟨digits, m, numeral, ⟨written, -, same⟩ | ⟨written, -, same⟩⟩
    · obtain rfl := Int.ofNat.inj same
      exact .inl ⟨digits, written, numeral⟩
    · have zero : n.toNat = 0 ∧ m = 0 := by omega
      exact .inr ⟨digits, written, zero.2 ▸ numeral, UInt32.toNat_inj.mp zero.1⟩
  · rintro (⟨digits, written, numeral⟩ | ⟨digits, written, numeral, rfl⟩)
    · have fits : n.toNat ≤ greatestSigned :=
        Nat.le_trans (Nat.le_of_lt n.toNat_lt) (by decide : UInt32.size ≤ greatestSigned)
      exact ⟨digits, n.toNat, numeral, .inl ⟨written, fits, rfl⟩⟩
    · exact ⟨digits, 0, numeral, .inr ⟨written, Nat.zero_le _, rfl⟩⟩

end

------------------------------------------------------------------------------------------
-- Which flags hold which values
------------------------------------------------------------------------------------------

namespace Given

/-- What a flag holds among those that were given. -/
def get (given : Given) : (flag : Flag) → Option flag.Carrier
  | .config => given.config
  | .verbose => if given.verbose then some () else none
  | .help => none
  | .version => none
  | .after => given.after
  | .before => given.before
  | .guild => given.guild
  | .channel => given.channel
  | .pageSize => given.pageSize
  | .maxRecords => given.maxRecords

/-- The flags that were given and one that holds a value. -/
def set (given : Given) : (flag : Flag) → flag.Carrier → Given
  | .config, path => { given with config := some path }
  | .verbose, () => { given with verbose := true }
  | .after, id => { given with after := some id }
  | .before, id => { given with before := some id }
  | .guild, id => { given with guild := some id }
  | .channel, id => { given with channel := some id }
  | .pageSize, n => { given with pageSize := some n }
  | .maxRecords, n => { given with maxRecords := some n }

variable {given other : Given} {flag : Flag}

@[simp]
theorem get_nothing (flag : Flag) : nothing.get flag = none := by
  cases flag <;> rfl

@[simp]
theorem get_set_self (given : Given) (x : flag.Carrier) : (given.set flag x).get flag = some x := by
  cases flag with
  | help | version => nomatch x
  | _ => rfl

theorem get_set_of_ne {asked : Flag} (differ : asked ≠ flag) (given : Given) (x : flag.Carrier)
    : (given.set flag x).get asked = given.get asked := by
  cases flag with
  | help | version => nomatch x
  | _ => cases asked <;> first | rfl | exact absurd rfl differ

theorem has_eq_isSome (given : Given) (flag : Flag) : given.has flag = (given.get flag).isSome := by
  cases flag with
  | verbose =>
      have alone (verbose : Bool) : verbose = (if verbose then some () else none).isSome := by
        cases verbose <;> rfl
      exact alone given.verbose
  | _ => rfl

/-- Flags that hold the same values are the same. -/
theorem ext_get (same : ∀ flag, given.get flag = other.get flag) : given = other := by
  have verbose : given.verbose = other.verbose := by
    have found := congrArg Option.isSome (same .verbose)
    rwa [← has_eq_isSome, ← has_eq_isSome] at found
  obtain ⟨config, _, after, before, guild, channel, pageSize, maxRecords⟩ := given
  obtain rfl : _ = other.verbose := verbose
  obtain rfl : _ = other.config := same .config
  obtain rfl : _ = other.after := same .after
  obtain rfl : _ = other.before := same .before
  obtain rfl : _ = other.guild := same .guild
  obtain rfl : _ = other.channel := same .channel
  obtain rfl : _ = other.pageSize := same .pageSize
  obtain rfl : _ = other.maxRecords := same .maxRecords
  rfl

/-- A text is added to the flags as the value that it stands for. -/
theorem add_eq_ok_iff (takes : flag.takesValue = true) {text : String}
    : given.add flag text = .ok other ↔ ∃ x, flag.Stands text x ∧ given.set flag x = other := by
  cases flag with
  | verbose | help | version => cases takes
  | config =>
      simp only [add, String.isEmpty_iff]
      split
      · rename_i empty
        exact iff_of_false nofun fun ⟨_, ⟨named, _⟩, _⟩ => named empty
      · rename_i named
        rw [Except.ok.injEq]
        exact ⟨fun same => ⟨text, ⟨named, rfl⟩, same⟩, fun ⟨_, ⟨_, path⟩, same⟩ => path ▸ same⟩
  | after | before | guild | channel =>
      simp only [add, Except.map_eq_ok_iff, readSnowflake_eq_ok_iff]
      exact Iff.rfl
  | pageSize =>
      simp only [add, Except.map_eq_ok_iff, readPageSize_eq_ok_iff]
      exact Iff.rfl
  | maxRecords =>
      simp only [add, Except.map_eq_ok_iff, readCount_eq_ok_iff]
      exact Iff.rfl

end Given

namespace Flag

variable {flag : Flag} {text : String}

theorem Stands.takesValue {x : flag.Carrier} (stands : flag.Stands text x)
    : flag.takesValue = true := by
  cases flag with
  | verbose | help | version => cases stands
  | _ => rfl

/-- A text stands for one value of a flag at most. -/
theorem Stands.unique {x y : flag.Carrier} (first : flag.Stands text x)
    (second : flag.Stands text y)
    : x = y := by
  have added (z : flag.Carrier) (stands : flag.Stands text z)
      : Given.nothing.add flag text = .ok (Given.nothing.set flag z) :=
    (Given.add_eq_ok_iff stands.takesValue).mpr ⟨z, stands, rfl⟩
  have same : Given.nothing.set flag x = Given.nothing.set flag y :=
    Except.ok.inj ((added x first).symm.trans (added y second))
  have held := congrArg (Given.get · flag) same
  simpa only [Given.get_set_self, Option.some.injEq] using held

/-- The text of a value stands for it; only the name of a file could be empty. -/
theorem stands_text (takes : flag.takesValue = true) {x : flag.Carrier}
    (named : flag = .config → flag.text x ≠ "")
    : flag.Stands (flag.text x) x := by
  have id (id : Snowflake) : SpellsTrimmed id.text.toList id.value.toNat :=
    Snowflake.parse?_eq_some_iff.mp id.parse?_text
  have number (n : Nat) : Spells (Text.decimal n).toList n := by
    refine ⟨Nat.toDigits 10 n, .inl ?_, Text.isNumeral_toDigits n⟩
    rw [Text.decimal, String.toList_ofList]
  cases flag with
  | verbose | help | version => cases takes
  | config => exact ⟨named rfl, rfl⟩
  | after | before | guild | channel => exact id x
  | pageSize => exact .inl (number (UInt32.toNat x))
  | maxRecords => exact number (UInt64.toNat x)

end Flag

end DiscordRest.Command
