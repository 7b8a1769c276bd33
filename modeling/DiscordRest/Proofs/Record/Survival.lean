import DiscordRest.Proofs.Json.Tidy
import DiscordRest.Record.Channel
import DiscordRest.Record.Guild

/-!
Records that survive. A record that was read from a value is written as this value again: only
snowflakes become numerals, optional members that are null go away, and defaults are put in. All
other members stay, those that no field reads among them, and what is written is read as the same
record.
-/

namespace DiscordRest

open Json

------------------------------------------------------------------------------------------
-- What becomes of the members
------------------------------------------------------------------------------------------

/-- What becomes of a user record. -/
def User.rules : List Rule :=
  [.required "id" .numeral, .required "username" .nothing, .optional "global_name" .nothing,
    .optional "avatar" .nothing, .withDefault "bot" .nothing (.boolean false)]

/-- What becomes of a listed guild. -/
def UserGuild.rules : List Rule :=
  [.required "id" .numeral, .required "name" .nothing, .optional "icon" .nothing,
    .withDefault "owner" .nothing (.boolean false), .optional "permissions" .nothing]

/-- What becomes of a guild. -/
def Guild.rules : List Rule :=
  [.required "id" .numeral, .required "name" .nothing, .optional "owner_id" .numeral]

/-- What becomes of a member record, with the user in it. -/
def Member.rules : List Rule :=
  [.required "user" (tidy User.rules), .optional "nick" .nothing,
    .withDefault "roles" (.items .numeral) (.array []),
    .optional "joined_at" .nothing]

/-- What becomes of a channel. -/
def Channel.rules : List Rule :=
  [.required "id" .numeral, .required "type" .nothing, .optional "guild_id" .numeral,
    .optional "name" .nothing]

/-- What becomes of a message, with its author in it. -/
def Message.rules : List Rule :=
  [.required "id" .numeral, .required "channel_id" .numeral,
    .withDefault "content" .nothing (.string ""), .optional "author" (tidy User.rules)]

------------------------------------------------------------------------------------------
-- Records that obey
------------------------------------------------------------------------------------------

theorem User.tidies : User.codec.Tidies (tidy User.rules) := by
  refine Codec.Tidies.convert (Layout.tidies_openCodec ?_ (by decide)) fun _ => rfl
  exact .cons (Field.obeys_required _ Codec.tidies_snowflake)
    (.cons (Field.obeys_required _ Codec.tidies_string)
    (.cons (Field.obeys_optional _ Codec.tidies_string nofun)
    (.cons (Field.obeys_optional _ Codec.tidies_string nofun)
    (.cons (Field.obeys_withDefault _ Codec.tidies_boolean rfl rfl) .nil))))

theorem UserGuild.tidies : UserGuild.codec.Tidies (tidy UserGuild.rules) := by
  refine Codec.Tidies.convert (Layout.tidies_openCodec ?_ (by decide)) fun _ => rfl
  exact .cons (Field.obeys_required _ Codec.tidies_snowflake)
    (.cons (Field.obeys_required _ Codec.tidies_string)
    (.cons (Field.obeys_optional _ Codec.tidies_string nofun)
    (.cons (Field.obeys_withDefault _ Codec.tidies_boolean rfl rfl)
    (.cons (Field.obeys_optional _ Codec.tidies_string nofun) .nil))))

theorem Guild.tidies : Guild.codec.Tidies (tidy Guild.rules) := by
  refine Codec.Tidies.convert (Layout.tidies_openCodec ?_ (by decide)) fun _ => rfl
  exact .cons (Field.obeys_required _ Codec.tidies_snowflake)
    (.cons (Field.obeys_required _ Codec.tidies_string)
    (.cons (Field.obeys_optional _ Codec.tidies_snowflake nofun) .nil))

theorem Member.tidies : Member.codec.Tidies (tidy Member.rules) := by
  refine Codec.Tidies.convert (Layout.tidies_openCodec ?_ (by decide)) fun _ => rfl
  exact .cons (Field.obeys_required _ User.tidies)
    (.cons (Field.obeys_optional _ Codec.tidies_string nofun)
    (.cons (Field.obeys_withDefault _ (Codec.tidies_snowflake.list) rfl rfl)
    (.cons (Field.obeys_optional _ Codec.tidies_string nofun) .nil)))

theorem Channel.tidies : Channel.codec.Tidies (tidy Channel.rules) := by
  refine Codec.Tidies.convert (Layout.tidies_openCodec ?_ (by decide)) fun _ => rfl
  exact .cons (Field.obeys_required _ Codec.tidies_snowflake)
    (.cons (Field.obeys_required _ (Codec.tidies_natural _ _ _))
    (.cons (Field.obeys_optional _ Codec.tidies_snowflake nofun)
    (.cons (Field.obeys_optional _ Codec.tidies_string nofun) .nil)))

theorem Message.tidies : Message.codec.Tidies (tidy Message.rules) := by
  refine Codec.Tidies.convert (Layout.tidies_openCodec ?_ (by decide)) fun _ => rfl
  exact .cons (Field.obeys_required _ Codec.tidies_snowflake)
    (.cons (Field.obeys_required _ Codec.tidies_snowflake)
    (.cons (Field.obeys_withDefault _ Codec.tidies_string rfl rfl)
    (.cons (Field.obeys_optional _ User.tidies nofun) .nil)))

------------------------------------------------------------------------------------------
-- Records that survive
------------------------------------------------------------------------------------------

/-- A type of records, with what becomes of an object that is read as one and written again. -/
structure RecordType (α : Type) where
  layout : Layout
  codec : Codec α
  /-- The members of a record that no field reads. -/
  extra : α → Object
  rules : List Rule

/-- A record that was read from a value is written as this value, changed by the rules alone. -/
structure RecordType.Survives {α : Type} (records : RecordType α) (value : Value) (x : α)
    : Prop where
  /-- The members beside the fields have none of the fields' keys. -/
  apart : ∀ member ∈ (records.extra x).members, member.1 ∉ fieldNames records.layout.fields
  written : (records.codec.write x).normalise = tidy records.rules value
  /-- Under each key stands what the rules say, and what stood there if no field has the key. -/
  members
    : ∃ before after,
        value = .object before
        ∧ (records.codec.write x).normalise = .object after
        ∧ (after.map Prod.fst).Nodup
        ∧ (∀ key, Keyed.get? key after = keptUnder records.rules key (Keyed.get? key before))
        ∧ ∀ key, key ∉ fieldNames records.layout.fields
            → Keyed.get? key after = Keyed.get? key before
  again : records.codec.ofValue (records.codec.write x).normalise = .ok x
  /-- Nothing changes any more after the first time. -/
  settled : tidy records.rules (tidy records.rules value) = tidy records.rules value

/-- Records of an open layout survive if its fields obey the rules. -/
theorem RecordType.survives {α : Type} (records : RecordType α) {forth : Cells records.layout.fields × Object → α}
    {back : α → Cells records.layout.fields × Object}
    (same : records.codec = records.layout.openCodec.convert forth back)
    (beside : ∀ x, records.extra (forth x) = x.2)
    (names : fieldNames records.layout.fields = records.rules.map Rule.name)
    (single : (records.rules.map Rule.name).Nodup)
    (tidies : records.codec.Tidies (tidy records.rules))
    {value : Value} (normal : value.normalise = value) {x : α}
    (read : records.codec.ofValue value = .ok x)
    : records.Survives value x := by
  have written := tidies.writes normal read
  have again := tidies.rereads normal read
  rw [same] at read
  simp only [Codec.convert] at read
  cases inside : records.layout.openCodec.ofValue value with
  | error found =>
      rw [inside] at read
      cases read
  | ok y =>
      rw [inside] at read
      obtain rfl := Except.ok.inj read
      obtain ⟨before, rfl, -⟩ := Layout.ofValue_openCodec_eq_ok inside
      obtain ⟨after, result, ascending, found⟩ := exists_tidy_object records.rules before
      exact {
        apart := by
          rw [beside]
          exact Layout.apart_openCodec (names ▸ single) normal inside
        written := written
        members := by
          refine ⟨before, after, rfl, written.trans result, ascending.nodup, found, ?_⟩
          intro key unnamed
          rw [found, keptUnder_of_not_mem (names ▸ unnamed)]
        again := written ▸ again
        settled := by
          have tidied := written ▸ Value.normalise_normalise (records.codec.write (forth y))
          exact (tidies.writes tidied again).symm.trans written
      }

def User.records : RecordType User := ⟨User.layout, User.codec, User.extra, User.rules⟩

def UserGuild.records : RecordType UserGuild :=
  ⟨UserGuild.layout, UserGuild.codec, UserGuild.extra, UserGuild.rules⟩

def Guild.records : RecordType Guild := ⟨Guild.layout, Guild.codec, Guild.extra, Guild.rules⟩

def Member.records : RecordType Member :=
  ⟨Member.layout, Member.codec, Member.extra, Member.rules⟩

def Channel.records : RecordType Channel :=
  ⟨Channel.layout, Channel.codec, Channel.extra, Channel.rules⟩

def Message.records : RecordType Message :=
  ⟨Message.layout, Message.codec, Message.extra, Message.rules⟩

/--
Every record that is read from a value survives: the user, the listed guild, the guild, the
member, the channel and the message.
-/
theorem records_survive {value : Value} (normal : value.normalise = value)
    : (∀ x, User.codec.ofValue value = .ok x → User.records.Survives value x)
      ∧ (∀ x, UserGuild.codec.ofValue value = .ok x → UserGuild.records.Survives value x)
      ∧ (∀ x, Guild.codec.ofValue value = .ok x → Guild.records.Survives value x)
      ∧ (∀ x, Member.codec.ofValue value = .ok x → Member.records.Survives value x)
      ∧ (∀ x, Channel.codec.ofValue value = .ok x → Channel.records.Survives value x)
      ∧ ∀ x, Message.codec.ofValue value = .ok x → Message.records.Survives value x :=
  ⟨fun _ => User.records.survives rfl (fun _ => rfl) rfl (by decide) User.tidies normal,
    fun _ => UserGuild.records.survives rfl (fun _ => rfl) rfl (by decide) UserGuild.tidies normal,
    fun _ => Guild.records.survives rfl (fun _ => rfl) rfl (by decide) Guild.tidies normal,
    fun _ => Member.records.survives rfl (fun _ => rfl) rfl (by decide) Member.tidies normal,
    fun _ => Channel.records.survives rfl (fun _ => rfl) rfl (by decide) Channel.tidies normal,
    fun _ => Message.records.survives rfl (fun _ => rfl) rfl (by decide) Message.tidies normal⟩

/-- An object that can be read as a record of any type. -/
def motley : Value :=
  .object
    [("author", .null), ("channel_id", .string "+12"), ("flags", .array [.null, .boolean true]),
      ("guild_id", .null), ("id", .string "007"), ("name", .string "all"),
      ("owner_id", .number (.integer 5 (by decide))),
      ("roles", .array [.number (.integer 3 (by decide)), .string "04"]),
      ("type", .number (.integer 2 (by decide))),
      ("user", .object [("id", .number (.integer 8 (by decide))), ("username", .string "nested")]),
      ("username", .string "top")]

theorem records_survive_of_motley
    : motley.normalise = motley
      ∧ (∃ x, User.codec.ofValue motley = .ok x ∧ User.records.Survives motley x)
      ∧ (∃ x, UserGuild.codec.ofValue motley = .ok x ∧ UserGuild.records.Survives motley x)
      ∧ (∃ x, Guild.codec.ofValue motley = .ok x ∧ Guild.records.Survives motley x)
      ∧ (∃ x, Member.codec.ofValue motley = .ok x ∧ Member.records.Survives motley x)
      ∧ (∃ x, Channel.codec.ofValue motley = .ok x ∧ Channel.records.Survives motley x)
      ∧ ∃ x, Message.codec.ofValue motley = .ok x ∧ Message.records.Survives motley x :=
  have normal : motley.normalise = motley := by rfl
  have ⟨user, userGuild, guild, member, channel, message⟩ := records_survive normal
  ⟨normal, ⟨_, rfl, user _ rfl⟩, ⟨_, rfl, userGuild _ rfl⟩, ⟨_, rfl, guild _ rfl⟩,
    ⟨_, rfl, member _ rfl⟩, ⟨_, rfl, channel _ rfl⟩, ⟨_, rfl, message _ rfl⟩⟩

end DiscordRest
