import DiscordRest.Proofs.Json.Schema
import DiscordRest.Proofs.Record.Kind

/-!
The schemas of records: which members the service must send, which it may leave out, and what each
of them may be. A record is read from just the objects that meet the schema of its kind, and its
fields are what the members stand for.
-/

namespace DiscordRest

open Json Keyed

------------------------------------------------------------------------------------------
-- Which objects are records
------------------------------------------------------------------------------------------

def User.demands : List Demand :=
  [⟨"id", .required, Means.snowflake.Admits⟩, ⟨"username", .required, Means.string.Admits⟩,
    ⟨"global_name", .optional, Means.string.Admits⟩,
    ⟨"avatar", .optional, Means.string.Admits⟩, ⟨"bot", .withDefault, Means.boolean.Admits⟩]

/-- What is asked of the members of a record. -/
def RecordKind.demands : RecordKind → List Demand
  | user => User.demands
  | userGuild =>
    [⟨"id", .required, Means.snowflake.Admits⟩, ⟨"name", .required, Means.string.Admits⟩,
      ⟨"icon", .optional, Means.string.Admits⟩, ⟨"owner", .withDefault, Means.boolean.Admits⟩,
      ⟨"permissions", .optional, Means.string.Admits⟩]
  | guild =>
    [⟨"id", .required, Means.snowflake.Admits⟩, ⟨"name", .required, Means.string.Admits⟩,
      ⟨"owner_id", .optional, Means.snowflake.Admits⟩]
  | member =>
    [⟨"user", .required, Value.Meets User.demands⟩, ⟨"nick", .optional, Means.string.Admits⟩,
      ⟨"roles", .withDefault, Means.snowflake.list.Admits⟩,
      ⟨"joined_at", .optional, Means.string.Admits⟩]
  | channel =>
    [⟨"id", .required, Means.snowflake.Admits⟩, ⟨"type", .required, (Means.natural 255).Admits⟩,
      ⟨"guild_id", .optional, Means.snowflake.Admits⟩, ⟨"name", .optional, Means.string.Admits⟩]
  | message =>
    [⟨"id", .required, Means.snowflake.Admits⟩, ⟨"channel_id", .required, Means.snowflake.Admits⟩,
      ⟨"content", .withDefault, Means.string.Admits⟩,
      ⟨"author", .optional, Value.Meets User.demands⟩]

theorem User.accepts : User.codec.Accepts (Value.Meets User.demands) := by
  have snowflake := Codec.denotes_snowflake.accepts
  have string := Codec.denotes_string.accepts
  refine (Layout.accepts_openCodec ?_ (by decide)).convert _ _
  exact .cons (Field.conforms_required _ snowflake)
    (.cons (Field.conforms_required _ string)
    (.cons (Field.conforms_optional _ string)
    (.cons (Field.conforms_optional _ string)
    (.cons (Field.conforms_withDefault _ _ Codec.denotes_boolean.accepts) .nil))))

/-- Records of all kinds are read from just the objects that meet all demands. -/
theorem RecordKind.accepts (kind : RecordKind) : kind.codec.Accepts (Value.Meets kind.demands) := by
  have snowflake := Codec.denotes_snowflake.accepts
  have string := Codec.denotes_string.accepts
  have boolean := Codec.denotes_boolean.accepts
  cases kind with
  | user => exact User.accepts
  | userGuild =>
      refine (Layout.accepts_openCodec ?_ (by decide)).convert _ _
      exact .cons (Field.conforms_required _ snowflake)
        (.cons (Field.conforms_required _ string)
        (.cons (Field.conforms_optional _ string)
        (.cons (Field.conforms_withDefault _ _ boolean)
        (.cons (Field.conforms_optional _ string) .nil))))
  | guild =>
      refine (Layout.accepts_openCodec ?_ (by decide)).convert _ _
      exact .cons (Field.conforms_required _ snowflake)
        (.cons (Field.conforms_required _ string)
        (.cons (Field.conforms_optional _ snowflake) .nil))
  | member =>
      refine (Layout.accepts_openCodec ?_ (by decide)).convert _ _
      exact .cons (Field.conforms_required _ User.accepts)
        (.cons (Field.conforms_optional _ string)
        (.cons (Field.conforms_withDefault _ _ Codec.denotes_snowflake.list.accepts)
        (.cons (Field.conforms_optional _ string) .nil)))
  | channel =>
      refine (Layout.accepts_openCodec ?_ (by decide)).convert _ _
      exact .cons (Field.conforms_required _ snowflake)
        (.cons (Field.conforms_required _ (Codec.denotes_natural _ _ (by decide)).accepts)
        (.cons (Field.conforms_optional _ snowflake)
        (.cons (Field.conforms_optional _ string) .nil)))
  | message =>
      refine (Layout.accepts_openCodec ?_ (by decide)).convert _ _
      exact .cons (Field.conforms_required _ snowflake)
        (.cons (Field.conforms_required _ snowflake)
        (.cons (Field.conforms_withDefault _ _ string)
        (.cons (Field.conforms_optional _ User.accepts) .nil)))

------------------------------------------------------------------------------------------
-- What members stand for
------------------------------------------------------------------------------------------

/-- The members of an object that have other keys than the given ones. -/
abbrev besides (names : List String) (members : List (String × Value)) : List (String × Value) :=
  members.filter fun member => member.1 ∉ names

/-- The members of an object describe a user. -/
structure User.Describes (members : List (String × Value)) (user : User) : Prop where
  id : Means.snowflake.required (get? "id" members) user.id
  username : Means.string.required (get? "username" members) user.username
  globalName : Means.string.optional (get? "global_name" members) user.globalName
  avatar : Means.string.optional (get? "avatar" members) user.avatar
  bot : Means.boolean.withDefault false (get? "bot" members) user.bot
  extra
    : user.extra.members = besides ["id", "username", "global_name", "avatar", "bot"] members

/-- The members of an object describe a listed guild. -/
structure UserGuild.Describes (members : List (String × Value)) (guild : UserGuild) : Prop where
  id : Means.snowflake.required (get? "id" members) guild.id
  name : Means.string.required (get? "name" members) guild.name
  icon : Means.string.optional (get? "icon" members) guild.icon
  owner : Means.boolean.withDefault false (get? "owner" members) guild.owner
  permissions : Means.string.optional (get? "permissions" members) guild.permissions
  extra : guild.extra.members = besides ["id", "name", "icon", "owner", "permissions"] members

/-- The members of an object describe a guild. -/
structure Guild.Describes (members : List (String × Value)) (guild : Guild) : Prop where
  id : Means.snowflake.required (get? "id" members) guild.id
  name : Means.string.required (get? "name" members) guild.name
  ownerId : Means.snowflake.optional (get? "owner_id" members) guild.ownerId
  extra : guild.extra.members = besides ["id", "name", "owner_id"] members

/-- The members of an object describe a member of a guild. -/
structure Member.Describes (members : List (String × Value)) (member : Member) : Prop where
  user : (Means.object User.Describes).required (get? "user" members) member.user
  nick : Means.string.optional (get? "nick" members) member.nick
  roles : Means.snowflake.list.withDefault [] (get? "roles" members) member.roles
  joinedAt : Means.string.optional (get? "joined_at" members) member.joinedAt
  extra : member.extra.members = besides ["user", "nick", "roles", "joined_at"] members

/-- The members of an object describe a channel. -/
structure Channel.Describes (members : List (String × Value)) (channel : Channel) : Prop where
  id : Means.snowflake.required (get? "id" members) channel.id
  kind : (Means.natural 255).required (get? "type" members) channel.kind
  guildId : Means.snowflake.optional (get? "guild_id" members) channel.guildId
  name : Means.string.optional (get? "name" members) channel.name
  extra : channel.extra.members = besides ["id", "type", "guild_id", "name"] members

/-- The members of an object describe a message. -/
structure Message.Describes (members : List (String × Value)) (message : Message) : Prop where
  id : Means.snowflake.required (get? "id" members) message.id
  channelId : Means.snowflake.required (get? "channel_id" members) message.channelId
  content : Means.string.withDefault "" (get? "content" members) message.content
  author : (Means.object User.Describes).optional (get? "author" members) message.author
  extra : message.extra.members = besides ["id", "channel_id", "content", "author"] members

/-- The members of an object describe a record. -/
def RecordKind.Describes
    : (kind : RecordKind) → List (String × Value) → kind.Carrier → Prop
  | user => User.Describes
  | userGuild => UserGuild.Describes
  | guild => Guild.Describes
  | member => Member.Describes
  | channel => Channel.Describes
  | message => Message.Describes

theorem User.denotes : User.codec.Denotes (.object User.Describes) := by
  refine Layout.denotes_convert (fun _ => rfl) (fun _ => rfl) (by decide) ?_
  intro members user normal
  refine (and_congr_left fun _ => and_congr (Codec.denotes_snowflake.required (normal _))
    (and_congr (Codec.denotes_string.required (normal _))
    (and_congr (Codec.denotes_string.optional (normal _) nofun)
    (and_congr (Codec.denotes_string.optional (normal _) nofun)
    (and_congr (Codec.denotes_boolean.withDefault (normal _)) Iff.rfl))))).trans ⟨?_, ?_⟩
  · rintro ⟨⟨id, username, globalName, avatar, bot, -⟩, extra⟩
    exact ⟨id, username, globalName, avatar, bot, extra⟩
  · rintro ⟨id, username, globalName, avatar, bot, extra⟩
    exact ⟨⟨id, username, globalName, avatar, bot, trivial⟩, extra⟩

/-- A record of any kind is what the members of its object describe. -/
theorem RecordKind.denotes (kind : RecordKind) : kind.codec.Denotes (.object kind.Describes) := by
  cases kind with
  | user => exact User.denotes
  | userGuild =>
      refine Layout.denotes_convert (fun _ => rfl) (fun _ => rfl) (by decide) ?_
      intro members guild normal
      refine (and_congr_left fun _ => and_congr (Codec.denotes_snowflake.required (normal _))
        (and_congr (Codec.denotes_string.required (normal _))
        (and_congr (Codec.denotes_string.optional (normal _) nofun)
        (and_congr (Codec.denotes_boolean.withDefault (normal _))
        (and_congr (Codec.denotes_string.optional (normal _) nofun) Iff.rfl))))).trans ⟨?_, ?_⟩
      · rintro ⟨⟨id, name, icon, owner, permissions, -⟩, extra⟩
        exact ⟨id, name, icon, owner, permissions, extra⟩
      · rintro ⟨id, name, icon, owner, permissions, extra⟩
        exact ⟨⟨id, name, icon, owner, permissions, trivial⟩, extra⟩
  | guild =>
      refine Layout.denotes_convert (fun _ => rfl) (fun _ => rfl) (by decide) ?_
      intro members guild normal
      refine (and_congr_left fun _ => and_congr (Codec.denotes_snowflake.required (normal _))
        (and_congr (Codec.denotes_string.required (normal _))
        (and_congr (Codec.denotes_snowflake.optional (normal _) nofun) Iff.rfl))).trans ⟨?_, ?_⟩
      · rintro ⟨⟨id, name, ownerId, -⟩, extra⟩
        exact ⟨id, name, ownerId, extra⟩
      · rintro ⟨id, name, ownerId, extra⟩
        exact ⟨⟨id, name, ownerId, trivial⟩, extra⟩
  | member =>
      refine Layout.denotes_convert (fun _ => rfl) (fun _ => rfl) (by decide) ?_
      intro members member normal
      refine (and_congr_left fun _ => and_congr (User.denotes.required (normal _))
        (and_congr (Codec.denotes_string.optional (normal _) nofun)
        (and_congr (Codec.denotes_snowflake.list.withDefault (normal _))
        (and_congr (Codec.denotes_string.optional (normal _) nofun) Iff.rfl)))).trans ⟨?_, ?_⟩
      · rintro ⟨⟨user, nick, roles, joinedAt, -⟩, extra⟩
        exact ⟨user, nick, roles, joinedAt, extra⟩
      · rintro ⟨user, nick, roles, joinedAt, extra⟩
        exact ⟨⟨user, nick, roles, joinedAt, trivial⟩, extra⟩
  | channel =>
      refine Layout.denotes_convert (fun _ => rfl) (fun _ => rfl) (by decide) ?_
      intro members channel normal
      refine (and_congr_left fun _ => and_congr (Codec.denotes_snowflake.required (normal _))
        (and_congr ((Codec.denotes_natural _ _ (by decide)).required (normal _))
        (and_congr (Codec.denotes_snowflake.optional (normal _) nofun)
        (and_congr (Codec.denotes_string.optional (normal _) nofun) Iff.rfl)))).trans ⟨?_, ?_⟩
      · rintro ⟨⟨id, kind, guildId, name, -⟩, extra⟩
        exact ⟨id, kind, guildId, name, extra⟩
      · rintro ⟨id, kind, guildId, name, extra⟩
        exact ⟨⟨id, kind, guildId, name, trivial⟩, extra⟩
  | message =>
      refine Layout.denotes_convert (fun _ => rfl) (fun _ => rfl) (by decide) ?_
      intro members message normal
      refine (and_congr_left fun _ => and_congr (Codec.denotes_snowflake.required (normal _))
        (and_congr (Codec.denotes_snowflake.required (normal _))
        (and_congr (Codec.denotes_string.withDefault (normal _))
        (and_congr (User.denotes.optional (normal _) nofun) Iff.rfl)))).trans ⟨?_, ?_⟩
      · rintro ⟨⟨id, channelId, content, author, -⟩, extra⟩
        exact ⟨id, channelId, content, author, extra⟩
      · rintro ⟨id, channelId, content, author, extra⟩
        exact ⟨⟨id, channelId, content, author, trivial⟩, extra⟩

------------------------------------------------------------------------------------------
-- Records of all kinds
------------------------------------------------------------------------------------------

/--
A record is read from a value just where it is an object that meets all demands of its kind,
whatever its other members are; and the record that is read is the one that it describes.
-/
theorem RecordKind.reads_iff_meets (kind : RecordKind) {value : Value}
    (normal : value.normalise = value)
    : ((∃ x, kind.codec.ofValue value = .ok x) ↔ value.Meets kind.demands)
      ∧ ∀ x,
          kind.codec.ofValue value = .ok x
          ↔ ∃ members, value = .object members ∧ kind.Describes members x :=
  ⟨kind.accepts value normal, fun x => kind.denotes value x normal⟩

/-- A message with little more than what must be there, and that as unusual as it may be. -/
def curt : Value :=
  .object
    [("author", .object [("id", .string "+0007"), ("username", .string "")]),
      ("channel_id", .number (.ofWord 18446744073709551615)),
      ("flags", .array [.null]), ("id", .string "18446744073709551615")]

/-- A message whose content is null. -/
def void : Value :=
  .object
    [("channel_id", .string "1"), ("content", .null), ("id", .string "2")]

theorem reads_iff_meets_curt
    : curt.normalise = curt
      ∧ curt.Meets RecordKind.message.demands
      ∧ (∃ x members, Message.codec.ofValue curt = .ok x ∧ curt = .object members
          ∧ Message.Describes members x)
      ∧ void.normalise = void
      ∧ ¬void.Meets RecordKind.message.demands := by
  have curtNormal : curt.normalise = curt := by rfl
  have voidNormal : void.normalise = void := by rfl
  obtain ⟨accepts, describes⟩ := RecordKind.reads_iff_meets .message curtNormal
  obtain ⟨x, read⟩ : ∃ x, Message.codec.ofValue curt = .ok x := ⟨_, rfl⟩
  obtain ⟨members, same, described⟩ := (describes x).mp read
  refine ⟨curtNormal, accepts.mp ⟨x, read⟩, ⟨x, members, read, same, described⟩, voidNormal, ?_⟩
  intro meets
  obtain ⟨x, read⟩ := (RecordKind.reads_iff_meets .message voidNormal).1.mpr meets
  cases read

end DiscordRest
