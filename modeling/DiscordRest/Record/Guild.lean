import DiscordRest.Record.User

/-! Guilds and their members: the records that the service sends, and the request for a guild. -/

namespace DiscordRest

open Json

/-- A guild as it is listed for one of its members. -/
structure UserGuild where
  /-- The guild's identifier. -/
  id : Snowflake
  /-- The guild's name. -/
  name : String
  /-- The hash of the icon picture. -/
  icon : Option String
  /-- Whether the listing user owns the guild. -/
  owner : Bool
  /-- The listing user's permissions, a set of bits as a numeral. -/
  permissions : Option String
  /-- All further members of the record. -/
  extra : Object

namespace UserGuild

/-- The layout of a listed guild. -/
def layout : Layout :=
  ⟨"UserGuildData",
    [.required "id" .snowflake, .required "name" .string, .optional "icon" .string,
      .withDefault "owner" .boolean false, .optional "permissions" .string]⟩

/-- How listed guilds are read and written. -/
def codec : Codec UserGuild :=
  layout.openCodec.convert
    (fun ((id, name, icon, owner, permissions, ()), extra) =>
      ⟨id, name, icon, owner, permissions, extra⟩)
    fun guild =>
      ((guild.id, guild.name, guild.icon, guild.owner, guild.permissions, ()), guild.extra)

end UserGuild

/-- A guild. -/
structure Guild where
  /-- The guild's identifier. -/
  id : Snowflake
  /-- The guild's name. -/
  name : String
  /-- The user who owns the guild. -/
  ownerId : Option Snowflake
  /-- All further members of the record. -/
  extra : Object

namespace Guild

/-- The layout of a guild record. -/
def layout : Layout :=
  ⟨"GuildData",
    [.required "id" .snowflake, .required "name" .string, .optional "owner_id" .snowflake]⟩

/-- How guild records are read and written. -/
def codec : Codec Guild :=
  layout.openCodec.convert
    (fun ((id, name, ownerId, ()), extra) => ⟨id, name, ownerId, extra⟩)
    fun guild => ((guild.id, guild.name, guild.ownerId, ()), guild.extra)

end Guild

/-- The request for a new guild. -/
structure GuildRequest where
  /-- The name of the new guild. -/
  name : String
  /-- The icon picture, as a data URI. -/
  icon : Option String
  deriving DecidableEq, Repr

namespace GuildRequest

/-- The layout of a request for a guild. -/
def layout : Layout :=
  ⟨"GuildCreateRequest", [.required "name" .string, .optional "icon" .string]⟩

/-- How requests for guilds are read and written. -/
def codec : Codec GuildRequest :=
  layout.closedCodec.convert (fun (name, icon, ()) => ⟨name, icon⟩)
    fun request => (request.name, request.icon, ())

end GuildRequest

/-- A user's membership in a guild. -/
structure Member where
  /-- The user. -/
  user : User
  /-- The user's name in the guild. -/
  nick : Option String
  /-- The roles the user has in the guild. -/
  roles : List Snowflake
  /-- When the user joined the guild. -/
  joinedAt : Option String
  /-- All further members of the record. -/
  extra : Object

namespace Member

/-- The layout of a member record. -/
def layout : Layout :=
  ⟨"MemberData",
    [.required "user" User.codec, .optional "nick" .string,
      .withDefault "roles" (.list .snowflake) [], .optional "joined_at" .string]⟩

/-- How member records are read and written. -/
def codec : Codec Member :=
  layout.openCodec.convert
    (fun ((user, nick, roles, joinedAt, ()), extra) => ⟨user, nick, roles, joinedAt, extra⟩)
    fun member =>
      ((member.user, member.nick, member.roles, member.joinedAt, ()), member.extra)

/-- Members are identified by their users. -/
def id (member : Member) : Snowflake :=
  member.user.id

end Member

end DiscordRest
