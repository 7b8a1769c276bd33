import DiscordRest.Operation

/-!
Handles: the identifiers by which the parts of the service are found again. To make a handle takes
no request; its operation fetches the record behind it.
-/

namespace DiscordRest

/-- A handle of a guild. -/
structure GuildHandle where
  /-- The guild. -/
  id : Snowflake
  deriving DecidableEq, Repr

namespace GuildHandle

/-- The handle of a guild record. -/
def ofGuild (guild : Guild) : GuildHandle := ⟨guild.id⟩

/-- The operation that fetches the guild. -/
def fetch (handle : GuildHandle) : Operation := .guild handle.id

/-- The operation that fetches a member of the guild. -/
def member (handle : GuildHandle) (user : Snowflake) : Operation :=
  .guildMember handle.id user

end GuildHandle

/-- A handle of a user. -/
structure UserHandle where
  /-- The user. -/
  id : Snowflake
  deriving DecidableEq, Repr

namespace UserHandle

/-- The handle of a user record. -/
def ofUser (user : User) : UserHandle := ⟨user.id⟩

/-- The operation that fetches the user. -/
def fetch (handle : UserHandle) : Operation := .user handle.id

end UserHandle

/-- A handle of a user's membership in a guild. -/
structure MemberHandle where
  /-- The guild. -/
  guildId : Snowflake
  /-- The user. -/
  userId : Snowflake
  deriving DecidableEq, Repr

namespace MemberHandle

/-- The handle of a member record, which does not say of which guild it is. -/
def ofMember (guildId : Snowflake) (member : Member) : MemberHandle :=
  ⟨guildId, member.user.id⟩

/-- The operation that fetches the member. -/
def fetch (handle : MemberHandle) : Operation := .guildMember handle.guildId handle.userId

/-- The handle of the guild. -/
def guild (handle : MemberHandle) : GuildHandle := ⟨handle.guildId⟩

/-- The handle of the user. -/
def user (handle : MemberHandle) : UserHandle := ⟨handle.userId⟩

end MemberHandle

/-- A handle of a channel. -/
structure ChannelHandle where
  /-- The channel. -/
  id : Snowflake
  deriving DecidableEq, Repr

namespace ChannelHandle

/-- The handle of a channel record. -/
def ofChannel (channel : Channel) : ChannelHandle := ⟨channel.id⟩

/-- The operation that fetches the channel. -/
def fetch (handle : ChannelHandle) : Operation := .channel handle.id

/-- The operation that fetches a message of the channel. -/
def message (handle : ChannelHandle) (message : Snowflake) : Operation :=
  .message handle.id message

end ChannelHandle

/-- A handle of a message. -/
structure MessageHandle where
  /-- The channel. -/
  channelId : Snowflake
  /-- The message. -/
  id : Snowflake
  deriving DecidableEq, Repr

namespace MessageHandle

/-- The handle of a message record. -/
def ofMessage (message : Message) : MessageHandle := ⟨message.channelId, message.id⟩

/-- The operation that fetches the message. -/
def fetch (handle : MessageHandle) : Operation := .message handle.channelId handle.id

/-- The handle of the channel. -/
def channel (handle : MessageHandle) : ChannelHandle := ⟨handle.channelId⟩

end MessageHandle

end DiscordRest
