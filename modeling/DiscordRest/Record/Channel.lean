import DiscordRest.Record.User

/-! Channels and the messages posted in them. -/

namespace DiscordRest

open Json

/-- The number of a channel's type: one byte. -/
abbrev ChannelKind : Type := { n : Nat // n ≤ 255 }

/-- A channel of any type. -/
structure Channel where
  /-- The channel's identifier. -/
  id : Snowflake
  /-- The channel's type. -/
  kind : ChannelKind
  /-- The guild the channel belongs to. -/
  guildId : Option Snowflake
  /-- The channel's name. -/
  name : Option String
  /-- All further members of the record. -/
  extra : Object

namespace Channel

/-- The layout of a channel record. -/
def layout : Layout :=
  ⟨"ChannelData",
    [.required "id" .snowflake, .required "type" (.natural "u8" 255 (by decide)),
      .optional "guild_id" .snowflake, .optional "name" .string]⟩

/-- How channel records are read and written. -/
def codec : Codec Channel :=
  layout.openCodec.convert
    (fun ((id, kind, guildId, name, ()), extra) => ⟨id, kind, guildId, name, extra⟩)
    fun channel =>
      ((channel.id, channel.kind, channel.guildId, channel.name, ()), channel.extra)

end Channel

/-- A message posted in a channel. -/
structure Message where
  /-- The message's identifier. -/
  id : Snowflake
  /-- The channel the message was posted in. -/
  channelId : Snowflake
  /-- The text of the message. -/
  content : String
  /-- The user who posted the message. -/
  author : Option User
  /-- All further members of the record. -/
  extra : Object

namespace Message

/-- The layout of a message record. -/
def layout : Layout :=
  ⟨"MessageData",
    [.required "id" .snowflake, .required "channel_id" .snowflake,
      .withDefault "content" .string "", .optional "author" User.codec]⟩

/-- How message records are read and written. -/
def codec : Codec Message :=
  layout.openCodec.convert
    (fun ((id, channelId, content, author, ()), extra) =>
      ⟨id, channelId, content, author, extra⟩)
    fun message =>
      ((message.id, message.channelId, message.content, message.author, ()), message.extra)

end Message

end DiscordRest
