import DiscordRest.Http.Router
import DiscordRest.Record.Channel
import DiscordRest.Record.Guild
import DiscordRest.Paging.Paginator

/-!
Operations of the service: what can be asked of it with which arguments, how each is put into a
request, and what its answer holds.
-/

namespace DiscordRest

open Paging

/-- An operation with its arguments. -/
inductive Operation where
  /-- Gives the own user. -/
  | currentUser
  /-- Gives a user. -/
  | user (id : Snowflake)
  /-- Changes the own user. -/
  | editCurrentUser (edit : UserEdit)
  /-- Gives a page of the guilds that the own user belongs to. -/
  | currentUserGuilds (page : PageRequest)
  /-- Gives a guild. -/
  | guild (id : Snowflake)
  /-- Makes a guild. -/
  | createGuild (request : GuildRequest)
  /-- Gives a member of a guild. -/
  | guildMember (guildId userId : Snowflake)
  /-- Gives a page of the members of a guild. -/
  | guildMembers (guildId : Snowflake) (page : PageRequest)
  /-- Gives a channel. -/
  | channel (id : Snowflake)
  /-- Gives a message of a channel. -/
  | message (channelId id : Snowflake)
  /-- Gives a page of the messages of a channel. -/
  | messages (channelId : Snowflake) (page : PageRequest)
  deriving DecidableEq, Repr

/-- What a router is asked for. -/
structure Call where
  /-- The method. -/
  method : String
  /-- The path. -/
  path : String
  /-- The pairs of the query. -/
  query : TextMap
  /-- The body. -/
  body : Option Json.Value

/-- What the request for a call carries. -/
def Call.options (call : Call) : Http.RequestOptions :=
  { query := call.query, headers := .empty, body := call.body.map Json.Value.normalise }

namespace Operation

/-- What the answer of an operation holds. -/
def Result : Operation → Type
  | currentUser => User
  | user _ => User
  | editCurrentUser _ => User
  | currentUserGuilds _ => List UserGuild
  | guild _ => Guild
  | createGuild _ => Guild
  | guildMember _ _ => Member
  | guildMembers _ _ => List Member
  | channel _ => Channel
  | message _ _ => Message
  | messages _ _ => List Message

/-- How the answer of an operation is read. -/
def codec : (operation : Operation) → Json.Codec operation.Result
  | currentUser => User.codec
  | user _ => User.codec
  | editCurrentUser _ => User.codec
  | currentUserGuilds _ => .list UserGuild.codec
  | guild _ => Guild.codec
  | createGuild _ => Guild.codec
  | guildMember _ _ => Member.codec
  | guildMembers _ _ => .list Member.codec
  | channel _ => Channel.codec
  | message _ _ => Message.codec
  | messages _ _ => .list Message.codec

/-- The call that asks for a path. -/
def get (path : String) : Call :=
  ⟨"GET", path, .empty, none⟩

/-- The call that asks for a page of a path. -/
def getPage (path : String) (page : PageRequest) : Call :=
  ⟨"GET", path, page.parameters, none⟩

/-- The path of the own user. -/
def currentUserPath : String := "users/@me"

/-- The path of a guild. -/
def guildPath (id : Snowflake) : String :=
  "guilds/" ++ id.text

/-- The path of the members of a guild. -/
def membersPath (guild : Snowflake) : String :=
  guildPath guild ++ "/members"

/-- The path of a channel. -/
def channelPath (id : Snowflake) : String :=
  "channels/" ++ id.text

/-- The path of the messages of a channel. -/
def messagesPath (channel : Snowflake) : String :=
  channelPath channel ++ "/messages"

/-- The call for an operation. -/
def call : Operation → Call
  | currentUser => get currentUserPath
  | user id => get ("users/" ++ id.text)
  | editCurrentUser edit =>
    ⟨"PATCH", currentUserPath, .empty, some (UserEdit.codec.write edit)⟩
  | currentUserGuilds page => getPage (currentUserPath ++ "/guilds") page
  | guild id => get (guildPath id)
  | createGuild request => ⟨"POST", "guilds", .empty, some (GuildRequest.codec.write request)⟩
  | guildMember guildId userId => get (membersPath guildId ++ "/" ++ userId.text)
  | guildMembers guildId page => getPage (membersPath guildId) page
  | channel id => get (channelPath id)
  | message channelId id => get (messagesPath channelId ++ "/" ++ id.text)
  | messages channelId page => getPage (messagesPath channelId) page

end Operation

end DiscordRest
