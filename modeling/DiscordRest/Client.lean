import DiscordRest.Operation
import DiscordRest.Settings

/-!
Clients: they do the operations of the service by way of a router, and walk through its listings
page by page.
-/

namespace DiscordRest

open Http Paging

/-- A client of the service. -/
structure Client where
  /-- The router that all requests go through. -/
  router : Router
  deriving DecidableEq

namespace Client

/-- The client for some settings, which need not have been checked. -/
def ofSettings (settings : Settings) : Except Error Client :=
  (Router.ofSettings settings.router).map Client.mk

/-- Does an operation. -/
def perform (client : Client) (operation : Operation) (network : Network)
    : Reply Network operation.Result :=
  let call := operation.call
  client.router.requestJson operation.codec call.method call.path call.options network

/-! ### Listings -/

/-- The number of members on a page unless something else is said. -/
def memberPageSize : UInt32 := 1000

/-- The guilds of the own user, page by page. -/
def guilds (client : Client) : Source Network UserGuild := fun network page =>
  client.perform (.currentUserGuilds page) network

/-- The members of a guild, page by page. -/
def members (client : Client) (guild : Snowflake) : Source Network Member := fun network page =>
  client.perform (.guildMembers guild page) network

/-- The messages of a channel, page by page. -/
def messages (client : Client) (channel : Snowflake) : Source Network Message :=
  fun network page => client.perform (.messages channel page) network

/-- How the guilds of the own user are paged unless something else is said. -/
def guildPaginator : Paginator := .after defaultPageSize

/-- How the members of a guild are paged unless something else is said. -/
def memberPaginator : Paginator := .after memberPageSize

/-- How the messages of a channel are paged unless something else is said: back from a start. -/
def messagePaginator (start : Snowflake) : Paginator :=
  (Paginator.before defaultPageSize).startAt start

end Client

end DiscordRest
