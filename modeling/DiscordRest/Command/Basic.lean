import DiscordRest.Snowflake

/-! Commands of the program: what a command line asks for. -/

namespace DiscordRest

/-- How much a listing fetches at a time, and where it stops. -/
structure ListingOptions where
  /-- The number of records on a page; the settings decide if it is missing. -/
  pageSize : Option UInt32
  /-- The greatest number of records. -/
  maxRecords : Option UInt64
  deriving DecidableEq, Repr

/-- A command. -/
inductive Command where
  /-- Shows the own user. -/
  | me
  /-- Lists the guilds of the own user. -/
  | guilds (after : Option Snowflake) (options : ListingOptions)
  /-- Lists the members of a guild. -/
  | members (guild : Snowflake) (after : Option Snowflake) (options : ListingOptions)
  /-- Lists the messages of a channel. -/
  | messages (channel : Snowflake) (before : Option Snowflake) (options : ListingOptions)
  deriving DecidableEq, Repr

/-- A command line that was understood. -/
structure CommandLine where
  /-- The file with the settings. -/
  config : Option String
  /-- Whether details are reported as well. -/
  verbose : Bool
  /-- The command. -/
  command : Command
  deriving DecidableEq, Repr

end DiscordRest
