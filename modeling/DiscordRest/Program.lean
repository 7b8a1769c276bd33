/-! Name, version and purpose of the command-line program; its requests carry the first two. -/

namespace DiscordRest.Program

/-- The name of the program. -/
def name : String := "cordrest"

/-- The version of the program. -/
def version : String := "0.1.0"

/-- What the program is for. -/
def about : String := "A typed REST facade for the Discord API with lazy cursor pagination"

end DiscordRest.Program
