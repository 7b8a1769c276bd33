import DiscordRest.Json.Layout

/-! Users: the record that the service sends, and the request that changes the own one. -/

namespace DiscordRest

open Json

/-- A user account. -/
structure User where
  /-- The user's identifier. -/
  id : Snowflake
  /-- The name by which the user signs in. -/
  username : String
  /-- The name that others see. -/
  globalName : Option String
  /-- The hash of the avatar picture. -/
  avatar : Option String
  /-- Whether the account belongs to a program. -/
  bot : Bool
  /-- All further members of the record. -/
  extra : Object

namespace User

/-- The layout of a user record. -/
def layout : Layout :=
  ⟨"UserData",
    [.required "id" .snowflake, .required "username" .string, .optional "global_name" .string,
      .optional "avatar" .string, .withDefault "bot" .boolean false]⟩

/-- How user records are read and written. -/
def codec : Codec User :=
  layout.openCodec.convert
    (fun ((id, username, globalName, avatar, bot, ()), extra) =>
      ⟨id, username, globalName, avatar, bot, extra⟩)
    fun user =>
      ((user.id, user.username, user.globalName, user.avatar, user.bot, ()), user.extra)

end User

/-- The changes that may be made to the own user; what is missing stays as it is. -/
structure UserEdit where
  /-- The new user name. -/
  username : Option String
  /-- The new avatar picture, as a data URI. -/
  avatar : Option String
  deriving DecidableEq, Repr

namespace UserEdit

/-- The layout of a change request. -/
def layout : Layout :=
  ⟨"UserModifyRequest", [.optional "username" .string, .optional "avatar" .string]⟩

/-- How change requests are read and written. -/
def codec : Codec UserEdit :=
  layout.closedCodec.convert (fun (username, avatar, ()) => ⟨username, avatar⟩)
    fun edit => (edit.username, edit.avatar, ())

end UserEdit

end DiscordRest
