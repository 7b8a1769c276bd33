import Mathlib.Logic.Function.Basic
import DiscordRest.Operation
import DiscordRest.Proofs.Http.Target
import DiscordRest.Proofs.Json.MemberOrder
import DiscordRest.Proofs.Json.Return

/-!
Calls that are recognised. The operation that a call is made for can be told from its method,
path, query and body, and so can all arguments of the operation; different operations, or the same
one with different arguments, are never asked for by the same call.
-/

namespace DiscordRest

open Json Paging

------------------------------------------------------------------------------------------
-- Pages
------------------------------------------------------------------------------------------

namespace Paging

/-- The page that some parameters ask for: the first one is the cursor, the other one the limit. -/
def PageRequest.ofParameters? (parameters : TextMap) : Option PageRequest :=
  match parameters.entries with
  | [(name, cursor), (_, limit)] =>
    match Snowflake.ofText? cursor, Text.readUnsigned 10 (UInt32.size - 1) limit.toList with
    | some cursor, .ok limit =>
      some ⟨if name = Direction.after.name then .after else .before, cursor, .ofNat limit⟩
    | _, _ => none
  | _ => none

theorem PageRequest.ofParameters?_parameters (page : PageRequest)
    : ofParameters? page.parameters = some page := by
  obtain ⟨direction, cursor, limit⟩ := page
  have read : Text.readUnsigned 10 (UInt32.size - 1) (Text.decimal limit.toNat).toList
      = .ok limit.toNat := by
    refine Text.readUnsigned_eq_ok_iff.mpr ⟨_, Or.inl rfl, ?_, Nat.le_pred_of_lt limit.toNat_lt⟩
    rw [Text.decimal, String.toList_ofList]
    exact Text.isNumeral_toDigits _
  simp only [ofParameters?, Http.entries_parameters, Snowflake.ofText?_text, read,
    UInt32.ofNat_toNat]
  cases direction <;> rfl

theorem Direction.name_ne_limitName (direction : Direction) : direction.name ≠ limitName := by
  cases direction <;> decide

end Paging

------------------------------------------------------------------------------------------
-- Paths
------------------------------------------------------------------------------------------

/-- The parts of a path between slashes. -/
def segments (path : String) : List String :=
  (Url.splitAt '/' path.toList).map String.ofList

theorem segments_append (path rest : String)
    : segments (path ++ "/" ++ rest) = segments path ++ segments rest := by
  have text : (path ++ "/" ++ rest).toList = path.toList ++ '/' :: rest.toList := by simp
  rw [segments, text, Url.splitAt_append_cons, List.map_append]
  rfl

theorem segments_text (id : Snowflake) : segments id.text = [id.text] := by
  have free : '/' ∉ id.text.toList := by
    intro member
    rw [Snowflake.toList_text] at member
    exact absurd (Text.isDigit_of_mem_toDigits member) (by decide)
  rw [segments, Url.splitAt_of_not_mem free, List.map_singleton, String.ofList_toList]

------------------------------------------------------------------------------------------
-- Bodies
------------------------------------------------------------------------------------------

theorem UserEdit.ofValue_normalise_write (edit : UserEdit)
    : codec.ofValue (codec.write edit).normalise = .ok edit := by
  refine Except.map_eq_ok_iff.mpr ⟨(edit.username, edit.avatar, ()), ?_, rfl⟩
  refine layout.ofValue_normalise_write_closedCodec (by decide) ?_ ?_
  · simp only [layout, List.forall_mem_cons]
    exact ⟨Codec.ignoresOrder_string.option, Codec.ignoresOrder_string.option, nofun⟩
  · have strings := fun text : String => Codec.returns_string Nat.one_pos text
    exact ⟨Field.returns_optional _ (fun _ _ => strings _) nofun,
      Field.returns_optional _ (fun _ _ => strings _) nofun, trivial⟩

theorem GuildRequest.ofValue_normalise_write (request : GuildRequest)
    : codec.ofValue (codec.write request).normalise = .ok request := by
  refine Except.map_eq_ok_iff.mpr ⟨(request.name, request.icon, ()), ?_, rfl⟩
  refine layout.ofValue_normalise_write_closedCodec (by decide) ?_ ?_
  · simp only [layout, List.forall_mem_cons]
    exact ⟨Codec.ignoresOrder_string, Codec.ignoresOrder_string.option, nofun⟩
  · have strings := fun text : String => Codec.returns_string Nat.one_pos text
    exact ⟨Field.returns_required _ (strings _),
      Field.returns_optional _ (fun _ _ => strings _) nofun, trivial⟩

namespace Operation

theorem segments_guildPath (id : Snowflake) : segments (guildPath id) = ["guilds", id.text] := by
  have path : guildPath id = "guilds" ++ "/" ++ id.text := by simp [guildPath]
  rw [path, segments_append, segments_text]
  rfl

theorem segments_membersPath (guild : Snowflake)
    : segments (membersPath guild) = ["guilds", guild.text, "members"] := by
  have path : membersPath guild = guildPath guild ++ "/" ++ "members" := by
    simp [membersPath, String.append_assoc]
  rw [path, segments_append, segments_guildPath]
  rfl

theorem segments_channelPath (id : Snowflake)
    : segments (channelPath id) = ["channels", id.text] := by
  have path : channelPath id = "channels" ++ "/" ++ id.text := by simp [channelPath]
  rw [path, segments_append, segments_text]
  rfl

theorem segments_messagesPath (channel : Snowflake)
    : segments (messagesPath channel) = ["channels", channel.text, "messages"] := by
  have path : messagesPath channel = channelPath channel ++ "/" ++ "messages" := by
    simp [messagesPath, String.append_assoc]
  rw [path, segments_append, segments_channelPath]
  rfl

------------------------------------------------------------------------------------------
-- Operations
------------------------------------------------------------------------------------------

/-- The operation that asks for what stands at a path, given by its parts. -/
def ofGet? (query : TextMap) : List String → Option Operation
  | ["users", name] =>
    match Snowflake.ofText? name with
    | some id => some (user id)
    | none => if name = "@me" then some currentUser else none
  | ["guilds", name] => (Snowflake.ofText? name).map guild
  | ["channels", name] => (Snowflake.ofText? name).map channel
  | ["users", "@me", "guilds"] => (PageRequest.ofParameters? query).map currentUserGuilds
  | ["guilds", name, "members"] =>
    (Snowflake.ofText? name).bind fun id =>
      (PageRequest.ofParameters? query).map (guildMembers id)
  | ["channels", name, "messages"] =>
    (Snowflake.ofText? name).bind fun id =>
      (PageRequest.ofParameters? query).map (messages id)
  | ["guilds", name, "members", member] =>
    (Snowflake.ofText? name).bind fun id => (Snowflake.ofText? member).map (guildMember id)
  | ["channels", name, "messages", posted] =>
    (Snowflake.ofText? name).bind fun id => (Snowflake.ofText? posted).map (message id)
  | _ => none

/-- The operation that a request to a router is made for. -/
def ofRequest? (method path : String) (query : TextMap) (body : Option Value) : Option Operation :=
  match method, body with
  | "GET", none => ofGet? query (segments path)
  | "PATCH", some body => (UserEdit.codec.ofValue body).toOption.map editCurrentUser
  | "POST", some body => (GuildRequest.codec.ofValue body).toOption.map createGuild
  | _, _ => none

theorem ofRequest?_get (path : String) (query : TextMap)
    : ofRequest? "GET" path query none = ofGet? query (segments path) := by
  simp only [ofRequest?]

theorem ofRequest?_patch (path : String) (query : TextMap) (body : Value)
    : ofRequest? "PATCH" path query (some body)
      = (UserEdit.codec.ofValue body).toOption.map editCurrentUser := by
  simp only [ofRequest?]

theorem ofRequest?_post (path : String) (query : TextMap) (body : Value)
    : ofRequest? "POST" path query (some body)
      = (GuildRequest.codec.ofValue body).toOption.map createGuild := by
  simp only [ofRequest?]

/-- Every operation is recognised in the request for it, one case for each. -/
theorem ofRequest?_call (operation : Operation)
    : ofRequest? operation.call.method operation.call.path operation.call.options.query
        operation.call.options.body
      = some operation := by
  cases operation with
  | currentUser => rfl
  | user id =>
      refine (ofRequest?_get ("users/" ++ id.text) _).trans ?_
      have path : "users/" ++ id.text = "users" ++ "/" ++ id.text := by simp
      rw [path, segments_append, segments_text]
      show ofGet? _ ["users", id.text] = _
      simp only [ofGet?, Snowflake.ofText?_text]
  | editCurrentUser edit =>
      refine (ofRequest?_patch _ _ (UserEdit.codec.write edit).normalise).trans ?_
      rw [UserEdit.ofValue_normalise_write]
      rfl
  | currentUserGuilds page =>
      refine (ofRequest?_get (currentUserPath ++ "/guilds") page.parameters).trans ?_
      have path : segments (currentUserPath ++ "/guilds") = ["users", "@me", "guilds"] := by rfl
      simp only [path, ofGet?, PageRequest.ofParameters?_parameters, Option.map_some]
  | guild id =>
      refine (ofRequest?_get (guildPath id) _).trans ?_
      simp only [segments_guildPath, ofGet?, Snowflake.ofText?_text, Option.map_some]
  | createGuild request =>
      refine (ofRequest?_post _ _ (GuildRequest.codec.write request).normalise).trans ?_
      rw [GuildRequest.ofValue_normalise_write]
      rfl
  | guildMember guildId userId =>
      refine (ofRequest?_get (membersPath guildId ++ "/" ++ userId.text) _).trans ?_
      rw [segments_append, segments_membersPath, segments_text]
      show ofGet? _ ["guilds", guildId.text, "members", userId.text] = _
      simp only [ofGet?, Snowflake.ofText?_text, Option.bind_some, Option.map_some]
  | guildMembers guildId page =>
      refine (ofRequest?_get (membersPath guildId) page.parameters).trans ?_
      simp only [segments_membersPath, ofGet?, Snowflake.ofText?_text, Option.bind_some,
        PageRequest.ofParameters?_parameters, Option.map_some]
  | channel id =>
      refine (ofRequest?_get (channelPath id) _).trans ?_
      simp only [segments_channelPath, ofGet?, Snowflake.ofText?_text, Option.map_some]
  | message channelId id =>
      refine (ofRequest?_get (messagesPath channelId ++ "/" ++ id.text) _).trans ?_
      rw [segments_append, segments_messagesPath, segments_text]
      show ofGet? _ ["channels", channelId.text, "messages", id.text] = _
      simp only [ofGet?, Snowflake.ofText?_text, Option.bind_some, Option.map_some]
  | messages channelId page =>
      refine (ofRequest?_get (messagesPath channelId) page.parameters).trans ?_
      simp only [segments_messagesPath, ofGet?, Snowflake.ofText?_text, Option.bind_some,
        PageRequest.ofParameters?_parameters, Option.map_some]

end Operation

/--
The method, the path, the query and the body of a request tell the operation and its arguments.
The query of a page has two keys, and tells the direction, the cursor and the limit.
-/
theorem requests_identify_operations
    : (Function.Injective fun operation : Operation =>
        (operation.call.method, operation.call.path, operation.call.options.query,
          operation.call.options.body))
      ∧ (∀ page : PageRequest,
          page.parameters.entries.map Prod.fst = [page.direction.name, limitName]
          ∧ page.direction.name ≠ limitName)
      ∧ Function.Injective PageRequest.parameters := by
  refine ⟨?_, ?_, ?_⟩
  · intro a b same
    simp only [Prod.mk.injEq] at same
    obtain ⟨method, path, query, body⟩ := same
    refine Option.some.inj ?_
    rw [← a.ofRequest?_call, method, path, query, body, b.ofRequest?_call]
  · intro page
    rw [Http.entries_parameters]
    exact ⟨rfl, page.direction.name_ne_limitName⟩
  · intro a b same
    refine Option.some.inj ?_
    rw [← a.ofParameters?_parameters, same, b.ofParameters?_parameters]

end DiscordRest
