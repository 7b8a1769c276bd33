import DiscordRest.Proofs.Json.Return
import DiscordRest.Proofs.Record.Kind

/-!
All that is sent or received survives the way through a text: the compact text of a value is read
as this value. Of the members that no field reads it is asked that they have none of the fields'
keys, hold no floating-point numbers and do not nest too deep; nothing is asked of the fields.
-/

namespace DiscordRest

open Json

------------------------------------------------------------------------------------------
-- Reading a text as reading its value
------------------------------------------------------------------------------------------

theorem inherited_agrees : Inherited fun _ codec => codec.Agrees where
  string := Codec.agrees_string
  boolean := Codec.agrees_boolean
  natural := Codec.agrees_natural
  snowflake := Codec.agrees_snowflake
  option inside := inside.option
  list inside := inside.list
  convert inside := inside.convert
  openCodec _ inside := Layout.agrees_openCodec inside

/-- Records of all kinds are read from texts as from values. -/
theorem RecordKind.agrees (kind : RecordKind) : kind.codec.Agrees :=
  kind.codec_inherits inherited_agrees

------------------------------------------------------------------------------------------
-- Reading back what was written
------------------------------------------------------------------------------------------

/--
The members beside the fields of a record, and of the user in it, have none of the fields' keys
and no floating-point numbers in them, and the record with them nests to a depth of `levels` at
most.
-/
def RecordKind.Plain (levels : Nat) : (kind : RecordKind) → kind.Carrier → Prop
  | user, (x : User) => x.extra.Beside User.layout.fields levels
  | userGuild, (x : UserGuild) => x.extra.Beside UserGuild.layout.fields levels
  | guild, (x : Guild) => x.extra.Beside Guild.layout.fields levels
  | member, (x : Member) =>
    x.extra.Beside Member.layout.fields levels
    ∧ x.user.extra.Beside User.layout.fields (levels - 1)
  | channel, (x : Channel) => x.extra.Beside Channel.layout.fields levels
  | message, (x : Message) =>
    x.extra.Beside Message.layout.fields levels
    ∧ ∀ author, x.author = some author → author.extra.Beside User.layout.fields (levels - 1)

theorem User.returns {levels : Nat} (positive : 0 < levels) {user : User}
    (beside : user.extra.Beside User.layout.fields levels)
    : User.codec.Returns (levels + 1) user := by
  refine Codec.Returns.convert (Layout.returns_openCodec (by decide) ?_ positive beside) rfl
  exact ⟨Field.returns_required _ (Codec.returns_snowflake positive _),
    Field.returns_required _ (Codec.returns_string positive _),
    Field.returns_optional _ (fun _ _ => Codec.returns_string positive _) nofun,
    Field.returns_optional _ (fun _ _ => Codec.returns_string positive _) nofun,
    Field.returns_withDefault _ _ (Codec.returns_boolean positive _), trivial⟩

/-- Plain records of all kinds are read back. -/
theorem RecordKind.returns (kind : RecordKind) {levels : Nat} (deep : 1 < levels)
    {x : kind.Carrier} (plain : kind.Plain levels x)
    : kind.codec.Returns (levels + 1) x := by
  obtain ⟨inside, rfl⟩ := Nat.exists_eq_succ_of_ne_zero (by omega : levels ≠ 0)
  have positive : 0 < inside + 1 := Nat.succ_pos inside
  have string := fun text => Codec.returns_string positive text
  have snowflake := fun id => Codec.returns_snowflake positive id
  cases kind with
  | user => exact User.returns positive plain
  | userGuild =>
      refine Codec.Returns.convert (Layout.returns_openCodec (by decide) ?_ positive plain) rfl
      exact ⟨Field.returns_required _ (snowflake _), Field.returns_required _ (string _),
        Field.returns_optional _ (fun _ _ => string _) nofun,
        Field.returns_withDefault _ _ (Codec.returns_boolean positive _),
        Field.returns_optional _ (fun _ _ => string _) nofun, trivial⟩
  | guild =>
      refine Codec.Returns.convert (Layout.returns_openCodec (by decide) ?_ positive plain) rfl
      exact ⟨Field.returns_required _ (snowflake _), Field.returns_required _ (string _),
        Field.returns_optional _ (fun _ _ => snowflake _) nofun, trivial⟩
  | member =>
      obtain ⟨beside, user⟩ := plain
      refine Codec.Returns.convert (Layout.returns_openCodec (by decide) ?_ positive beside) rfl
      have roles : (Codec.list .snowflake).Returns (inside + 1) x.roles :=
        Codec.returns_list (fun id _ => Codec.returns_snowflake (by omega) id) (by omega)
      exact ⟨Field.returns_required _ (User.returns (by omega) user),
        Field.returns_optional _ (fun _ _ => string _) nofun,
        Field.returns_withDefault _ _ roles,
        Field.returns_optional _ (fun _ _ => string _) nofun, trivial⟩
  | channel =>
      refine Codec.Returns.convert (Layout.returns_openCodec (by decide) ?_ positive plain) rfl
      exact ⟨Field.returns_required _ (snowflake _),
        Field.returns_required _ (Codec.returns_natural positive _ _ _ _),
        Field.returns_optional _ (fun _ _ => snowflake _) nofun,
        Field.returns_optional _ (fun _ _ => string _) nofun, trivial⟩
  | message =>
      obtain ⟨beside, author⟩ := plain
      refine Codec.Returns.convert (Layout.returns_openCodec (by decide) ?_ positive beside) rfl
      exact ⟨Field.returns_required _ (snowflake _), Field.returns_required _ (snowflake _),
        Field.returns_withDefault _ _ (string _),
        Field.returns_optional _ (fun y given => User.returns (by omega) (author y given)) nofun,
        trivial⟩

------------------------------------------------------------------------------------------
-- Reading back texts
------------------------------------------------------------------------------------------

/-- Records are plain to the depth that a reader of texts goes; all other values are so at once. -/
def WireType.Plain : (type : WireType) → type.Carrier → Prop
  | record kind, x => kind.Plain (Draft.depthLimit - 1) x
  | _, _ => True

/-- The compact text of a plain value of any type is read as this value. -/
theorem WireType.text_round_trip (type : WireType) {x : type.Carrier} (plain : type.Plain x)
    : type.codec.ofText (type.codec.text x) = .ok x := by
  have string := fun text : String => Codec.returns_string (by decide : 0 < 127) text
  have strings := @Codec.agrees_string.option
  cases type with
  | record kind =>
      refine (kind.returns (by decide) plain).ofText_text ?_ ?_
      · intro key _
        cases kind <;> rfl
      · exact fun draft shown => kind.agrees draft shown.whole
  | userEdit =>
      refine Layout.ofText_text_closedCodec rfl (by decide) ?_ ?_
      · exact ⟨Field.returns_optional _ (fun _ _ => string _) nofun,
          Field.returns_optional _ (fun _ _ => string _) nofun, trivial⟩
      · simp only [UserEdit.layout, List.forall_mem_cons]
        exact ⟨strings, strings, nofun⟩
  | guildRequest =>
      refine Layout.ofText_text_closedCodec rfl (by decide) ?_ ?_
      · exact ⟨Field.returns_required _ (string _),
          Field.returns_optional _ (fun _ _ => string _) nofun, trivial⟩
      · simp only [GuildRequest.layout, List.forall_mem_cons]
        exact ⟨Codec.agrees_string, strings, nofun⟩
  | snowflakes =>
      have returns : (Codec.list .snowflake).Returns Draft.depthLimit x :=
        Codec.returns_list (fun id _ => Codec.returns_snowflake (by decide) id) (by decide)
      refine returns.ofText_text (fun _ _ => rfl) ?_
      exact fun draft shown => Codec.agrees_snowflake.list draft shown.whole
  | resumeEvent =>
      refine Layout.ofText_text_closedCodec rfl (by decide) ?_ ?_
      · have trace : (Codec.list .string).Returns (Draft.depthLimit - 1) x.trace :=
          Codec.returns_list (fun text _ => Codec.returns_string (by decide) text) (by decide)
        exact ⟨Field.returns_withDefault _ _ trace, trivial⟩
      · simp only [ResumeEvent.layout, List.forall_mem_cons]
        exact ⟨Codec.agrees_string.list, nofun⟩

/-- A message by an author with members of their own, among them the ends of the integers. -/
def elaborate : Message where
  id := ⟨18446744073709551615⟩
  channelId := ⟨0⟩
  content := "tab\t quote\x22 backslash\\ null\x00 line\u2028 \u00e9😀"
  author := some {
    id := ⟨9007199254740993⟩
    username := ""
    globalName := some "\x22"
    avatar := none
    bot := true
    extra := ⟨[("content", .array [.object [], .array [.null]]),
      ("least", .number (.integer (-9223372036854775808) (by decide)))], by rfl⟩
  }
  extra := ⟨[("\n", .string "\x1f"),
    ("greatest", .number (.integer 18446744073709551615 (by decide)))], by rfl⟩

theorem text_round_trip_elaborate
    : (WireType.record .message).Plain elaborate
      ∧ Message.codec.ofText (Message.codec.text elaborate) = .ok elaborate := by
  have plain : (WireType.record .message).Plain elaborate := by
    refine ⟨⟨by decide, by decide, by decide⟩, ?_⟩
    rintro author given
    obtain rfl := Option.some.inj given
    exact ⟨by decide, by decide, by decide⟩
  exact ⟨plain, WireType.text_round_trip (.record .message) plain⟩

end DiscordRest
