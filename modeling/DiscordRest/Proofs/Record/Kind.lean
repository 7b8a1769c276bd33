import DiscordRest.Record.Channel
import DiscordRest.Record.Guild
import DiscordRest.Record.Resume

/-! Records of all kinds, and all that is sent or received, each with the codec of its kind. -/

namespace DiscordRest

open Json

/-- The kinds of records that the service sends. -/
inductive RecordKind where
  | user
  | userGuild
  | guild
  | member
  | channel
  | message
  deriving DecidableEq, Repr

namespace RecordKind

/-- The records of a kind. -/
abbrev Carrier : RecordKind → Type
  | user => User
  | userGuild => UserGuild
  | guild => Guild
  | member => Member
  | channel => Channel
  | message => Message

/-- How the records of a kind are read and written. -/
def codec : (kind : RecordKind) → Codec kind.Carrier
  | user => User.codec
  | userGuild => UserGuild.codec
  | guild => Guild.codec
  | member => Member.codec
  | channel => Channel.codec
  | message => Message.codec

end RecordKind

/-- A property of codecs that a codec has if those it is made of have it. -/
structure Inherited (P : (α : Type) → Codec α → Prop) : Prop where
  string : P String .string
  boolean : P Bool .boolean
  natural (name : String) (greatest : Nat) (h : greatest ≤ greatestWord)
    : P _ (.natural name greatest h)
  snowflake : P Snowflake .snowflake
  option {α : Type} {codec : Codec α} (inside : P α codec) : P (Option α) codec.option
  list {α : Type} {codec : Codec α} (inside : P α codec) : P (List α) codec.list
  convert {α β : Type} {codec : Codec α} (inside : P α codec) (forth : α → β) (back : β → α)
    : P β (codec.convert forth back)
  openCodec {layout : Layout} (single : (layout.fields.map Field.name).Nodup)
    (inside : ∀ field ∈ layout.fields, P field.Carrier field.codec)
    : P _ layout.openCodec

section

variable {P : (α : Type) → Codec α → Prop} (inherited : Inherited P)

include inherited

theorem User.codec_inherits : P User User.codec := by
  refine inherited.convert (inherited.openCodec (by decide) ?_) _ _
  simp only [User.layout, List.forall_mem_cons]
  exact ⟨inherited.snowflake, inherited.string, inherited.option inherited.string,
    inherited.option inherited.string, inherited.boolean, nofun⟩

/-- The codecs of records of all kinds inherit what their fields' codecs have. -/
theorem RecordKind.codec_inherits (kind : RecordKind) : P kind.Carrier kind.codec := by
  have user := User.codec_inherits inherited
  obtain ⟨string, boolean, natural, snowflake, option, list, convert, openCodec⟩ := inherited
  cases kind with
  | user => exact user
  | userGuild =>
      refine convert (openCodec (by decide) ?_) _ _
      simp only [UserGuild.layout, List.forall_mem_cons]
      exact ⟨snowflake, string, option string, boolean, option string, nofun⟩
  | guild =>
      refine convert (openCodec (by decide) ?_) _ _
      simp only [Guild.layout, List.forall_mem_cons]
      exact ⟨snowflake, string, option snowflake, nofun⟩
  | member =>
      refine convert (openCodec (by decide) ?_) _ _
      simp only [Member.layout, List.forall_mem_cons]
      exact ⟨user, option string, list snowflake, option string, nofun⟩
  | channel =>
      refine convert (openCodec (by decide) ?_) _ _
      simp only [Channel.layout, List.forall_mem_cons]
      exact ⟨snowflake, natural _ _ (by decide), option snowflake, option string, nofun⟩
  | message =>
      refine convert (openCodec (by decide) ?_) _ _
      simp only [Message.layout, List.forall_mem_cons]
      exact ⟨snowflake, snowflake, string, option user, nofun⟩

end

/-- A record of any kind. -/
structure AnyRecord where
  kind : RecordKind
  record : kind.Carrier

/-- The compact text of a record. -/
def AnyRecord.text (any : AnyRecord) : String :=
  any.kind.codec.text any.record

/-- The types of what is sent to the service or received from it. -/
inductive WireType where
  | record (kind : RecordKind)
  | userEdit
  | guildRequest
  | snowflakes
  | resumeEvent
  deriving DecidableEq, Repr

namespace WireType

/-- The values of a type. -/
abbrev Carrier : WireType → Type
  | record kind => kind.Carrier
  | userEdit => UserEdit
  | guildRequest => GuildRequest
  | snowflakes => List Snowflake
  | resumeEvent => ResumeEvent

/-- How the values of a type are read and written. -/
def codec : (type : WireType) → Codec type.Carrier
  | record kind => kind.codec
  | userEdit => UserEdit.codec
  | guildRequest => GuildRequest.codec
  | snowflakes => .list .snowflake
  | resumeEvent => ResumeEvent.codec

end WireType

end DiscordRest
