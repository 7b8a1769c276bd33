import DiscordRest.Proofs.Json.MemberOrder
import DiscordRest.Proofs.Json.Refusal
import DiscordRest.Proofs.Record.RoundTrip

/-!
Records read from a text and by way of the value that the text holds. Unless an object repeats a
key, both give the same record or none. A text is read in its own order and a value in the order
of its keys, so that of several mismatches each way reports the one that comes first in its order.
-/

namespace DiscordRest

open Json

theorem inherited_ignoresOrder : Inherited fun _ codec => codec.IgnoresOrder where
  string := Codec.ignoresOrder_string
  boolean := Codec.ignoresOrder_boolean
  natural := Codec.ignoresOrder_natural
  snowflake := Codec.ignoresOrder_snowflake
  option inside := inside.option
  list inside := inside.list
  convert inside := inside.convert
  openCodec := Layout.ignoresOrder_openCodec

theorem inherited_refusesAlike : Inherited fun _ codec => codec.RefusesAlike where
  string := Codec.refusesAlike_string
  boolean := Codec.refusesAlike_boolean
  natural := Codec.refusesAlike_natural
  snowflake := Codec.refusesAlike_snowflake
  option inside := inside.option
  list inside := inside.list
  convert inside := inside.convert
  openCodec _ inside := Layout.refusesAlike_openCodec inside

namespace RecordKind

variable (kind : RecordKind) {text : String} {value : Value}

theorem keeps_codec : kind.codec.keeps = Codec.keepsAll := by
  cases kind <;> rfl

/-- The causes of failures of both ways, where the text holds a value at all. -/
theorem mapError_of_isDocument (document : IsDocument text value)
    : (kind.codec.ofText text).mapError Failure.cause
        = (kind.codec.ofValue value).mapError Cause.mismatch
      ∧ (kind.codec.ofTextValue text).mapError Failure.cause
        = (kind.codec.ofValue value.normalise).mapError Cause.mismatch :=
  ⟨(kind.codec_inherits inherited_refusesAlike).ofText_mapError kind.keeps_codec document,
    kind.codec.ofTextValue_mapError document⟩

/--
A text in which no object repeats a key is read as a record where its value is, and as the same
one. Each way reports the first mismatch in its own order of the members, so that nothing but the
position differs if the text has them in the order of their keys.
-/
theorem ofText_agrees_with_value
    (once : (Draft.ofText Codec.keepsAll text.toList).isDistinct = true)
    : (∀ x, kind.codec.ofText text = .ok x ↔ kind.codec.ofTextValue text = .ok x)
      ∧ ∀ value, IsDocument text value →
          (kind.codec.ofText text).mapError Failure.cause
            = (kind.codec.ofValue value).mapError Cause.mismatch
          ∧ (kind.codec.ofTextValue text).mapError Failure.cause
            = (kind.codec.ofValue value.normalise).mapError Cause.mismatch
          ∧ (value.normalise = value →
              (kind.codec.ofText text).mapError Failure.cause
                = (kind.codec.ofTextValue text).mapError Failure.cause) := by
  refine ⟨?_, ?_⟩
  · intro x
    rw [kind.agrees.ofText_eq_ok_iff_document kind.keeps_codec,
      Codec.ofTextValue_eq_ok_iff_document]
    refine exists_congr fun value => and_congr_right fun document => ?_
    have distinct : value.isDistinct = true :=
      (Draft.isDistinct_value? _ document.1).trans once
    exact (kind.codec_inherits inherited_ignoresOrder value distinct x).symm
  · intro value document
    obtain ⟨direct, detour⟩ := kind.mapError_of_isDocument document
    refine ⟨direct, detour, ?_⟩
    intro normal
    rw [direct, detour, normal]

end RecordKind

/-- A user with an optional null, a long integer, and objects in a list beside the fields. -/
def knottedUser : String :=
  "\x7b\"username\":\"\\u00e9\",\"avatar\":null,\"z\":[\x7b\"b\":1e3,\"a\":18446744073709551616\x7d],"
    ++ "\"id\":7\x7d"

theorem ofText_agrees_with_value_knottedUser
    : (Draft.ofText Codec.keepsAll knottedUser.toList).isDistinct = true
      ∧ ∃ x,
          User.codec.ofText knottedUser = .ok x ∧ User.codec.ofTextValue knottedUser = .ok x
          ∧ x.id = ⟨7⟩ := by
  have once : (Draft.ofText Codec.keepsAll knottedUser.toList).isDistinct = true := by
    decide +kernel
  have read : (User.codec.ofText knottedUser).map User.id = .ok ⟨7⟩ := by decide +kernel
  obtain ⟨x, read, id⟩ := Except.map_eq_ok_iff.mp read
  exact ⟨once, x, read, ((RecordKind.user.ofText_agrees_with_value once).1 x).mp read, id⟩

/-- A user whose two members both have a wrong type, in descending order of their keys. -/
def faultyUser : String :=
  "\x7b\"username\":1,\"id\":\"x\"\x7d"

/-- The text is refused for its first member, and the value for the member with the first key. -/
theorem messages_differ_for_faultyUser
    : (Draft.ofText Codec.keepsAll faultyUser.toList).isDistinct = true
      ∧ (∃ value, Codec.value.ofText faultyUser = .ok value)
      ∧ (User.codec.ofText faultyUser).mapError Failure.message
        = .error "invalid type: integer \x601\x60, expected a string at line 1 column 13"
      ∧ (User.codec.ofTextValue faultyUser).mapError Failure.message
        = .error ("invalid value: string \"x\", expected " ++ Codec.snowflakeWords)
      ∧ (User.codec.ofText faultyUser).mapError Failure.cause
        ≠ (User.codec.ofTextValue faultyUser).mapError Failure.cause := by
  have document : (Codec.value.ofText faultyUser).map (fun _ => ()) = .ok () := by decide +kernel
  have direct : (User.codec.ofText faultyUser).map (fun _ => ())
      = .error ⟨.mismatch (.wrongType (.integer 1) "a string"), some ⟨1, 13⟩⟩ := by
    decide +kernel
  have detour : (User.codec.ofTextValue faultyUser).map (fun _ => ())
      = .error ⟨.mismatch (.wrongValue (.string "x") Codec.snowflakeWords), none⟩ := by
    decide +kernel
  obtain ⟨value, document, -⟩ := Except.map_eq_ok_iff.mp document
  rw [Except.map_eq_error_iff] at direct detour
  refine ⟨by decide +kernel, ⟨value, document⟩, ?_⟩
  rw [direct, detour]
  exact ⟨congrArg Except.error (by decide +kernel), congrArg Except.error (by decide +kernel),
    nofun⟩

end DiscordRest
