import DiscordRest.Proofs.Command.Report
import DiscordRest.Proofs.Json.Compact
import DiscordRest.Proofs.Record.Kind
import DiscordRest.Proofs.Text.Utf8

/-!
Records as lines. The line of a record is its compact text, in which no line feed stands; so the
bytes of an output are cut at their line feeds into just the texts that were written.
-/

namespace DiscordRest.Command

open Json Text

------------------------------------------------------------------------------------------
-- Bytes of lines
------------------------------------------------------------------------------------------

/-- The byte that ends a line. -/
abbrev lineFeed : UInt8 := 10

/-- Some texts in bytes, each with a line feed behind it. -/
def linesBytes (texts : List String) : List UInt8 :=
  texts.flatMap fun text => utf8Bytes text.toList ++ [lineFeed]

/-- The bytes that an output took. -/
def Sink.bytes (sink : Sink) : List UInt8 :=
  utf8Bytes sink.text.toList

theorem Sink.bytes_eq (sink : Sink) : sink.bytes = linesBytes sink.lines := by
  rw [bytes, text, String.toList_join, linesBytes, List.flatMap_map, utf8Bytes,
    List.flatMap_assoc]
  refine List.flatMap_congr fun line _ => ?_
  rw [String.toList_append, List.flatMap_append]
  rfl

/-- Texts without line feeds are found again between the line feeds, by induction on the texts. -/
theorem splitOn_linesBytes {texts : List String}
    (free : ∀ text ∈ texts, lineFeed ∉ utf8Bytes text.toList)
    : (linesBytes texts).splitOn lineFeed
      = (texts.map fun text => utf8Bytes text.toList) ++ [[]] := by
  induction texts with
  | nil => rfl
  | cons text rest ih =>
      have later := ih fun other member => free other (List.mem_cons_of_mem _ member)
      have single : (utf8Bytes text.toList).splitOn lineFeed = [utf8Bytes text.toList] := by
        rw [List.splitOn_eq_splitOnP]
        refine List.splitOnP_eq_singleton fun b member => ?_
        refine beq_eq_false_iff_ne.mpr ?_
        rintro rfl
        exact free text List.mem_cons_self member
      have cut : linesBytes (text :: rest)
          = utf8Bytes text.toList ++ lineFeed :: linesBytes rest := by
        rw [linesBytes, List.flatMap_cons, List.append_assoc]
        rfl
      rw [cut, List.splitOn_append_cons_self, single, later]
      rfl

theorem count_linesBytes {texts : List String}
    (free : ∀ text ∈ texts, lineFeed ∉ utf8Bytes text.toList)
    : (linesBytes texts).count lineFeed = texts.length := by
  induction texts with
  | nil => rfl
  | cons text rest ih =>
      have first := List.count_eq_zero_of_not_mem (free text List.mem_cons_self)
      have later := ih fun other member => free other (List.mem_cons_of_mem _ member)
      rw [linesBytes] at later
      rw [linesBytes, List.flatMap_cons, List.count_append, List.count_append, first, later]
      simp [Nat.add_comm]

/-- Texts without line feeds are known by the bytes of their lines. -/
theorem eq_of_linesBytes_eq {texts others : List String}
    (free : ∀ text ∈ texts, lineFeed ∉ utf8Bytes text.toList)
    (free' : ∀ text ∈ others, lineFeed ∉ utf8Bytes text.toList)
    (same : linesBytes texts = linesBytes others)
    : texts = others := by
  have pieces := splitOn_linesBytes free
  rw [same, splitOn_linesBytes free'] at pieces
  have injective : Function.Injective fun text : String => utf8Bytes text.toList :=
    utf8Bytes_injective.comp fun _ _ => String.toList_inj.mp
  exact (injective.list_map (List.append_cancel_right pieces)).symm

------------------------------------------------------------------------------------------
-- Lines of records
------------------------------------------------------------------------------------------

/-- The compact text of a value is a single line. -/
theorem lineFeed_not_mem_text (value : Value) : lineFeed ∉ utf8Bytes value.text.toList := by
  intro member
  have inside : '\n' ∈ value.text.toList :=
    mem_of_mem_utf8Bytes (c := '\n') (by decide) member
  rw [Value.text, String.toList_ofList] at inside
  exact value.noControls_chars.not_mem_lineFeed inside

theorem lineFeed_not_mem_texts (records : List AnyRecord)
    : ∀ text ∈ records.map AnyRecord.text, lineFeed ∉ utf8Bytes text.toList := by
  intro text member
  obtain ⟨any, _, rfl⟩ := List.mem_map.mp member
  exact lineFeed_not_mem_text (any.kind.codec.write any.record)

namespace Sink

/-- Writes the lines of some records in turn. -/
def writeEach (records : List AnyRecord) (sink : Sink) : Except Error Sink :=
  records.foldlM (fun sink any => sink.write any.text) sink

/-- An output without bounds takes the lines of all records, by induction on the records. -/
theorem writeEach_of_endless (records : List AnyRecord) {sink : Sink} (endless : sink.room = none)
    : sink.writeEach records = .ok (sink.add (records.map AnyRecord.text)) := by
  induction records generalizing sink with
  | nil => simp [writeEach, add, pure, Except.pure]
  | cons any rest ih =>
      have later := @ih (sink.add [any.text]) endless
      rw [writeEach] at later
      rw [writeEach, List.foldlM_cons, write_of_endless endless]
      refine later.trans ?_
      rw [add_add]
      rfl

end Sink

/-- A listing without failures writes the texts of its records, by induction on them. -/
theorem written_map_ok {ρ : Type} {sink : Sink} (endless : sink.room = none) (codec : Codec ρ)
    (what : String) (count : Nat) (records : List ρ)
    : (writeRecords codec what sink count (records.map .ok)).2.1
      = sink.add (records.map codec.text) := by
  induction records generalizing sink count with
  | nil => simp [writeRecords, Sink.add]
  | cons record rest ih =>
      have later := @ih (sink.add [codec.text record]) endless (count + 1)
      simp only [List.map_cons, writeRecords, Sink.write_of_endless endless]
      rw [later, Sink.add_add]
      rfl

/--
The bytes written for some records in turn have one line feed for each of them, behind its text;
cut at their line feeds they give the compact texts back in order, so different texts never give
the same bytes. A listing writes its records in this way.
-/
theorem lines_frame_records (records : List AnyRecord)
    : ∃ sink,
        (Sink.ofRoom none).writeEach records = .ok sink
        ∧ sink.bytes = (records.flatMap fun any => utf8Bytes any.text.toList ++ [lineFeed])
        ∧ (∀ any ∈ records, lineFeed ∉ utf8Bytes any.text.toList)
        ∧ sink.bytes.count lineFeed = records.length
        ∧ sink.bytes.splitOn lineFeed
          = (records.map fun any => utf8Bytes any.text.toList) ++ [[]]
        ∧ (∀ others sink',
            (Sink.ofRoom none).writeEach others = .ok sink'
            → sink'.bytes = sink.bytes
            → others.map AnyRecord.text = records.map AnyRecord.text)
        ∧ ∀ (kind : RecordKind) (what : String) (listed : List kind.Carrier),
            records = listed.map (AnyRecord.mk kind)
            → (writeRecords kind.codec what (Sink.ofRoom none) 0 (listed.map .ok)).2.1 = sink := by
  have written := @Sink.writeEach_of_endless records (Sink.ofRoom none) rfl
  have bytes : ∀ listed : List AnyRecord,
      ((Sink.ofRoom none).add (listed.map AnyRecord.text)).bytes
        = linesBytes (listed.map AnyRecord.text) :=
    fun listed => Sink.bytes_eq _
  have free := lineFeed_not_mem_texts records
  refine ⟨_, written, ?_, ?_, ?_, ?_, ?_, ?_⟩
  · rw [bytes, linesBytes, List.flatMap_map]
  · exact fun any member => free any.text (List.mem_map_of_mem member)
  · rw [bytes, count_linesBytes free, List.length_map]
  · rw [bytes, splitOn_linesBytes free, List.map_map]
    rfl
  · intro others sink' written' same
    rw [Sink.writeEach_of_endless others rfl] at written'
    rw [← Except.ok.inj written', bytes, bytes] at same
    exact eq_of_linesBytes_eq (lineFeed_not_mem_texts others) free same
  · rintro kind what listed rfl
    rw [written_map_ok rfl, List.map_map]
    rfl

end DiscordRest.Command
