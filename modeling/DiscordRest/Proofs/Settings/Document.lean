import DiscordRest.Proofs.Json.Return
import DiscordRest.Proofs.Json.TextMap
import DiscordRest.Settings

/-!
Settings as documents. An object is read as settings by what stands under their six names, where the
default stands for what is absent; other members say nothing. The object that settings are written
as says just these settings, in whatever order it lists their headers.
-/

namespace DiscordRest

open Json Keyed

------------------------------------------------------------------------------------------
-- What members say
------------------------------------------------------------------------------------------

/-- A word of 64 bits is its number. -/
def Json.Means.word : Means UInt64 :=
  fun value n => ∃ bounds, value = .number (.integer n.toNat bounds)

/-- A word of 32 bits is its number. -/
def Json.Means.halfWord : Means UInt32 :=
  fun value n => ∃ bounds, value = .number (.integer n.toNat bounds)

namespace Settings

/--
The members of an object describe settings. What is absent stands for the value that the default
settings have; members with other names may be there.
-/
structure Describes (members : List (String × Value)) (settings : Settings) : Prop where
  baseUrl
    : Means.string.withDefault (default : Settings).baseUrl (get? "base_url" members)
        settings.baseUrl
  token : Means.string.optional (get? "token" members) settings.token
  timeout
    : Means.word.withDefault (default : Settings).timeout (get? "timeout_secs" members)
        settings.timeout
  userAgent : Means.string.optional (get? "user_agent" members) settings.userAgent
  pageSize
    : Means.halfWord.withDefault (default : Settings).pageSize (get? "page_size" members)
        settings.pageSize
  headers
    : Means.textMap.withDefault (default : Settings).headers (get? "headers" members)
        settings.headers

section

variable {value : Value}

theorem ofValue_wordCodec_iff {n : UInt64}
    : wordCodec.ofValue value = .ok n ↔ Means.word value n := by
  refine Except.map_eq_ok_iff.trans ⟨?_, ?_⟩
  · rintro ⟨⟨found, below⟩, read, rfl⟩
    obtain ⟨bounds, same⟩ := Codec.ofValue_natural_iff.mp read
    simp only [Means.word, UInt64.toNat_ofNat_of_lt' (Nat.lt_succ_of_le below)]
    exact ⟨bounds, same⟩
  · intro same
    exact ⟨⟨n.toNat, Nat.le_of_lt_succ n.toNat_lt⟩, Codec.ofValue_natural_iff.mpr same,
      UInt64.ofNat_toNat⟩

theorem ofValue_halfWordCodec_iff {n : UInt32}
    : halfWordCodec.ofValue value = .ok n ↔ Means.halfWord value n := by
  refine Except.map_eq_ok_iff.trans ⟨?_, ?_⟩
  · rintro ⟨⟨found, below⟩, read, rfl⟩
    obtain ⟨bounds, same⟩ := Codec.ofValue_natural_iff.mp read
    simp only [Means.halfWord, UInt32.toNat_ofNat_of_lt' (Nat.lt_succ_of_le below)]
    exact ⟨bounds, same⟩
  · intro same
    exact ⟨⟨n.toNat, Nat.le_of_lt_succ n.toNat_lt⟩, Codec.ofValue_natural_iff.mpr same,
      UInt32.ofNat_toNat⟩

/-- A field with a value for its absence reads what its codec reads. -/
theorem reads_withDefault_iff {field : Field} {means : Means field.Carrier}
    {absent : field.Carrier} (defaults : field.absent = some absent)
    (denotes : ∀ {value x}, field.codec.ofValue value = .ok x ↔ means value x)
    {found : Option Value} {x : field.Carrier}
    : field.Reads found x ↔ means.withDefault absent found x := by
  cases found with
  | none => rw [Field.Reads, defaults, Option.some_inj, Means.withDefault, eq_comm]
  | some value => exact denotes

/-- A field that may be absent or null reads what a text codec reads. -/
theorem reads_optional_iff {name : String} {found : Option Value} {x : Option String}
    : (Field.optional name .string).Reads found x ↔ Means.string.optional found x := by
  cases found with
  | none => exact Option.some_inj.trans eq_comm
  | some value =>
      refine Codec.ofValue_option_eq_ok_iff.trans ?_
      simp only [Codec.ofValue_string_iff, Means.optional, Means.string]
      cases value <;> simp [Value.isNull]

end

/-- Settings are read from an object just where its members describe them. -/
theorem ofValue_object_iff {settings : Settings} {members : List (String × Value)}
    (once : (members.map Prod.fst).Nodup)
    : codec.ofValue (.object members) = .ok settings ↔ settings.Describes members := by
  have fields : ∀ cells : Cells layout.fields,
      layout.closedCodec.ofValue (.object members) = .ok cells
      ↔ cells.Read (fun name => get? name members) layout.fields := by
    intro cells
    refine Except.map_eq_ok_iff.trans ?_
    constructor
    · rintro ⟨⟨_, extra⟩, read, rfl⟩
      exact ((Layout.readValues_eq_ok_iff (by decide) once).mp read).1
    · intro read
      exact ⟨(cells, _), (Layout.readValues_eq_ok_iff (by decide) once).mpr ⟨read, rfl⟩, rfl⟩
  refine Except.map_eq_ok_iff.trans ⟨?_, ?_⟩
  · rintro ⟨⟨baseUrl, token, timeout, userAgent, pageSize, headers, ⟨⟩⟩, read, rfl⟩
    obtain ⟨baseUrl, token, timeout, userAgent, pageSize, headers, -⟩ := (fields _).mp read
    exact {
      baseUrl := (reads_withDefault_iff rfl Codec.ofValue_string_iff).mp baseUrl
      token := reads_optional_iff.mp token
      timeout := (reads_withDefault_iff rfl ofValue_wordCodec_iff).mp timeout
      userAgent := reads_optional_iff.mp userAgent
      pageSize := (reads_withDefault_iff rfl ofValue_halfWordCodec_iff).mp pageSize
      headers := (reads_withDefault_iff rfl Codec.ofValue_textMap_iff).mp headers
    }
  · rintro ⟨baseUrl, token, timeout, userAgent, pageSize, headers⟩
    refine ⟨_, (fields (settings.baseUrl, settings.token, settings.timeout, settings.userAgent,
      settings.pageSize, settings.headers, ())).mpr ?_, rfl⟩
    exact ⟨(reads_withDefault_iff rfl Codec.ofValue_string_iff).mpr baseUrl,
      reads_optional_iff.mpr token,
      (reads_withDefault_iff rfl ofValue_wordCodec_iff).mpr timeout,
      reads_optional_iff.mpr userAgent,
      (reads_withDefault_iff rfl ofValue_halfWordCodec_iff).mpr pageSize,
      (reads_withDefault_iff rfl Codec.ofValue_textMap_iff).mpr headers, trivial⟩

------------------------------------------------------------------------------------------
-- Settings in writing
------------------------------------------------------------------------------------------

/-- The members that settings are written as, when their headers are listed as `headers`. -/
def members (settings : Settings) (headers : List (String × String)) : List (String × Value) :=
  ("base_url", .string settings.baseUrl)
    :: (settings.token.map fun token => ("token", .string token)).toList
    ++ ("timeout_secs", .number (.ofWord settings.timeout))
    :: (settings.userAgent.map fun userAgent => ("user_agent", .string userAgent)).toList
    ++ ("page_size", .number (.ofWord settings.pageSize.toUInt64))
    :: (if headers.isEmpty then [] else [("headers", .object (textMembers headers))])

variable {settings : Settings} {headers : List (String × String)}

/-- Settings are written with their headers in ascending order. -/
theorem write_codec
    : codec.write settings = .object (settings.members settings.headers.entries) := by
  obtain ⟨baseUrl, token, timeout, userAgent, pageSize, ⟨entries, ascending⟩⟩ := settings
  cases token <;> cases userAgent <;> cases entries <;> rfl

theorem members_sublist
    : ((settings.members headers).map Prod.fst).Sublist (fieldNames layout.fields) := by
  obtain ⟨baseUrl, token, timeout, userAgent, pageSize, -⟩ := settings
  cases token <;> cases userAgent <;> cases headers <;> exact List.isSublist_iff_sublist.mp rfl

theorem nodup_members : ((settings.members headers).map Prod.fst).Nodup :=
  members_sublist.nodup (by decide)

/-- What stands under the names of the fields. -/
theorem get?_members (settings : Settings) (headers : List (String × String))
    : get? "base_url" (settings.members headers) = some (.string settings.baseUrl)
      ∧ get? "token" (settings.members headers) = settings.token.map .string
      ∧ get? "timeout_secs" (settings.members headers) = some (.number (.ofWord settings.timeout))
      ∧ get? "user_agent" (settings.members headers) = settings.userAgent.map .string
      ∧ get? "page_size" (settings.members headers)
        = some (.number (.ofWord settings.pageSize.toUInt64))
      ∧ get? "headers" (settings.members headers)
        = if headers.isEmpty then none else some (.object (textMembers headers)) := by
  obtain ⟨baseUrl, token, timeout, userAgent, pageSize, -⟩ := settings
  cases token <;> cases userAgent <;> cases headers <;> exact ⟨rfl, rfl, rfl, rfl, rfl, rfl⟩

theorem optional_string_map (text : Option String)
    : Means.string.optional (text.map .string) text := by
  cases text with
  | none => rfl
  | some text => exact .inr ⟨text, rfl, rfl⟩

/-- What settings are written as describes them, in whatever order their headers are listed. -/
theorem describes_members (same : headers.Perm settings.headers.entries)
    : settings.Describes (settings.members headers) := by
  obtain ⟨baseUrl, token, timeout, userAgent, pageSize, written⟩ := get?_members settings headers
  constructor
  · rw [baseUrl]
    exact rfl
  · rw [token]
    exact optional_string_map _
  · rw [timeout]
    exact ⟨_, rfl⟩
  · rw [userAgent]
    exact optional_string_map _
  · rw [pageSize]
    exact ⟨_, rfl⟩
  · rw [written]
    have map := (TextMap.ofEntries_of_perm same).symm
    cases headers with
    | nil => exact map
    | cons header rest => exact ⟨_, rfl, map⟩

/-- No member holds a floating-point number, and at most one level nests in one. -/
theorem flat_of_mem_members {member : String × Value} (inside : member ∈ settings.members headers)
    : member.2.isExact = true ∧ member.2.depth < 2 := by
  simp only [members, List.mem_append, List.mem_cons, Option.mem_toList, Option.map_eq_some_iff]
    at inside
  rcases inside with ((rfl | ⟨_, -, rfl⟩) | rfl | ⟨_, -, rfl⟩) | rfl | inside
  case inr.inr =>
    split at inside
    · cases inside
    · obtain rfl := List.mem_singleton.mp inside
      exact flat_textMembers headers
  all_goals exact ⟨rfl, Nat.two_pos⟩

theorem agrees_of_mem_fields : ∀ field ∈ layout.fields, field.codec.Agrees := by
  have word : wordCodec.Agrees := (Codec.agrees_natural _ _ _).convert _ _
  have halfWord : halfWordCodec.Agrees := (Codec.agrees_natural _ _ _).convert _ _
  simp only [layout, List.forall_mem_cons]
  exact ⟨Codec.agrees_string, Codec.agrees_string.option, word, Codec.agrees_string.option,
    halfWord, Codec.agrees_textMap, nofun⟩

------------------------------------------------------------------------------------------
-- Settings read back
------------------------------------------------------------------------------------------

/--
Settings are read back from their text, and from a text that lists their headers in another order.
An object is read as settings just where its members describe them, among whatever others, and what
is read from any text is read from the text of the settings again.
-/
theorem codec_returns (settings : Settings)
    : codec.text settings = (Value.object (settings.members settings.headers.entries)).text
      ∧ (∀ headers : List (String × String), headers.Perm settings.headers.entries →
        codec.ofValue (.object (settings.members headers)) = .ok settings
        ∧ codec.ofText (Value.object (settings.members headers)).text = .ok settings)
      ∧ (∀ members : List (String × Value), (members.map Prod.fst).Nodup →
        (codec.ofValue (.object members) = .ok settings ↔ settings.Describes members))
      ∧ ∀ source : String, codec.ofText source = .ok settings →
        codec.ofText (codec.text settings) = .ok settings := by
  have text : codec.text settings
      = (Value.object (settings.members settings.headers.entries)).text :=
    congrArg Value.text write_codec
  have again : ∀ headers : List (String × String), headers.Perm settings.headers.entries →
      codec.ofValue (.object (settings.members headers)) = .ok settings
      ∧ codec.ofText (Value.object (settings.members headers)).text = .ok settings := by
    intro headers same
    have read := (ofValue_object_iff nodup_members).mpr (describes_members same)
    refine ⟨read, Layout.ofText_object_closedCodec agrees_of_mem_fields ?_ ?_ ?_ read⟩
    · intro member inside
      exact members_sublist.subset (List.mem_map_of_mem inside)
    · exact Value.membersExact_iff.mpr fun member inside => (flat_of_mem_members inside).1
    · refine Nat.lt_of_lt_of_le (Nat.succ_lt_succ ?_) (by decide : 3 ≤ Draft.depthLimit)
      exact (Value.membersDepth_lt_iff Nat.two_pos).mpr fun member inside =>
        (flat_of_mem_members inside).2
  refine ⟨text, again, fun members once => ofValue_object_iff once, fun source _ => ?_⟩
  rw [text]
  exact (again _ (.refl _)).2

/-- Settings with a token, the longest timeout and two headers. -/
def signed : Settings :=
  { (default : Settings) with
    token := some "t"
    timeout := 18446744073709551615
    headers := .ofEntries [("a", "1"), ("b", "\n")] }

/-- The text of these settings, with their headers in another order. -/
def signedText : String :=
  "\x7b\"base_url\":\"https://discord.com/api/v10\",\"token\":\"t\","
    ++ "\"timeout_secs\":18446744073709551615,\"page_size\":100,"
    ++ "\"headers\":\x7b\"b\":\"\\n\",\"a\":\"1\"\x7d\x7d"

/-- Members that leave out fields and have one without meaning. -/
def signedMembers : List (String × Value) :=
  [("headers", .object (textMembers [("b", "\n"), ("a", "1")])), ("color", .array []),
    ("timeout_secs", .number (.ofWord 18446744073709551615)), ("token", .string "t"),
    ("user_agent", .null)]

theorem codec_returns_signed
    : codec.ofText signedText = .ok signed
      ∧ codec.ofValue (.object signedMembers) = .ok signed := by
  obtain ⟨-, again, described, -⟩ := codec_returns signed
  have text : (Value.object (signed.members [("b", "\n"), ("a", "1")])).text = signedText := by
    decide +kernel
  refine ⟨text ▸ (again [("b", "\n"), ("a", "1")] (List.Perm.swap _ _ _)).2, ?_⟩
  refine (described signedMembers (by decide)).mpr ⟨rfl, ?_, ?_, ?_, rfl, ?_⟩
  · exact .inr ⟨"t", rfl, rfl⟩
  · exact ⟨_, rfl⟩
  · exact .inl ⟨rfl, rfl⟩
  · exact ⟨_, rfl, rfl⟩

end Settings

end DiscordRest
