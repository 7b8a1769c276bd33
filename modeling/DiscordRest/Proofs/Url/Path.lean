import DiscordRest.Proofs.Text.Utf8
import DiscordRest.Proofs.Url.Below

/-!
Paths of plain web addresses, as they are written. Reading a path leaves nothing to escape and no
dot segment in it, and such a path is read as what it was; so is a whole address.
-/

namespace DiscordRest.Url

------------------------------------------------------------------------------------------
-- Dot segments
------------------------------------------------------------------------------------------

/-- Whether a segment is resolved away: it stands for nothing, or for the one above it. -/
def isDots (segment : List Char) : Bool :=
  isDoubleDot segment || isSingleDot segment

/-- The dot segments in small letters. -/
def dotTexts : List (List Char) :=
  ["..".toList, ".%2e".toList, "%2e.".toList, "%2e%2e".toList, ".".toList, "%2e".toList]

theorem isDots_iff {segment : List Char}
    : isDots segment = true ↔ segment.map Char.toLower ∈ dotTexts := by
  have spelled : ∀ text : String,
      String.ofList (segment.map Char.toLower) = text ↔ segment.map Char.toLower = text.toList := by
    intro text
    rw [← String.toList_inj, String.toList_ofList]
  simp only [isDots, isDoubleDot, isSingleDot, dotTexts, Bool.or_eq_true, List.contains_iff_mem,
    List.mem_cons, List.not_mem_nil, or_false, or_assoc, spelled]

/-- Every percent sign of a dot segment is that of a point. -/
theorem point_of_percent {front rest : List Char} {a b : Char}
    (dots : front ++ '%' :: a :: b :: rest ∈ dotTexts)
    : a = '2' ∧ b = 'e' := by
  have bounded : ∀ text ∈ dotTexts, text.length ≤ 6 := by decide
  have short : front.length ≤ 3 := by
    have counted := bounded _ dots
    simp only [List.length_append, List.length_cons] at counted
    omega
  simp only [dotTexts, List.mem_cons, List.not_mem_nil, or_false] at dots
  match front, short with
  | [], _ | [_], _ | [_, _], _ | [_, _, _], _ => grind

/-- A character whose first percent sign is that of a point is a point. -/
theorem eq_point_of_percentChar {c : Char} {rest : List Char} {a b : Char}
    (written : percentChar c = '%' :: a :: b :: rest) (first : a.toLower = '2')
    (second : b.toLower = 'e')
    : c = '.' := by
  have digits : ∀ n < 256,
      (Text.hexPair.upperHexDigit (n / 16)).toLower = '2'
      → (Text.hexPair.upperHexDigit (n % 16)).toLower = 'e'
      → n = 46 := by
    decide +kernel
  obtain ⟨byte, more, bytes, shown⟩ := exists_percentChar c
  have point : byte = 46 := by
    rw [shown, List.cons.injEq, List.cons.injEq, List.cons.injEq] at written
    obtain ⟨_, rfl, rfl, _⟩ := written
    exact UInt8.toNat_inj.mp (digits byte.toNat byte.toNat_lt first second)
  -- In UTF-8 a first byte as low as this is a character of its own.
  obtain ⟨lead, tail, encoded, decoded⟩ := Text.decodeChar_utf8EncodeChar c []
  rw [Text.utf8Bytes, List.flatMap_singleton, encoded] at bytes
  obtain ⟨rfl, _⟩ := List.cons.inj bytes
  rw [point] at decoded
  exact (Option.some.inj (congrArg Prod.fst decoded)).symm

/-- Escaping makes no dot segment of another one. -/
theorem isDots_of_percentEncode {segment : List Char}
    (dots : isDots (percentEncode escapesPath segment) = true)
    : isDots segment = true := by
  have plain : ∀ c ∈ segment, escapesPath c = false := by
    intro c member
    by_contra escaped
    obtain ⟨before, after, rfl⟩ := List.append_of_mem member
    obtain ⟨byte, more, _, written⟩ := exists_percentChar c
    rw [percentEncode, List.flatMap_append, List.flatMap_cons,
      if_pos ((Bool.not_eq_false _).mp escaped), written, isDots_iff, List.map_append] at dots
    obtain ⟨first, second⟩ := point_of_percent dots
    obtain rfl := eq_point_of_percentChar written first second
    exact escaped (by decide)
  rwa [percentEncode_of_plain plain] at dots

/-- A dot segment has a point or a percent sign. -/
theorem isDots_eq_false {segment : List Char}
    (plain : ∀ c ∈ segment, c.toLower ≠ '.' ∧ c.toLower ≠ '%')
    : isDots segment = false := by
  have marked : ∀ text ∈ dotTexts, '.' ∈ text ∨ '%' ∈ text := by decide
  refine Bool.eq_false_iff.mpr fun dots => ?_
  rcases marked _ (isDots_iff.mp dots) with point | percent
  · obtain ⟨c, member, small⟩ := List.mem_map.mp point
    exact (plain c member).1 small
  · obtain ⟨c, member, small⟩ := List.mem_map.mp percent
    exact (plain c member).2 small

------------------------------------------------------------------------------------------
-- Segments
------------------------------------------------------------------------------------------

/-- A segment as reading the path of a plain web address gives it. -/
structure IsPlainSegment (segment : List Char) : Prop where
  chars : ∀ c ∈ segment, escapesPath c = false ∧ separates true c = false
  noDots : isDots segment = false

theorem IsPlainSegment.nil : IsPlainSegment [] :=
  ⟨by simp, by decide⟩

theorem isPlainSegment_percentEncode {raw : List Char}
    (whole : ∀ c ∈ raw, separates true c = false) (noDots : isDots raw = false)
    : IsPlainSegment (percentEncode escapesPath raw) := by
  have digits : ∀ n < 16, separates true (Text.hexPair.upperHexDigit n) = false := by decide
  constructor
  · intro c member
    refine ⟨escapes_of_mem_percentEncode sparesMarks_escapesPath member, ?_⟩
    obtain ⟨given, among, written⟩ := List.mem_flatMap.mp member
    split at written
    · rcases mem_percentChar written with rfl | ⟨n, below, rfl⟩
      · decide
      · exact digits n below
    · rw [List.mem_singleton.mp written]
      exact whole given among
  · refine Bool.eq_false_iff.mpr fun dots => ?_
    rw [isDots_of_percentEncode dots] at noDots
    contradiction

theorem mem_of_mem_shorten {isFile : Bool} {path : List (List Char)} {segment : List Char}
    (member : segment ∈ shorten isFile path)
    : segment ∈ path := by
  unfold shorten at member
  split at member
  · split at member
    · exact member
    · contradiction
  · exact (List.dropLast_sublist path).subset member

/-- Pieces that are appended to plain segments leave plain segments, by induction on the pieces. -/
theorem isPlainSegment_of_mem_appendSegments {path raw : List (List Char)}
    (plain : ∀ segment ∈ path, IsPlainSegment segment)
    (whole : ∀ piece ∈ raw, ∀ c ∈ piece, separates true c = false)
    : ∀ segment ∈ appendSegments false path raw, IsPlainSegment segment := by
  induction raw generalizing path with
  | nil => exact plain
  | cons piece rest ih =>
      have ended : ∀ {segments : List (List Char)},
          (∀ segment ∈ segments, IsPlainSegment segment)
          → ∀ segment ∈ segments ++ if rest.isEmpty then [[]] else [], IsPlainSegment segment := by
        intro segments inside segment member
        rcases List.mem_append.mp member with before | ending
        · exact inside segment before
        · split at ending
          · rw [List.mem_singleton.mp ending]
            exact .nil
          · contradiction
      have later := fun others among => whole others (List.mem_cons_of_mem piece among)
      rw [appendSegments]
      dsimp only
      split
      · exact ih (ended fun segment member => plain segment (mem_of_mem_shorten member)) later
      rename_i noDouble
      split
      · exact ih (ended plain) later
      rename_i noSingle
      refine ih ?_ later
      intro segment member
      rcases List.mem_append.mp member with before | written
      · exact plain segment before
      · rw [List.mem_singleton.mp written]
        have noDots : isDots piece = false := by simp [isDots, noDouble, noSingle]
        exact isPlainSegment_percentEncode (whole piece List.mem_cons_self) noDots

/-- Plain segments are appended as they stand, by induction on them. -/
theorem appendSegments_of_plain {raw : List (List Char)}
    (plain : ∀ segment ∈ raw, IsPlainSegment segment) (path : List (List Char))
    : appendSegments false path raw = path ++ raw := by
  induction raw generalizing path with
  | nil => rw [appendSegments, List.append_nil]
  | cons segment rest ih =>
      obtain ⟨chars, noDots⟩ := plain segment List.mem_cons_self
      obtain ⟨noDouble, noSingle⟩ := Bool.or_eq_false_iff.mp noDots
      have kept : percentEncode escapesPath segment = segment :=
        percentEncode_of_plain fun c member => (chars c member).1
      have later := ih (fun other among => plain other (List.mem_cons_of_mem segment among))
      rw [appendSegments]
      simp [noDouble, noSingle, kept, later]

------------------------------------------------------------------------------------------
-- Paths
------------------------------------------------------------------------------------------

theorem text_segments (first : List Char) (more : List (List Char))
    : (Path.segments (first :: more)).text = '/' :: ['/'].intercalate (first :: more) := by
  rw [Path.text]
  induction more generalizing first with
  | nil => simp
  | cons next more ih => rw [List.flatMap_cons, ih, List.intercalate_cons_cons]; simp

/-- Plain segments are found between the slashes of their path. -/
theorem splitWhere_intercalate {segments : List (List Char)} (nonempty : segments ≠ [])
    (plain : ∀ segment ∈ segments, IsPlainSegment segment)
    : splitWhere (separates true) (['/'].intercalate segments) = segments := by
  have noSlash : ∀ segment ∈ segments, '/' ∉ segment :=
    fun segment among member => absurd ((plain segment among).chars '/' member).2 (by decide)
  have agree : ∀ c ∈ ['/'].intercalate segments, separates true c = (c == '/') := by
    intro c member
    rcases mem_intercalate member with slash | ⟨segment, among, inside⟩
    · rw [List.mem_singleton.mp slash]
      decide
    · have other := ((plain segment among).chars c inside).2
      rw [other]
      exact (Bool.or_eq_false_iff.mp other).1.symm
  rw [splitWhere_congr agree]
  exact splitAt_intercalate noSlash nonempty

/-- A path of plain segments is read as what it was. -/
theorem readPath_text {segments : List (List Char)} (nonempty : segments ≠ [])
    (plain : ∀ segment ∈ segments, IsPlainSegment segment)
    : readPath httpScheme (Path.segments segments).text = .segments segments := by
  have noFile : (httpScheme == fileScheme) = false := by decide
  obtain ⟨first, more, rfl⟩ := List.exists_cons_of_ne_nil nonempty
  have slash : separates true '/' = true := by decide
  rw [text_segments, readPath]
  simp only [isSpecial_httpScheme, noFile, slash, if_true, splitWhere_intercalate nonempty plain,
    appendSegments_of_plain plain, List.nil_append, Bool.false_eq_true, if_false]

------------------------------------------------------------------------------------------
-- Addresses
------------------------------------------------------------------------------------------

/-- What a URL has behind its host, as reading a plain web address gives it. -/
structure HasPlainEnd (url : Url) : Prop where
  path
    : ∃ first more,
        url.path = .segments (first :: more)
        ∧ ∀ segment ∈ first :: more, IsPlainSegment segment
  query : ∀ query ∈ url.query, ∀ c ∈ query, escapesSpecialQuery c = false
  fragment : ∀ fragment ∈ url.fragment, ∀ c ∈ fragment, escapesFragment c = false

/-- What reading a plain web address gives is plain behind its host. -/
theorem hasPlainEnd_of_ofText {text : String} {url : Url} (read : ofText text = .ok url)
    (web : url.scheme = httpScheme)
    : url.HasPlainEnd := by
  obtain ⟨before, query, fragment, body, found, rfl⟩ := exists_of_ofText read
  have scheme : body.scheme = httpScheme := web
  rw [web, readHierarchy_httpScheme, readAfterSlashes] at found
  simp only [bind, Except.bind] at found
  split at found
  · contradiction
  · obtain rfl := Except.ok.inj found
    constructor
    · obtain ⟨raw, nonempty, whole, path⟩ := exists_readPath_httpScheme _
      obtain ⟨first, more, same⟩ :=
        List.exists_cons_of_ne_nil (appendSegments_ne_nil false [] nonempty)
      refine ⟨first, more, path.trans (congrArg Path.segments same), ?_⟩
      rw [← same]
      exact isPlainSegment_of_mem_appendSegments (by simp) whole
    · intro written given c member
      obtain ⟨raw, _, rfl⟩ := Option.map_eq_some_iff.mp given
      rw [encodeQuery, scheme, isSpecial_httpScheme, if_pos rfl] at member
      exact escapes_of_mem_percentEncode sparesMarks_escapesSpecialQuery member
    · intro written given c member
      obtain ⟨raw, _, rfl⟩ := Option.map_eq_some_iff.mp given
      exact escapes_of_mem_percentEncode sparesMarks_escapesFragment member

theorem lt_of_escapesControl {c : Char} (plain : escapesControl c = false) (noBlank : c ≠ ' ')
    : 0x20 < c.toNat := by
  have above : 0x20 ≤ c.toNat := by
    simp only [escapesControl, Bool.or_eq_false_iff, decide_eq_false_iff_not] at plain
    omega
  refine Nat.lt_of_le_of_ne above fun same => noBlank ?_
  rw [← Char.ofNat_toNat c, ← same]

theorem lt_of_escapesFragment {c : Char} (plain : escapesFragment c = false) : 0x20 < c.toNat := by
  obtain ⟨control, others⟩ := Bool.or_eq_false_iff.mp plain
  refine lt_of_escapesControl control ?_
  rintro rfl
  contradiction

theorem ne_of_escapesPath {c : Char} (plain : escapesPath c = false)
    : c ≠ '?' ∧ c ≠ '#' ∧ 0x20 < c.toNat := by
  obtain ⟨fragment, others⟩ := Bool.or_eq_false_iff.mp plain
  refine ⟨?_, ?_, lt_of_escapesFragment fragment⟩
  all_goals
    rintro rfl
    contradiction

theorem ne_of_escapesSpecialQuery {c : Char} (plain : escapesSpecialQuery c = false)
    : c ≠ '#' ∧ 0x20 < c.toNat := by
  obtain ⟨query, _⟩ := Bool.or_eq_false_iff.mp plain
  obtain ⟨control, others⟩ := Bool.or_eq_false_iff.mp query
  refine ⟨?_, lt_of_escapesControl control ?_⟩
  all_goals
    rintro rfl
    contradiction

theorem settle_of_visible {text : List Char} (visible : ∀ c ∈ text, 0x20 < c.toNat)
    : settle text = text := by
  cases text with
  | nil => rfl
  | cons c rest =>
      have first := visible c List.mem_cons_self
      have cleaned := clean_append visible (List.cons_ne_nil c rest) []
      have nothing : settle [] = [] := rfl
      rwa [List.append_nil, nothing, List.append_nil, clean, Text.trimWhile,
        List.dropWhile_cons_of_neg (by simpa using first)] at cleaned

theorem cutEnds_ends (url : Url) {path : List Char} (free : ∀ c ∈ path, c ≠ '?' ∧ c ≠ '#')
    (noFragment : ∀ query ∈ url.query, '#' ∉ query)
    : cutEnds (path ++ url.queryText ++ url.fragmentText) = (path, url.query, url.fragment) := by
  have behind : cut '#' url.fragmentText = ([], url.fragment) := by
    rw [fragmentText]
    cases url.fragment <;> simp [cut]
  have between : '#' ∉ url.queryText := by
    rw [queryText]
    cases given : url.query with
    | none => simp
    | some query => simpa using noFragment query given
  have middle : cut '?' url.queryText = ([], url.query) := by
    rw [queryText]
    cases url.query <;> simp [cut]
  rw [List.append_assoc, cutEnds_append free, cutEnds, cut_append between, behind]
  simp [middle]

theorem ne_of_mem_intercalate {segments : List (List Char)}
    (plain : ∀ segment ∈ segments, IsPlainSegment segment) {c : Char}
    (member : c ∈ ['/'].intercalate segments)
    : c ≠ '?' ∧ c ≠ '#' ∧ 0x20 < c.toNat := by
  rcases mem_intercalate member with slash | ⟨segment, among, inside⟩
  · rw [List.mem_singleton.mp slash]
    decide
  · exact ne_of_escapesPath ((plain segment among).chars c inside).1

/-- A plain web address that is plain behind its host is read as what it was. -/
theorem IsPlainWeb.ofChars_chars {url : Url} {host : Host} (web : url.IsPlainWeb host)
    (plain : url.HasPlainEnd)
    : ofChars url.chars = .ok url := by
  obtain ⟨⟨first, more, path, segments⟩, query, fragment⟩ := plain
  have marks := fun c => ne_of_mem_intercalate segments (c := c)
  have pathText : url.path.text = '/' :: ['/'].intercalate (first :: more) := by
    rw [path, text_segments]
  have pathRead := readPath_text (List.cons_ne_nil first more) segments
  rw [← path, pathText] at pathRead
  generalize ['/'].intercalate (first :: more) = rest at marks pathText pathRead
  have visible : ∀ c ∈ rest ++ url.queryText ++ url.fragmentText, 0x20 < c.toNat := by
    intro c member
    rcases List.mem_append.mp member with before | inFragment
    · rcases List.mem_append.mp before with inPath | inQuery
      · exact (marks c inPath).2.2
      · unfold queryText at inQuery
        split at inQuery
        · contradiction
        · rename_i text given
          rcases List.mem_cons.mp inQuery with rfl | inside
          · decide
          · exact (ne_of_escapesSpecialQuery (query text given c inside)).2
    · unfold fragmentText at inFragment
      split at inFragment
      · contradiction
      · rename_i text given
        rcases List.mem_cons.mp inFragment with rfl | inside
        · decide
        · exact lt_of_escapesFragment (fragment text given c inside)
  have cutOff : cutEnds (rest ++ url.queryText ++ url.fragmentText)
      = (rest, url.query, url.fragment) := by
    refine cutEnds_ends url (fun c member => ⟨(marks c member).1, (marks c member).2.1⟩) ?_
    exact fun text given inside => (ne_of_escapesSpecialQuery (query text given '#' inside)).1 rfl
  have queryKept : url.query.map (encodeQuery httpScheme) = url.query := by
    refine (Option.map_congr fun text given => ?_).trans Option.map_id'
    rw [encodeQuery, isSpecial_httpScheme, if_pos rfl]
    exact percentEncode_of_plain (query text given)
  have fragmentKept : url.fragment.map (percentEncode escapesFragment) = url.fragment :=
    (Option.map_congr fun text given => percentEncode_of_plain (fragment text given)).trans
      Option.map_id'
  have split : url.frontWith host ++ ('/' :: rest ++ url.queryText ++ url.fragmentText)
      = url.frontWith host ++ '/' :: (rest ++ url.queryText ++ url.fragmentText) := by
    simp
  rw [web.chars_eq_front, pathText, split, web.ofChars_front_append, below,
    settle_of_visible visible, cutOff]
  dsimp only [withEnds]
  rw [pathRead, web.scheme, queryKept, fragmentKept, ← web.scheme]

/-- A plain web address that was read is read from its text again. -/
theorem ofText_text {text : String} {url : Url} (read : ofText text = .ok url)
    (web : url.scheme = httpScheme)
    : ofText url.text = .ok url := by
  obtain ⟨host, plain⟩ := isPlainWeb_of_ofText read web
  rw [ofText, Url.text, String.toList_ofList]
  exact plain.ofChars_chars (hasPlainEnd_of_ofText read web)

end DiscordRest.Url
