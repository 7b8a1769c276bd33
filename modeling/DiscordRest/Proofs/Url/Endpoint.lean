import DiscordRest.Proofs.Url.Path

/-!
Endpoints behind plain web addresses. Putting a slash and an endpoint behind the text of an address
extends whatever stands last in it: the path, but the query if there is one, and the fragment if
there is one.
-/

namespace DiscordRest.Url

------------------------------------------------------------------------------------------
-- Endpoints
------------------------------------------------------------------------------------------

/-- Whether a character is a letter or a digit, an at sign or a slash. -/
def isEndpointChar (c : Char) : Bool :=
  c.isAlphanum || c == '@' || c == '/'

/-- A path of letters, digits, at signs and slashes that does not start with a slash. -/
structure IsEndpoint (text : List Char) : Prop where
  chars : ∀ c ∈ text, isEndpointChar c = true
  first : ∃ c rest, text = c :: rest ∧ c ≠ '/'

theorem ne_of_isEndpointChar {c : Char} (plain : isEndpointChar c = true)
    : escapesPath c = false
      ∧ escapesSpecialQuery c = false
      ∧ c ≠ '\\'
      ∧ c.toLower ≠ '.'
      ∧ c.toLower ≠ '%' := by
  have low : c.toNat < 128 := by
    simp only [isEndpointChar, Bool.or_eq_true, beq_iff_eq] at plain
    rcases plain with (letter | rfl) | rfl
    · exact Text.toNat_lt_of_isAlphanum letter
    · decide
    · decide
  have all : ∀ c : Char, c.toNat < 128 → isEndpointChar c = true →
      escapesPath c = false
      ∧ escapesSpecialQuery c = false
      ∧ c ≠ '\\'
      ∧ c.toLower ≠ '.'
      ∧ c.toLower ≠ '%' :=
    Text.forall_toNat_lt (by decide +kernel)
  exact all c low plain

theorem IsEndpoint.isPlainSegment {endpoint : List Char} (plain : IsEndpoint endpoint)
    : ∀ segment ∈ splitAt '/' endpoint, IsPlainSegment segment := by
  intro segment among
  have marks := fun c member =>
    ne_of_isEndpointChar (plain.chars c (mem_of_mem_splitWhere among member))
  constructor
  · intro c member
    obtain ⟨spared, _, noBackslash, _⟩ := marks c member
    have noSlash := not_of_mem_splitWhere among member
    exact ⟨spared, by simp [separates, noSlash, noBackslash]⟩
  · exact isDots_eq_false fun c member => (marks c member).2.2.2

------------------------------------------------------------------------------------------
-- Addresses with endpoints
------------------------------------------------------------------------------------------

/-- A text without the slashes at its end. -/
def trimSlashes (text : List Char) : List Char :=
  Text.dropEndWhile (· == '/') text

/-- A path with an endpoint behind a slash. -/
def Path.extend : Path → List Char → Path
  | .whole text, endpoint => .whole (trimSlashes text ++ '/' :: endpoint)
  | .segments parts, endpoint =>
    .segments (parts.rdropWhile List.isEmpty ++ splitAt '/' endpoint)

/-- A URL whose text is that of another one with an endpoint behind it. -/
def withEndpoint (url : Url) (endpoint : List Char) : Url :=
  match url.fragment, url.query with
  | some fragment, _ => { url with fragment := some (trimSlashes fragment ++ '/' :: endpoint) }
  | none, some query => { url with query := some (trimSlashes query ++ '/' :: endpoint) }
  | none, none => { url with path := url.path.extend endpoint }

variable {url : Url} {host : Host} {endpoint : List Char}

theorem trimSlashes_append_cons {c : Char} (other : c ≠ '/') (front rest : List Char)
    : trimSlashes (front ++ c :: rest) = front ++ c :: trimSlashes rest := by
  have nonempty : front ++ [c] ≠ [] := by simp
  have last : ((front ++ [c]).getLast nonempty == '/') = false := by simpa using other
  have dropped : trimSlashes (front ++ [c] ++ rest) = front ++ [c] ++ trimSlashes rest :=
    dropEndWhile_append nonempty last rest
  rwa [List.append_assoc, List.append_assoc] at dropped

/-- Empty segments at the end of a path are the slashes there, by induction from the end. -/
theorem trimSlashes_flatMap {segments : List (List Char)}
    (noSlash : ∀ segment ∈ segments, '/' ∉ segment)
    : trimSlashes (segments.flatMap fun segment => '/' :: segment)
      = (segments.rdropWhile List.isEmpty).flatMap fun segment => '/' :: segment := by
  induction segments using List.reverseRecOn with
  | nil => rfl
  | append_singleton segments last ih =>
      have before := ih fun segment among => noSlash segment (List.mem_append_left _ among)
      rcases List.eq_nil_or_concat last with rfl | ⟨front, c, rfl⟩
      · rw [List.rdropWhile_concat_pos _ _ _ rfl, ← before]
        simp [trimSlashes, Text.dropEndWhile]
      · have other : c ≠ '/' := by
          rintro rfl
          exact noSlash (front ++ ['/']) (by simp) (by simp)
        have kept := trimSlashes_append_cons other
          ((segments.flatMap fun segment => '/' :: segment) ++ '/' :: front) []
        have nothing : trimSlashes [] = [] := rfl
        rw [nothing] at kept
        rw [List.rdropWhile_concat_neg _ _ _ (by simp)]
        simpa using kept

/-- A path with an endpoint is written as the path, a slash and the endpoint. -/
theorem text_extend {path : Path}
    (noSlash : ∀ segments, path = .segments segments → ∀ segment ∈ segments, '/' ∉ segment)
    (endpoint : List Char)
    : (path.extend endpoint).text = trimSlashes path.text ++ '/' :: endpoint := by
  cases path with
  | whole text => rfl
  | segments parts =>
      obtain ⟨first, more, same⟩ := List.exists_cons_of_ne_nil (splitAt_ne_nil '/' endpoint)
      have written := text_segments first more
      rw [← same, intercalate_splitAt, Path.text] at written
      rw [Path.extend, Path.text, Path.text, trimSlashes_flatMap (noSlash parts rfl),
        List.flatMap_append, written]

theorem HasPlainEnd.noSlash (plain : url.HasPlainEnd)
    : ∀ segments, url.path = .segments segments → ∀ segment ∈ segments, '/' ∉ segment := by
  obtain ⟨first, more, path, segments⟩ := plain.path
  intro parts same segment among slash
  obtain rfl := Path.segments.inj (path.symm.trans same)
  exact absurd ((segments segment among).chars '/' slash).2 (by decide)

/-- An endpoint is written behind the text of an address, by what stands last in this. -/
theorem IsPlainWeb.chars_withEndpoint (web : url.IsPlainWeb host) (plain : url.HasPlainEnd)
    (endpoint : List Char)
    : (url.withEndpoint endpoint).chars = trimSlashes url.chars ++ '/' :: endpoint := by
  have front := web.chars_eq_front
  unfold withEndpoint
  split
  · rename_i fragment given
    have written : url.chars
        = url.scheme ++ [':'] ++ url.authorityText ++ url.path.text ++ url.queryText
          ++ '#' :: fragment := by
      rw [chars, fragmentText, given]
    rw [written, trimSlashes_append_cons (by decide)]
    simp [chars, authorityText, userText, portText, queryText, fragmentText]
  · rename_i query none_behind given
    have written : url.chars
        = url.scheme ++ [':'] ++ url.authorityText ++ url.path.text ++ '?' :: query := by
      rw [chars, queryText, fragmentText, none_behind, given, List.append_nil]
    rw [written, trimSlashes_append_cons (by decide)]
    simp [chars, authorityText, userText, portText, queryText, fragmentText, none_behind]
  · rename_i no_fragment no_query
    have written : url.chars = url.frontWith host ++ url.path.text := by
      rw [front, queryText, fragmentText, no_query, no_fragment, List.append_nil, List.append_nil]
    have dropped : trimSlashes (url.frontWith host ++ url.path.text)
        = url.frontWith host ++ trimSlashes url.path.text :=
      dropEndWhile_append web.front_ne_nil web.getLast_front url.path.text
    rw [written, dropped]
    simp [chars, authorityText, userText, portText, queryText, fragmentText, no_query, no_fragment,
      text_extend plain.noSlash, web.hasHost, web.scheme, frontWith]

theorem IsPlainWeb.withEndpoint (web : url.IsPlainWeb host) (plain : url.HasPlainEnd)
    (endpoint : List Char)
    : (url.withEndpoint endpoint).IsPlainWeb host := by
  obtain ⟨scheme, hasHost, authority, path⟩ := web
  unfold Url.withEndpoint
  split
  · exact ⟨scheme, hasHost, authority, path⟩
  · exact ⟨scheme, hasHost, authority, path⟩
  · refine ⟨scheme, hasHost, authority, ?_⟩
    obtain ⟨rest, slash⟩ := path
    rcases dropEndWhile_isPrefix (· == '/') url.path.text with ⟨dropped, whole⟩
    rw [text_extend plain.noSlash, trimSlashes]
    rw [slash] at whole ⊢
    cases kept : Text.dropEndWhile (· == '/') ('/' :: rest) with
    | nil => exact ⟨endpoint, rfl⟩
    | cons c more =>
        rw [kept] at whole
        obtain ⟨rfl, _⟩ := List.cons.inj whole
        exact ⟨_, rfl⟩

/-- An endpoint leaves an address plain behind its host. -/
theorem HasPlainEnd.withEndpoint (plain : url.HasPlainEnd) (isEndpoint : IsEndpoint endpoint)
    : (url.withEndpoint endpoint).HasPlainEnd := by
  obtain ⟨⟨first, more, path, segments⟩, query, fragment⟩ := plain
  have marks := fun c member => ne_of_isEndpointChar (isEndpoint.chars c member)
  have behind : ∀ {text : List Char} {p : Char → Bool},
      (∀ c ∈ text, p c = false) → p '/' = false → (∀ c ∈ endpoint, p c = false)
      → ∀ c ∈ trimSlashes text ++ '/' :: endpoint, p c = false := by
    intro text p given slash added c member
    rcases List.mem_append.mp member with before | after
    · exact given c ((dropEndWhile_isPrefix (· == '/') text).subset before)
    · rcases List.mem_cons.mp after with rfl | later
      · exact slash
      · exact added c later
  unfold Url.withEndpoint
  split
  · rename_i text given
    refine ⟨⟨first, more, path, segments⟩, query, ?_⟩
    intro extended same
    obtain rfl := Option.some.inj same
    exact behind (fragment text given) (by decide)
      fun c member => (Bool.or_eq_false_iff.mp (marks c member).1).1
  · rename_i text no_fragment given
    refine ⟨⟨first, more, path, segments⟩, ?_, fragment⟩
    intro extended same
    obtain rfl := Option.some.inj same
    exact behind (query text given) (by decide) fun c member => (marks c member).2.1
  · refine ⟨?_, query, fragment⟩
    obtain ⟨start, rest, same⟩ := List.exists_cons_of_ne_nil
      (List.append_ne_nil_of_right_ne_nil ((first :: more).rdropWhile List.isEmpty)
        (splitAt_ne_nil '/' endpoint))
    refine ⟨start, rest, by rw [path, Path.extend, same], ?_⟩
    rw [← same]
    intro segment member
    rcases List.mem_append.mp member with before | added
    · exact segments segment ((List.rdropWhile_prefix _ _).subset before)
    · exact isEndpoint.isPlainSegment segment added

@[simp] theorem host_withEndpoint (url : Url) (endpoint : List Char)
    : (url.withEndpoint endpoint).host = url.host := by
  unfold Url.withEndpoint
  split <;> rfl

@[simp] theorem portNumber_withEndpoint (url : Url) (endpoint : List Char)
    : (url.withEndpoint endpoint).portNumber = url.portNumber := by
  unfold Url.withEndpoint
  split <;> rfl

theorem path_withEndpoint (url : Url) (endpoint : List Char)
    : (url.withEndpoint endpoint).path
      = if url.query = none ∧ url.fragment = none then url.path.extend endpoint else url.path := by
  unfold Url.withEndpoint
  split <;> simp_all

theorem query_withEndpoint (url : Url) (endpoint : List Char)
    : (url.withEndpoint endpoint).query
      = if url.fragment = none then url.query.map fun query => trimSlashes query ++ '/' :: endpoint
        else url.query := by
  unfold Url.withEndpoint
  split <;> simp_all

/-- The text of an address with an endpoint behind it is read as the address with the endpoint. -/
theorem ofChars_withEndpoint (web : url.IsPlainWeb host) (plain : url.HasPlainEnd)
    (isEndpoint : IsEndpoint endpoint)
    : ofChars (trimSlashes url.chars ++ '/' :: endpoint) = .ok (url.withEndpoint endpoint) := by
  rw [← web.chars_withEndpoint plain]
  exact (web.withEndpoint plain endpoint).ofChars_chars (plain.withEndpoint isEndpoint)

/-- An endpoint is no rest of slashes, so no path ends with it where its slashes end. -/
theorem IsEndpoint.ne_text (isEndpoint : IsEndpoint endpoint) (text : List Char)
    : text ≠ trimSlashes text ++ '/' :: endpoint := by
  obtain ⟨c, rest, rfl, other⟩ := isEndpoint.first
  intro same
  have cutOff : trimSlashes text ++ text.rtakeWhile (· == '/') = text :=
    List.rdropWhile_append_rtakeWhile
  have slashes := List.append_cancel_left (cutOff.trans same)
  have member : c ∈ text.rtakeWhile (· == '/') := by simp [slashes]
  exact other (by simpa using List.mem_rtakeWhile_imp member)

end DiscordRest.Url
