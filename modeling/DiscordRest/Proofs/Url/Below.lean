import Mathlib.Data.List.DropRight
import DiscordRest.Proofs.Url.Authority

/-!
Texts below a plain web address. Whatever stands behind a slash after such an address is read as a
URL of the same user, host and port number.
-/

namespace DiscordRest.Url

------------------------------------------------------------------------------------------
-- Ends of texts
------------------------------------------------------------------------------------------

/-- What ends with another character than the dropped ones stays in front. -/
theorem dropEndWhile_append {p : Char → Bool} {front : List Char} (nonempty : front ≠ [])
    (last : p (front.getLast nonempty) = false) (rest : List Char)
    : Text.dropEndWhile p (front ++ rest) = front ++ Text.dropEndWhile p rest := by
  have whole : front.reverse.dropWhile p = front.reverse := by
    obtain ⟨c, others, reversed⟩ :=
      List.exists_cons_of_ne_nil (List.reverse_eq_nil_iff.not.mpr nonempty)
    have same : front.getLast nonempty = c := by
      simp [List.getLast_eq_head_reverse, reversed]
    rw [reversed, List.dropWhile_cons, ← same, last]
    rfl
  rw [Text.dropEndWhile, Text.dropEndWhile, List.reverse_append, List.dropWhile_append]
  split
  · rename_i empty
    rw [whole, List.reverse_reverse, List.isEmpty_iff.mp empty, List.reverse_nil, List.append_nil]
  · rw [List.reverse_append, List.reverse_reverse]

theorem dropEndWhile_isPrefix (p : Char → Bool) (text : List Char)
    : Text.dropEndWhile p text <+: text :=
  List.rdropWhile_prefix p text

/-- A text behind a visible one, without what reading a URL passes over in it. -/
def settle (text : List Char) : List Char :=
  (Text.dropEndWhile (fun c => c.toNat ≤ 0x20) text).filter fun c =>
    !(c == '\t' || c == '\n' || c == '\r')

/-- Visible text at the front of a URL stays as it is. -/
theorem clean_append {front : List Char} (visible : ∀ c ∈ front, 0x20 < c.toNat)
    (nonempty : front ≠ []) (rest : List Char)
    : clean (front ++ rest) = front ++ settle rest := by
  have kept : ∀ c ∈ front, (decide (c.toNat ≤ 0x20)) = false :=
    fun c member => decide_eq_false (Nat.not_le.mpr (visible c member))
  have start : (front ++ rest).dropWhile (fun c => decide (c.toNat ≤ 0x20)) = front ++ rest := by
    obtain ⟨c, others, rfl⟩ := List.exists_cons_of_ne_nil nonempty
    rw [List.cons_append, List.dropWhile_cons, kept c List.mem_cons_self]
    rfl
  have whole : front.filter (fun c => !(c == '\t' || c == '\n' || c == '\r')) = front := by
    refine List.filter_eq_self.mpr fun c member => ?_
    have high := visible c member
    simp only [Bool.not_eq_true', Bool.or_eq_false_iff, beq_eq_false_iff_ne]
    refine ⟨⟨?_, ?_⟩, ?_⟩
    all_goals
      rintro rfl
      exact absurd high (by decide)
  rw [clean, Text.trimWhile, start,
    dropEndWhile_append nonempty (kept _ (List.getLast_mem nonempty)), List.filter_append, whole,
    settle]

------------------------------------------------------------------------------------------
-- Plain web addresses
------------------------------------------------------------------------------------------

/-- A URL of the scheme of plain connections, as reading it gives it. -/
structure IsPlainWeb (url : Url) (host : Host) : Prop where
  scheme : url.scheme = httpScheme
  hasHost : url.host = some host
  authority : (url.authorityWith host).IsCanonical
  path : ∃ rest, url.path.text = '/' :: rest

/-- A URL up to its path, as it is written. -/
def frontWith (url : Url) (host : Host) : List Char :=
  httpScheme ++ [':', '/', '/'] ++ (url.userText ++ host.text ++ url.portText)

theorem IsPlainWeb.chars_eq_front {url : Url} {host : Host} (web : url.IsPlainWeb host)
    : url.chars
      = url.frontWith host ++ (url.path.text ++ url.queryText ++ url.fragmentText) := by
  simp [chars, authorityText, frontWith, web.scheme, web.hasHost]

/-- A plain web address is its front, a slash, and more. -/
theorem IsPlainWeb.chars_eq {url : Url} {host : Host} (web : url.IsPlainWeb host)
    : ∃ rest, url.chars = url.frontWith host ++ '/' :: rest := by
  obtain ⟨rest, path⟩ := web.path
  exact ⟨rest ++ url.queryText ++ url.fragmentText, by rw [web.chars_eq_front, path]; simp⟩

/-- The front of a plain web address holds only visible characters. -/
theorem IsPlainWeb.visible {url : Url} {host : Host} (web : url.IsPlainWeb host) {c : Char}
    (member : c ∈ url.frontWith host)
    : 0x20 < c.toNat := by
  rcases List.mem_append.mp member with scheme | authority
  · have all : (httpScheme ++ [':', '/', '/']).all (0x20 < ·.toNat) = true := by decide
    exact of_decide_eq_true (List.all_eq_true.mp all c scheme)
  · exact (ne_of_mem_authority web.authority authority).2.2.2.2

theorem IsPlainWeb.authority_ne_nil {url : Url} {host : Host} (web : url.IsPlainWeb host)
    : url.userText ++ host.text ++ url.portText ≠ [] := by
  intro empty
  have written := readAuthority_text web.authority true
  rw [empty] at written
  contradiction

/-- The scheme of plain connections is found in front of its colon. -/
theorem readScheme?_httpScheme (rest : List Char)
    : readScheme? (httpScheme ++ ':' :: rest) = some (httpScheme, rest) := by
  rfl

/-- A URL of the same user, host and port number as another one, from the text behind a slash. -/
def below (url : Url) (text : List Char) : Url :=
  let (before, query, fragment) := cutEnds (settle text)
  { url with path := readPath httpScheme ('/' :: before), query := none, fragment := none }.withEnds
    query fragment

/-- A text without marks of query and fragment belongs to what comes before these. -/
theorem cutEnds_append {front : List Char} (free : ∀ c ∈ front, c ≠ '?' ∧ c ≠ '#')
    (rest : List Char)
    : cutEnds (front ++ rest) = (front ++ (cutEnds rest).1, (cutEnds rest).2) := by
  have noQuery : '?' ∉ front := fun member => (free '?' member).1 rfl
  have noFragment : '#' ∉ front := fun member => (free '#' member).2 rfl
  simp only [cutEnds, cut_append noFragment, cut_append noQuery]

/-- An authority goes up to the slash behind it. -/
theorem cutPath_append {authority : List Char} (free : ∀ c ∈ authority, c ≠ '/' ∧ c ≠ '\\')
    (rest : List Char)
    : cutPath true (authority ++ '/' :: rest) = (authority, '/' :: rest) := by
  have inside : ∀ c ∈ authority, (!separates true c) = true := by
    intro c member
    obtain ⟨noSlash, noBackslash⟩ := free c member
    simp [separates, noSlash, noBackslash]
  have front : (authority ++ '/' :: rest).takeWhile (fun c => !separates true c) = authority := by
    rw [List.takeWhile_append_of_pos inside]
    simp [separates]
  simp only [cutPath, front, List.drop_left]

/-- Behind the scheme of plain connections any number of slashes leads to the authority. -/
theorem readHierarchy_httpScheme (text : List Char) (followed : Bool)
    : readHierarchy httpScheme text followed
      = readAfterSlashes httpScheme (text.dropWhile (separates true)) followed := by
  have notFile : ¬httpScheme = fileScheme := by decide
  unfold readHierarchy
  rw [if_neg notFile, if_pos isSpecial_httpScheme]

/-- The front of a plain web address and a path are read as such. -/
theorem IsPlainWeb.readHierarchy_front {url : Url} {host : Host} (web : url.IsPlainWeb host)
    (path : List Char) (followed : Bool)
    : readHierarchy httpScheme
        (['/', '/'] ++ (url.userText ++ host.text ++ url.portText) ++ ['/'] ++ path) followed
      = .ok ⟨httpScheme, url.username, url.password, some host, url.portNumber,
          readPath httpScheme ('/' :: path), none, none⟩ := by
  have marks := fun c => ne_of_mem_authority web.authority (c := c)
  have written := readAuthority_text web.authority
  have nonempty := web.authority_ne_nil
  generalize url.userText ++ host.text ++ url.portText = authority at marks written nonempty
  have slashes : (['/', '/'] ++ authority ++ ['/'] ++ path).dropWhile (separates true)
      = authority ++ '/' :: path := by
    obtain ⟨c, rest, rfl⟩ := List.exists_cons_of_ne_nil nonempty
    obtain ⟨noSlash, noBackslash, _⟩ := marks c List.mem_cons_self
    simp [separates, noSlash, noBackslash]
  have cutOff := cutPath_append (fun c member => ⟨(marks c member).1, (marks c member).2.1⟩) path
  rw [readHierarchy_httpScheme, slashes, readAfterSlashes, isSpecial_httpScheme, cutOff]
  dsimp only
  rw [written]
  rfl

/-- The text behind the slash after a plain web address belongs to the same user, host and port. -/
theorem IsPlainWeb.ofChars_front_append {url : Url} {host : Host} (web : url.IsPlainWeb host)
    (rest : List Char)
    : ofChars (url.frontWith host ++ '/' :: rest) = .ok (url.below rest) := by
  have marks := fun c => ne_of_mem_authority web.authority (c := c)
  have visible : ∀ c ∈ url.frontWith host ++ ['/'], 0x20 < c.toNat := by
    intro c member
    rcases List.mem_append.mp member with front | slash
    · exact web.visible front
    · rw [List.mem_singleton.mp slash]
      decide
  have cleaned : clean (url.frontWith host ++ '/' :: rest)
      = url.frontWith host ++ '/' :: settle rest := by
    have settled := clean_append visible (List.append_ne_nil_of_right_ne_nil _ (by simp)) rest
    simpa using settled
  have split : url.frontWith host ++ '/' :: settle rest
      = httpScheme ++ ':' :: (['/', '/'] ++ (url.userText ++ host.text ++ url.portText) ++ ['/']
        ++ settle rest) := by
    simp [frontWith]
  have free : ∀ c ∈ ['/', '/'] ++ (url.userText ++ host.text ++ url.portText) ++ ['/'],
      c ≠ '?' ∧ c ≠ '#' := by
    intro c member
    rcases List.mem_append.mp member with before | slash
    · rcases List.mem_append.mp before with slashes | authority
      · obtain rfl : c = '/' := by simpa using slashes
        decide
      · exact ⟨(marks c authority).2.2.1, (marks c authority).2.2.2.1⟩
    · rw [List.mem_singleton.mp slash]
      decide
  -- Nothing in front of the slash is cleaned away, nor cut off as a query or a fragment.
  rw [ofChars, cleaned, split, readScheme?_httpScheme]
  dsimp only
  rw [readAfterScheme, cutEnds_append free, below]
  obtain ⟨before, query, fragment⟩ := cutEnds (settle rest)
  dsimp only
  rw [web.readHierarchy_front]
  obtain ⟨scheme, username, password, _, portNumber, path, query, fragment⟩ := url
  obtain rfl : scheme = httpScheme := web.scheme
  obtain rfl := web.hasHost
  rfl

------------------------------------------------------------------------------------------
-- Reading plain web addresses
------------------------------------------------------------------------------------------

/-- Segments that are appended leave at least one, by induction on what is appended. -/
theorem appendSegments_ne_nil (isFile : Bool) (path : List (List Char)) {raw : List (List Char)}
    (nonempty : raw ≠ [])
    : appendSegments isFile path raw ≠ [] := by
  induction raw generalizing path with
  | nil => exact absurd rfl nonempty
  | cons segment rest ih =>
      rw [appendSegments]
      cases rest with
      | nil =>
          dsimp only [List.isEmpty_nil]
          split
          · simp [appendSegments]
          split
          · simp [appendSegments]
          · simp [appendSegments]
      | cons next more =>
          dsimp only [List.isEmpty_cons]
          split
          · exact ih _ (List.cons_ne_nil next more)
          split
          · exact ih _ (List.cons_ne_nil next more)
          · exact ih _ (List.cons_ne_nil next more)

/-- The path of a plain web address is made of pieces between slashes of either kind. -/
theorem exists_readPath_httpScheme (text : List Char)
    : ∃ raw,
        raw ≠ []
        ∧ (∀ piece ∈ raw, ∀ c ∈ piece, separates true c = false)
        ∧ readPath httpScheme text = .segments (appendSegments false [] raw) := by
  have noFile : (httpScheme == fileScheme) = false := by decide
  unfold readPath
  simp only [isSpecial_httpScheme, noFile, Bool.false_eq_true, if_false, if_true]
  split
  · exact ⟨[[]], by simp, by simp, by decide⟩
  · exact ⟨_, splitWhere_ne_nil _ _, fun _ among _ member => not_of_mem_splitWhere among member,
      rfl⟩

/-- The path of a plain web address starts with a slash. -/
theorem readPath_httpScheme (text : List Char)
    : ∃ rest, (readPath httpScheme text).text = '/' :: rest := by
  obtain ⟨raw, nonempty, _, path⟩ := exists_readPath_httpScheme text
  obtain ⟨first, more, same⟩ :=
    List.exists_cons_of_ne_nil (appendSegments_ne_nil false [] nonempty)
  exact ⟨first ++ more.flatMap fun segment => '/' :: segment, by rw [path, same]; rfl⟩

/-- What is read behind the slashes of a plain web address is one. -/
theorem isPlainWeb_of_readAfterSlashes {text : List Char} {followed : Bool} {url : Url}
    (read : readAfterSlashes httpScheme text followed = .ok url)
    : ∃ host, url.IsPlainWeb host := by
  rw [readAfterSlashes, isSpecial_httpScheme] at read
  simp only [bind, Except.bind, readAuthority_httpScheme] at read
  split at read
  · contradiction
  · rename_i found addressRead
    obtain ⟨authority, extra⟩ := found
    obtain rfl := Except.ok.inj read
    exact ⟨authority.host, {
      scheme := rfl
      hasHost := rfl
      authority := isCanonical_of_readAddress addressRead
      path := readPath_httpScheme _
    }⟩

theorem scheme_ofFile (host : Host) (text : List Char) : (ofFile host text).scheme = fileScheme := by
  unfold ofFile
  dsimp only
  split <;> rfl

/-- A URL has the scheme that it was read for. -/
theorem scheme_of_readHierarchy {scheme text : List Char} {followed : Bool} {url : Url}
    (read : readHierarchy scheme text followed = .ok url)
    : url.scheme = scheme := by
  have slashes : ∀ {text}, readAfterSlashes scheme text followed = .ok url
      → url.scheme = scheme := by
    intro text read
    simp only [readAfterSlashes, bind, Except.bind] at read
    split at read
    · contradiction
    · obtain rfl := Except.ok.inj read
      rfl
  unfold readHierarchy at read
  split at read
  · rename_i file
    rw [file]
    unfold readFile at read
    split at read
    · split at read
      · simp only [bind, Except.bind] at read
        split at read
        · contradiction
        · obtain rfl := Except.ok.inj read
          exact scheme_ofFile _ _
      · obtain rfl := Except.ok.inj read
        exact scheme_ofFile _ _
    · obtain rfl := Except.ok.inj read
      exact scheme_ofFile _ _
  split at read
  · exact slashes read
  split at read
  · exact slashes read
  · obtain rfl := Except.ok.inj read
    rfl
  · obtain rfl := Except.ok.inj read
    rfl

/-- A URL that was read is what follows its scheme, with query and fragment added. -/
theorem exists_of_ofText {text : String} {url : Url} (read : ofText text = .ok url)
    : ∃ before query fragment body,
        readHierarchy url.scheme before (query.isSome || fragment.isSome) = .ok body
        ∧ body.withEnds query fragment = url := by
  unfold ofText ofChars at read
  dsimp only at read
  split at read
  · contradiction
  · rename_i scheme rest _
    unfold readAfterScheme at read
    generalize cutEnds rest = ends at read
    obtain ⟨before, query, fragment⟩ := ends
    dsimp only at read
    cases found : readHierarchy scheme before (query.isSome || fragment.isSome) with
    | error fault =>
        rw [found] at read
        contradiction
    | ok body =>
        rw [found] at read
        obtain rfl := Except.ok.inj read
        obtain rfl := scheme_of_readHierarchy found
        exact ⟨before, query, fragment, body, found, rfl⟩

/-- A URL that was read and has the scheme of plain connections is a plain web address. -/
theorem isPlainWeb_of_ofText {text : String} {url : Url} (read : ofText text = .ok url)
    (plain : url.scheme = httpScheme)
    : ∃ host, url.IsPlainWeb host := by
  obtain ⟨before, query, fragment, body, found, rfl⟩ := exists_of_ofText read
  rw [plain, readHierarchy_httpScheme] at found
  obtain ⟨host, web⟩ := isPlainWeb_of_readAfterSlashes found
  exact ⟨host, web.scheme, web.hasHost, web.authority, web.path⟩

theorem IsPlainWeb.front_ne_nil {url : Url} {host : Host} (web : url.IsPlainWeb host)
    : url.frontWith host ≠ [] :=
  List.append_ne_nil_of_right_ne_nil _ web.authority_ne_nil

/-- The front of a plain web address ends with no slash. -/
theorem IsPlainWeb.getLast_front {url : Url} {host : Host} (web : url.IsPlainWeb host)
    : ((url.frontWith host).getLast web.front_ne_nil == '/') = false := by
  have same : (url.frontWith host).getLast web.front_ne_nil
      = (url.userText ++ host.text ++ url.portText).getLast web.authority_ne_nil :=
    List.getLast_append_of_right_ne_nil _ _ web.authority_ne_nil
  rw [same]
  exact beq_false_of_ne
    (ne_of_mem_authority web.authority (List.getLast_mem web.authority_ne_nil)).1

/-- Without the slashes at its end, a plain web address is its front, and a slash and more if any. -/
theorem IsPlainWeb.dropEndWhile_chars {url : Url} {host : Host} (web : url.IsPlainWeb host)
    : ∃ rest, Text.dropEndWhile (· == '/') url.chars = url.frontWith host ++ rest
      ∧ (rest = [] ∨ ∃ more, rest = '/' :: more) := by
  obtain ⟨tail, written⟩ := web.chars_eq
  -- The front ends with no slash, so what is dropped lies behind it.
  rw [written, dropEndWhile_append web.front_ne_nil web.getLast_front]
  refine ⟨_, rfl, ?_⟩
  rcases dropEndWhile_isPrefix (· == '/') ('/' :: tail) with ⟨rest, whole⟩
  cases dropped : Text.dropEndWhile (· == '/') ('/' :: tail) with
  | nil => exact Or.inl rfl
  | cons c more =>
      rw [dropped] at whole
      obtain ⟨rfl, _⟩ := List.cons.inj whole
      exact Or.inr ⟨more, rfl⟩

end DiscordRest.Url
