import DiscordRest.Proofs.Url.Below

/-!
What follows the scheme of a URL: a host, a path of its own, or a text without structure. Paths can
lie below all but the last kind, which is told by the missing slash.
-/

namespace DiscordRest.Url

/-- Whether a slash follows the scheme of a URL, so that paths can lie below it. -/
def IsHierarchical (url : Url) : Prop :=
  ∃ rest, url.chars = url.scheme ++ ':' :: '/' :: rest

/-- An encoded text starts with a slash only where the text does. -/
theorem head?_percentEncode_ne_slash {escapes : Char → Bool} {text : List Char}
    (other : text.head? ≠ some '/')
    : (percentEncode escapes text).head? ≠ some '/' := by
  cases text with
  | nil => exact other
  | cons c rest =>
      have differs : c ≠ '/' := fun same => other (congrArg some same)
      rw [percentEncode, List.flatMap_cons]
      split
      · -- An escaped character starts with a percent sign.
        obtain ⟨byte, more, _, written⟩ := exists_percentChar c
        rw [written]
        simp
      · simpa using differs

/-- What lies between the scheme of a URL and its query: a host, or a path alone. -/
inductive Shape (url : Url) : Prop
  | onHost (present : url.host.isSome = true)
  | rooted (noHost : url.host = none) (first : List Char) (more : List (List Char))
    (path : url.path = .segments (first :: more))
  | whole (noHost : url.host = none) (text : List Char) (path : url.path = .whole text)
    (noSlash : text.head? ≠ some '/')

theorem isSome_host_ofFile (host : Host) (text : List Char)
    : (ofFile host text).host.isSome = true := by
  unfold ofFile
  dsimp only
  split <;> rfl

theorem isSome_host_of_readFile {text : List Char} {url : Url} (read : readFile text = .ok url)
    : url.host.isSome = true := by
  unfold readFile at read
  split at read
  · split at read
    · simp only [bind, Except.bind] at read
      split at read
      · contradiction
      · obtain rfl := Except.ok.inj read
        exact isSome_host_ofFile _ _
    · obtain rfl := Except.ok.inj read
      exact isSome_host_ofFile _ _
  · obtain rfl := Except.ok.inj read
    exact isSome_host_ofFile _ _

theorem isSome_host_of_readAfterSlashes {scheme text : List Char} {followed : Bool} {url : Url}
    (read : readAfterSlashes scheme text followed = .ok url)
    : url.host.isSome = true := by
  simp only [readAfterSlashes, bind, Except.bind] at read
  split at read
  · contradiction
  · obtain rfl := Except.ok.inj read
    rfl

/-- A URL of a special scheme has a host, and any other one a host or a path; by its text. -/
theorem shape_of_readHierarchy {scheme text : List Char} {followed : Bool} {url : Url}
    (read : readHierarchy scheme text followed = .ok url)
    : url.Shape ∧ (isSpecial scheme = true → url.host.isSome = true) := by
  have hosted : url.host.isSome = true
      → url.Shape ∧ (isSpecial scheme = true → url.host.isSome = true) :=
    fun present => ⟨.onHost present, fun _ => present⟩
  unfold readHierarchy at read
  split at read
  · exact hosted (isSome_host_of_readFile read)
  split at read
  · exact hosted (isSome_host_of_readAfterSlashes read)
  rename_i plain
  refine ⟨?_, fun special => absurd special plain⟩
  split at read
  · exact .onHost (isSome_host_of_readAfterSlashes read)
  · rename_i rest _
    obtain rfl := Except.ok.inj read
    obtain ⟨first, more, path⟩ :=
      List.exists_cons_of_ne_nil (appendSegments_ne_nil false [] (splitAt_ne_nil '/' rest))
    exact .rooted rfl first more (congrArg Path.segments path)
  · rename_i noSlash
    obtain rfl := Except.ok.inj read
    refine .whole rfl _ rfl (head?_percentEncode_ne_slash ?_)
    intro starts
    obtain ⟨rest, rfl⟩ := List.head?_eq_some_iff.mp starts
    exact noSlash rest rfl

/-- A URL that was read has one of the shapes; one of a special scheme has a host. -/
theorem shape_of_ofText {text : String} {url : Url} (read : ofText text = .ok url)
    : url.Shape ∧ (isSpecial url.scheme = true → url.host.isSome = true) := by
  obtain ⟨before, query, fragment, body, found, rfl⟩ := exists_of_ofText read
  obtain ⟨shape, hosted⟩ := shape_of_readHierarchy found
  refine ⟨?_, hosted⟩
  cases shape with
  | onHost present => exact .onHost present
  | rooted noHost first more path => exact .rooted noHost first more path
  | whole noHost text path noSlash => exact .whole noHost text path noSlash

/-- A slash follows the scheme of a URL exactly where it can be a base, by its shape. -/
theorem isHierarchical_iff {text : String} {url : Url} (read : ofText text = .ok url)
    : url.IsHierarchical ↔ url.cannotBeBase = false := by
  cases (shape_of_ofText read).1 with
  | onHost present =>
      obtain ⟨host, some_host⟩ := Option.isSome_iff_exists.mp present
      refine iff_of_true ⟨
        '/' :: (url.userText ++ host.text ++ url.portText) ++ url.path.text ++ url.queryText
          ++ url.fragmentText,
        ?_
      ⟩ (by simp [cannotBeBase, some_host])
      simp [chars, authorityText, some_host]
  | rooted noHost first more path =>
      refine iff_of_true ?_ (by simp [cannotBeBase, path, Path.isWhole])
      -- The path starts with a slash itself, or with one before a dot segment.
      have rooted : ∃ rest, url.authorityText ++ url.path.text = '/' :: rest := by
        rw [authorityText, noHost, path]
        dsimp only
        split
        · exact ⟨_, rfl⟩
        · exact ⟨first ++ more.flatMap fun segment => '/' :: segment, rfl⟩
      obtain ⟨rest, written⟩ := rooted
      refine ⟨rest ++ url.queryText ++ url.fragmentText, ?_⟩
      rw [chars, List.append_assoc (url.scheme ++ [':']), written]
      simp
  | whole noHost text path noSlash =>
      refine iff_of_false ?_ (by simp [cannotBeBase, noHost, path, Path.isWhole])
      rintro ⟨rest, written⟩
      rw [chars, authorityText, noHost, path] at written
      simp only [List.append_assoc, List.cons_append, List.nil_append, Path.text,
        List.append_cancel_left_eq, List.cons.injEq, true_and] at written
      cases text with
      | cons c text =>
          obtain ⟨rfl, _⟩ := List.cons.inj written
          exact noSlash rfl
      | nil =>
          rw [List.nil_append, queryText, fragmentText] at written
          revert written
          cases url.query <;> cases url.fragment <;> simp

end DiscordRest.Url
