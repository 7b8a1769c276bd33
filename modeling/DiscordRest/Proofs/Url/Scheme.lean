import DiscordRest.Proofs.Url.Endpoint

/-!
Schemes of URLs. A scheme is what stands before the first colon; whatever is put behind the colon,
the URL has the same scheme again.
-/

namespace DiscordRest.Url

/-- Whether a character may stand in a scheme. -/
def isSchemeChar (c : Char) : Bool :=
  c.isAlphanum || c == '+' || c == '-' || c == '.'

/-- A scheme as it is kept: in lower case, and with a letter first. -/
structure IsScheme (scheme : List Char) : Prop where
  letter : ∃ c rest, scheme = c :: rest ∧ c.isAlpha = true
  chars : ∀ c ∈ scheme, isSchemeChar c = true
  lower : scheme.map Char.toLower = scheme

theorem toNat_lt_of_isSchemeChar {c : Char} (named : isSchemeChar c = true) : c.toNat < 128 := by
  simp only [isSchemeChar, Bool.or_eq_true, beq_iff_eq] at named
  rcases named with ((letter | rfl) | rfl) | rfl
  · exact Text.toNat_lt_of_isAlphanum letter
  all_goals decide

theorem IsScheme.visible {scheme : List Char} (isScheme : IsScheme scheme) {c : Char}
    (member : c ∈ scheme)
    : 0x20 < c.toNat := by
  have all : ∀ c : Char, c.toNat < 128 → isSchemeChar c = true → 0x20 < c.toNat :=
    Text.forall_toNat_lt (by decide +kernel)
  have named := isScheme.chars c member
  exact all c (toNat_lt_of_isSchemeChar named) named

/-- A scheme is read from what stands before a colon, in lower case. -/
theorem exists_of_readScheme? {text scheme rest : List Char}
    (read : readScheme? text = some (scheme, rest))
    : ∃ name,
        text = name ++ ':' :: rest
        ∧ scheme = name.map Char.toLower
        ∧ (∃ c more, name = c :: more ∧ c.isAlpha = true)
        ∧ ∀ c ∈ name, isSchemeChar c = true := by
  unfold readScheme? at read
  split at read
  · cases read
  · rename_i c more
    dsimp only at read
    split at read
    · rename_i after behind
      split at read
      · rename_i letter
        obtain ⟨rfl, rfl⟩ := Prod.mk.inj (Option.some.inj read)
        refine ⟨_, ?_, rfl, ?_, fun d member => List.mem_takeWhile_imp member⟩
        · rw [← behind]
          exact (List.prefix_iff_eq_append.mp (List.takeWhile_prefix _)).symm
        · refine ⟨c, _, List.takeWhile_cons_of_pos ?_, letter⟩
          simp [Char.isAlphanum, letter]
      · cases read
    · cases read

theorem isScheme_of_readScheme? {text scheme rest : List Char}
    (read : readScheme? text = some (scheme, rest))
    : IsScheme scheme := by
  have all : ∀ c : Char, c.toNat < 128 → isSchemeChar c = true →
      isSchemeChar c.toLower = true
      ∧ c.toLower.toLower = c.toLower
      ∧ (c.isAlpha = true → c.toLower.isAlpha = true) :=
    Text.forall_toNat_lt (by decide +kernel)
  have lower := fun {c : Char} (named : isSchemeChar c = true) =>
    all c (toNat_lt_of_isSchemeChar named) named
  obtain ⟨name, -, rfl, ⟨c, more, rfl, letter⟩, named⟩ := exists_of_readScheme? read
  refine ⟨⟨c.toLower, more.map Char.toLower, rfl, ?_⟩, ?_, ?_⟩
  · exact (lower (named c List.mem_cons_self)).2.2 letter
  · intro d member
    obtain ⟨given, inside, rfl⟩ := List.mem_map.mp member
    exact (lower (named given inside)).1
  · rw [List.map_map]
    exact List.map_congr_left fun d inside => (lower (named d inside)).2.1

/-- A scheme is read back from in front of its colon. -/
theorem IsScheme.readScheme?_append {scheme : List Char} (isScheme : IsScheme scheme)
    (rest : List Char)
    : readScheme? (scheme ++ ':' :: rest) = some (scheme, rest) := by
  have name : (scheme ++ ':' :: rest).takeWhile (fun c =>
      c.isAlphanum || c == '+' || c == '-' || c == '.') = scheme := by
    rw [List.takeWhile_append_of_pos (p := fun c =>
      c.isAlphanum || c == '+' || c == '-' || c == '.') isScheme.chars]
    simp
  obtain ⟨c, more, rfl, letter⟩ := isScheme.letter
  rw [List.cons_append] at name ⊢
  rw [readScheme?]
  simp only [name]
  rw [← List.cons_append, List.drop_left]
  simp only [letter, if_true, isScheme.lower]

/-- A URL that was read starts with its scheme, and has the query that stands behind it. -/
theorem exists_of_ofChars {text : List Char} {url : Url} (read : ofChars text = .ok url)
    : ∃ rest,
        readScheme? (clean text) = some (url.scheme, rest)
        ∧ url.query = (cutEnds rest).2.1.map (encodeQuery url.scheme) := by
  unfold ofChars at read
  dsimp only at read
  split at read
  · cases read
  · rename_i scheme rest found
    unfold readAfterScheme at read
    generalize parts : cutEnds rest = ends at read
    obtain ⟨before, query, fragment⟩ := ends
    dsimp only at read
    cases hierarchy : readHierarchy scheme before (query.isSome || fragment.isSome) with
    | error fault =>
        rw [hierarchy] at read
        cases read
    | ok body =>
        rw [hierarchy] at read
        obtain rfl := Except.ok.inj read
        obtain rfl := scheme_of_readHierarchy hierarchy
        exact ⟨rest, found, by rw [parts]; rfl⟩

theorem isScheme_of_ofText {text : String} {url : Url} (read : ofText text = .ok url)
    : IsScheme url.scheme := by
  obtain ⟨_, found, _⟩ := exists_of_ofChars read
  exact isScheme_of_readScheme? found

/-- What is put behind the colon of a scheme makes a URL of this scheme, if any. -/
theorem scheme_of_ofChars_append {scheme rest : List Char} (isScheme : IsScheme scheme) {url : Url}
    (read : ofChars (scheme ++ ':' :: rest) = .ok url)
    : url.scheme = scheme := by
  have visible : ∀ c ∈ scheme ++ [':'], 0x20 < c.toNat := by
    intro c member
    rcases List.mem_append.mp member with inside | colon
    · exact isScheme.visible inside
    · rw [List.mem_singleton.mp colon]
      decide
  obtain ⟨_, found, _⟩ := exists_of_ofChars read
  rw [List.append_cons, clean_append visible (by simp), ← List.append_cons,
    isScheme.readScheme?_append] at found
  exact (Prod.mk.inj (Option.some.inj found)).1.symm

end DiscordRest.Url
