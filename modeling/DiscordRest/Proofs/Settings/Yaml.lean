import DiscordRest.Proofs.Json.Agreement
import DiscordRest.Settings

/-!
Settings in YAML. A document is read as settings by what stands under their six names at its root,
where the default stands for what is absent; entries with other names say nothing.
-/

namespace DiscordRest

open Yaml

------------------------------------------------------------------------------------------
-- What documents hold
------------------------------------------------------------------------------------------

namespace Yaml

/-- A word of 64 bits, as a plain number. -/
def Reader.word : Reader UInt64 := fun document path node =>
  (natural "u64" greatestWord document path node).map fun n => .ofNat n.val

/-- A word of 32 bits, as a plain number. -/
def Reader.halfWord : Reader UInt32 := fun document path node =>
  (natural "u32" greatestHalfWord document path node).map fun n => .ofNat n.val

namespace Document

/-- The entries at the root of a document; none unless there is a mapping. -/
def members (document : Document) : List (Node × Node) :=
  match document.root.map document.target with
  | some (.mapping _ members _) => members
  | _ => []

/-- The key of an entry is a name. -/
def IsNamed (document : Document) (name : String) (entry : Node × Node) : Prop :=
  ∃ properties style mark, document.target entry.1 = .scalar properties name style mark

theorem isNamed_of_textFor {document : Document} {entry : Node × Node} {expected name : String}
    {path : List Step} (read : Reader.textFor expected document path entry.1 = .ok name)
    : document.IsNamed name entry := by
  unfold Reader.textFor at read
  split at read
  · rename_i properties text style mark target
    obtain rfl := Except.ok.inj read
    exact ⟨properties, style, mark, target⟩
  · cases read

theorem IsNamed.unique {document : Document} {entry : Node × Node} {name other : String}
    (named : document.IsNamed name entry) (again : document.IsNamed other entry)
    : name = other := by
  obtain ⟨_, _, _, target⟩ := named
  obtain ⟨_, _, _, same⟩ := again
  exact (Node.scalar.inj (target.symm.trans same)).2.1

variable {α : Type}

/-- What stands under a name in some entries of a document is read as a value. -/
def GivesIn (document : Document) (members : List (Node × Node)) (name : String)
    (reader : Reader α) (value : α) : Prop :=
  ∃ entry ∈ members,
    document.IsNamed name entry ∧ reader document [.ofKey entry.1] entry.2 = .ok value

/-- What stands under a name at the root of a document is read as a value. -/
def Gives (document : Document) (name : String) (reader : Reader α) (value : α) : Prop :=
  document.GivesIn document.members name reader value

/-- A value is what stands under a name at the root of a document, or the value for its absence. -/
def GivesOr (document : Document) (name : String) (reader : Reader α) (absent value : α) : Prop :=
  document.Gives name reader value
  ∨ (∀ entry ∈ document.members, ¬document.IsNamed name entry) ∧ value = absent

end Document

end Yaml

namespace Settings

/--
A document describes settings. What is absent stands for the value that the default settings have;
entries with other names may be there.
-/
structure DescribedBy (settings : Settings) (document : Document) : Prop where
  baseUrl
    : document.GivesOr "base_url" Reader.text (default : Settings).baseUrl settings.baseUrl
  token
    : document.GivesOr "token" Reader.text.optional (default : Settings).token settings.token
  timeout
    : document.GivesOr "timeout_secs" Reader.word (default : Settings).timeout settings.timeout
  userAgent
    : document.GivesOr "user_agent" Reader.text.optional (default : Settings).userAgent
        settings.userAgent
  pageSize
    : document.GivesOr "page_size" Reader.halfWord (default : Settings).pageSize
        settings.pageSize
  headers
    : document.GivesOr "headers" Reader.textMap (default : Settings).headers settings.headers

------------------------------------------------------------------------------------------
-- One entry
------------------------------------------------------------------------------------------

/-- An entry of a name sets the field of this name, and leaves the others as they are. -/
def Sets {α : Type} (document : Document) (entry : Node × Node) (name field : String)
    (reader : Reader α) (before after : α) : Prop :=
  if name = field then reader document [.ofKey entry.1] entry.2 = .ok after else after = before

theorem Sets.of_ne {α : Type} {document : Document} {entry : Node × Node} {name field : String}
    {reader : Reader α} {value : α} (other : name ≠ field)
    : Sets document entry name field reader value value := by
  rw [Sets, if_neg other]

/-- What an entry of a name makes of settings. -/
structure Enters (document : Document) (entry : Node × Node) (name : String)
    (before after : Settings)
    : Prop where
  baseUrl : Sets document entry name "base_url" Reader.text before.baseUrl after.baseUrl
  token : Sets document entry name "token" Reader.text.optional before.token after.token
  timeout : Sets document entry name "timeout_secs" Reader.word before.timeout after.timeout
  userAgent
    : Sets document entry name "user_agent" Reader.text.optional before.userAgent after.userAgent
  pageSize : Sets document entry name "page_size" Reader.halfWord before.pageSize after.pageSize
  headers : Sets document entry name "headers" Reader.textMap before.headers after.headers

variable {document : Document} {before after : Settings × List String} {entry : Node × Node}

/-- An entry that is read enters settings under its name, by the names that there are. -/
theorem exists_enters_of_addEntry
    (added : addEntry document [] before entry.1 entry.2 = .ok after)
    : ∃ name, document.IsNamed name entry ∧ Enters document entry name before.1 after.1 := by
  obtain ⟨settings, seen⟩ := before
  obtain ⟨name, named, added⟩ := Except.exists_of_bind added
  refine ⟨name, Document.isNamed_of_textFor named, ?_⟩
  split at added
  · cases added
  dsimp only at added
  split at added
  case h_7 notBaseUrl notToken notTimeout notUserAgent notPageSize notHeaders =>
    obtain rfl := Except.ok.inj added
    exact ⟨.of_ne notBaseUrl, .of_ne notToken, .of_ne notTimeout, .of_ne notUserAgent,
      .of_ne notPageSize, .of_ne notHeaders⟩
  -- Each other name sets its field to what is read, and no other field.
  all_goals
    obtain ⟨value, read, entered⟩ := Except.exists_of_bind added
    obtain rfl := Except.ok.inj entered
    constructor <;> first | rfl | exact read | exact Except.map_eq_ok_iff.mpr ⟨value, read, rfl⟩

------------------------------------------------------------------------------------------
-- All entries
------------------------------------------------------------------------------------------

/--
A field holds what the last entry of its name says, or what it held before. By induction on the
entries.
-/
theorem gives_of_entries {α : Type} {name : String} {reader : Reader α} {field : Settings → α}
    (sets : ∀ {entry found before after},
      Enters document entry found before after
      → Sets document entry found name reader (field before) (field after))
    {members : List (Node × Node)}
    (read : Reader.entries (addEntry document []) before members = .ok after)
    : document.GivesIn members name reader (field after.1)
      ∨ (∀ entry ∈ members, ¬document.IsNamed name entry) ∧ field after.1 = field before.1 := by
  induction members generalizing before with
  | nil =>
      obtain rfl := Except.ok.inj read
      exact Or.inr ⟨by simp, rfl⟩
  | cons entry rest ih =>
      unfold Reader.entries at read
      split at read
      · cases read
      · rename_i middle added
        obtain ⟨found, named, enters⟩ := exists_enters_of_addEntry added
        have set := sets enters
        rcases ih read with ⟨later, member, isNamed, given⟩ | ⟨none_later, same⟩
        · exact Or.inl ⟨later, List.mem_cons_of_mem entry member, isNamed, given⟩
        · by_cases ours : found = name
          · subst ours
            rw [Sets, if_pos rfl, ← same] at set
            exact Or.inl ⟨entry, List.mem_cons_self, named, set⟩
          · rw [Sets, if_neg ours] at set
            refine Or.inr ⟨?_, same.trans set⟩
            exact List.forall_mem_cons.mpr ⟨fun again => ours (named.unique again), none_later⟩

/-- Settings that are read entry by entry are described by the document, field by field. -/
theorem describedBy_of_entries {settings : Settings} (seen : List String)
    (read : Reader.entries (addEntry document []) (default, []) document.members
      = .ok (settings, seen))
    : settings.DescribedBy document where
  baseUrl := gives_of_entries Enters.baseUrl read
  token := gives_of_entries Enters.token read
  timeout := gives_of_entries Enters.timeout read
  userAgent := gives_of_entries Enters.userAgent read
  pageSize := gives_of_entries Enters.pageSize read
  headers := gives_of_entries Enters.headers read

/-- A root that is read as settings is read entry by entry from the default settings. -/
theorem describedBy_of_reader {root : Node} {settings : Settings}
    (rooted : document.root = some root) (read : reader document [] root = .ok settings)
    : settings.DescribedBy document := by
  obtain ⟨⟨found, seen⟩, entries, rfl⟩ := Except.map_eq_ok_iff.mp read
  refine describedBy_of_entries seen ?_
  unfold Document.members
  rw [rooted, Option.map_some]
  unfold Reader.mapping at entries
  split at entries
  · rename_i target
    rw [target]
    exact entries
  · rename_i target
    rw [target]
    split at entries
    · exact entries
    · cases entries
  · cases entries

/--
Settings that are read from a text pass their check, and are described by the document that the
text is.
-/
theorem describedBy_of_ofYaml {text : String} {settings : Settings}
    (read : ofYaml text = .ok settings)
    : settings.check = .ok ()
      ∧ ∃ document,
          Document.ofText? text.toList = some document ∧ settings.DescribedBy document := by
  unfold ofYaml at read
  split at read
  · cases read
  · rename_i found given
    obtain ⟨⟨⟩, checked, rfl⟩ := Except.map_eq_ok_iff.mp read
    refine ⟨checked, ?_⟩
    unfold Document.read at given
    split at given
    · cases given
    · rename_i document parsed
      refine ⟨document, parsed, ?_⟩
      dsimp only at given
      split at given
      · rename_i settings same
        obtain rfl := Except.ok.inj given
        split at same
        · rename_i rootless
          obtain rfl := Except.ok.inj same
          refine describedBy_of_entries [] ?_
          rw [Document.members, rootless]
          rfl
        · rename_i root rooted
          exact describedBy_of_reader rooted same
      · split at given <;> cases given

end Settings

end DiscordRest
