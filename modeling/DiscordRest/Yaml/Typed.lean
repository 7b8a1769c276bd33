import DiscordRest.Text.Map
import DiscordRest.Yaml.Value

/-!
Reading values of a known type from YAML documents. Where the type does not fit, the failure names
the way to the node at fault; but a document without a value is malformed in the first place.
-/

namespace DiscordRest.Yaml

/-- A reader of a type: it reads a node of a document at the end of a way from the root. -/
abbrev Reader (α : Type) : Type :=
  Document → List Step → Node → Except Failure α

/-- The node that an alias stands for, or the node itself. -/
def Document.target (document : Document) (node : Node) : Node :=
  match node with
  | .reference anchor _ => (document.find? anchor).getD node
  | node => node

/-- The failure of a node that is of another type than expected. -/
def wrongType (expected : String) (path : List Step) (node : Node) : Failure :=
  match node with
  | .reference .. => .malformed
  | .scalar properties text style mark =>
    match Meaning.ofScalar? properties.tag text style with
    | none => .malformed
    | some meaning => .mismatch path (.wrongType meaning.found expected) mark
  | .sequence _ _ mark => .mismatch path (.wrongType .sequence expected) mark
  | .mapping _ _ mark => .mismatch path (.wrongType .mapping expected) mark

/-- The step to the value of a key. -/
def Step.ofKey : Node → Step
  | .scalar _ text _ _ => .key text
  | _ => .unknownKey

namespace Reader

/-- Reads any scalar as a text, as it is written; `expected` says what the text stands for. -/
def textFor (expected : String) : Reader String := fun document path node =>
  match document.target node with
  | .scalar _ text _ _ => .ok text
  | node => .error (wrongType expected path node)

/-- Reads any scalar as a text, as it is written. -/
def text : Reader String :=
  textFor "a string"

/-- Whether a scalar may be an integer: it is plain, or a literal block that is tagged as one. -/
def mayBeInteger (properties : Properties) (style : Style) : Bool :=
  style = .plain || (style = .literal && properties.tag = some (Meaning.typeTag "int"))

/-- Reads a natural number of at most `greatest`, of a kind that messages call `name`. -/
def natural (name : String) (greatest : Nat) : Reader { n : Nat // n ≤ greatest } :=
  fun document path node =>
    match document.target node with
    | .scalar properties text style mark =>
      let node := Node.scalar properties text style mark
      if mayBeInteger properties style then
        match readUnsigned? greatestWord text.toList with
        | some value =>
          if fits : value ≤ greatest then .ok ⟨value, fits⟩
          else .error (.mismatch path (.wrongValue (.integer value) name) mark)
        | none => .error (wrongType name path node)
      else .error (wrongType name path node)
    | node => .error (wrongType name path node)

/-- Reads a value that may be missing: a plain scalar that is empty or null stands for none. -/
def optional {α : Type} (reader : Reader α) : Reader (Option α) := fun document path node =>
  let read := (reader document path node).map some
  match document.target node with
  | .scalar properties text .plain _ =>
    match properties.tag with
    | none => if text.isEmpty || isNullWord text then .ok none else read
    | some tag =>
      if tag = Meaning.typeTag "null" then
        if isNullWord text then .ok none else .error .malformed
      else read
  | _ => read

/-- Reads the entries of a mapping one after another. -/
def entries {α : Type} (add : α → Node → Node → Except Failure α)
    : α → List (Node × Node) → Except Failure α
  | read, [] => .ok read
  | read, (key, value) :: rest =>
    match add read key value with
    | .error failure => .error failure
    | .ok read => entries add read rest

/-- Reads a mapping entry by entry; a plain scalar that is empty stands for one without entries. -/
def mapping {α : Type} (expected : String) (start : α)
    (add : Document → List Step → α → Node → Node → Except Failure α) : Reader α :=
  fun document path node =>
    match document.target node with
    | .mapping _ members _ => entries (add document path) start members
    | .scalar properties text style mark =>
      if text.isEmpty && style = .plain then .ok start
      else .error (wrongType expected path (.scalar properties text style mark))
    | node => .error (wrongType expected path node)

/-- Reads a mapping from texts to texts; of a repeated key the last value counts. -/
def textMap : Reader TextMap :=
  mapping "a map" .empty fun document path map key value => do
    let name ← text document path key
    let value ← text document (path ++ [.ofKey key]) value
    .ok (map.put name value)

end Reader

/-- Reads a document. What has no value at all is malformed, whatever else is wrong with it. -/
def Document.read {α : Type} (text : String) (reader : Reader α) (absent : Except Failure α)
    : Except Failure α :=
  match Document.ofText? text.toList with
  | none => .error .malformed
  | some document =>
    let read := match document.root with
      | none => absent
      | some root => reader document [] root
    match read with
    | .ok value => .ok value
    | .error failure =>
      if document.value?.isSome then .error failure else .error .malformed

end DiscordRest.Yaml
