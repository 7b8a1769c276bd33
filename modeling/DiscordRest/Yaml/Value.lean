import DiscordRest.Yaml.Node.Reader
import DiscordRest.Yaml.Scalar

/-!
Values of YAML documents. A document has a value if every scalar has a meaning, no mapping has a key
twice, collections nest at most 128 deep, and its aliases do not blow it up.
-/

namespace DiscordRest.Yaml

/-- A value of any type. -/
inductive Value where
  /-- The value of a scalar. -/
  | scalar (meaning : Meaning)
  /-- A sequence. -/
  | sequence (items : List Value)
  /-- A mapping, as its entries. -/
  | mapping (entries : List (Value × Value))
  /-- A value with a tag of one's own. -/
  | tagged (tag : String) (value : Value)
  deriving Repr

namespace Value

mutual

/-- Whether two values are equal; the order of entries does not count. -/
def same : Value → Value → Bool
  | scalar a, scalar b => a.same b
  | sequence a, sequence b => sameItems a b
  | mapping a, mapping b => a.length == b.length && sameEntries a b
  | tagged a value, tagged b other => a == b && value.same other
  | _, _ => false

/-- Whether the items of two sequences are equal. -/
def sameItems : List Value → List Value → Bool
  | [], [] => true
  | a :: rest, b :: others => a.same b && sameItems rest others
  | _, _ => false

/-- Whether all entries of a mapping are among those of another one. -/
def sameEntries : List (Value × Value) → List (Value × Value) → Bool
  | [], _ => true
  | (key, value) :: rest, entries =>
    (entries.any fun entry => key.same entry.1 && value.same entry.2) && sameEntries rest entries

end

end Value

/-- How deep collections may nest. -/
def depthLimit : Nat := 128

/-- How many aliases may be followed for each step through a document. -/
def aliasLimit : Nat := 100

/-- The tag of one's own that a node has. -/
def Properties.ownTag? (properties : Properties) : Option String :=
  match properties.tag with
  | none => none
  | some tag =>
    match tag.toList with
    | ['!'] => some "!"
    | '!' :: rest => some (String.ofList rest)
    | _ => none

/-- A value with the tag of its node. -/
def Properties.label (properties : Properties) (value : Value) : Value :=
  match properties.ownTag? with
  | none => value
  | some tag => .tagged tag value

mutual

/--
The value of a node within at most `depth` collections, and how many of `jumps` aliases are left to
be followed behind it.
-/
def Document.nodeValue? (document : Document)
    : Nat → Nat → Nat → Node → Option (Value × Nat)
  | 0, _, _, _ => none
  | fuel + 1, depth, jumps, node =>
    match node with
    | .reference anchor _ =>
      match jumps, document.find? anchor with
      | jumps + 1, some target => document.nodeValue? fuel depth jumps target
      | _, _ => none
    | .scalar properties text style _ =>
      (Meaning.ofScalar? properties.tag text style).map fun meaning =>
        (properties.label (.scalar meaning), jumps)
    | .sequence properties items _ =>
      if depth = 0 then none
      else (document.itemValues? fuel (depth - 1) jumps items).map fun (values, jumps) =>
        (properties.label (.sequence values), jumps)
    | .mapping properties entries _ =>
      if depth = 0 then none
      else (document.entryValues? fuel (depth - 1) jumps [] entries).map fun (values, jumps) =>
        (properties.label (.mapping values), jumps)

/-- The values of the items of a sequence. -/
def Document.itemValues? (document : Document)
    : Nat → Nat → Nat → List Node → Option (List Value × Nat)
  | 0, _, _, _ => none
  | _, _, jumps, [] => some ([], jumps)
  | fuel + 1, depth, jumps, item :: rest =>
    match document.nodeValue? fuel depth jumps item with
    | none => none
    | some (value, jumps) =>
      (document.itemValues? fuel depth jumps rest).map fun (values, jumps) =>
        (value :: values, jumps)

/-- The values of the entries of a mapping after those that were read; no key may come twice. -/
def Document.entryValues? (document : Document)
    : Nat → Nat → Nat → List (Value × Value) → List (Node × Node)
      → Option (List (Value × Value) × Nat)
  | 0, _, _, _, _ => none
  | _, _, jumps, read, [] => some (read.reverse, jumps)
  | fuel + 1, depth, jumps, read, (key, item) :: rest =>
    match document.nodeValue? fuel depth jumps key with
    | none => none
    | some (key, jumps) =>
      if read.any fun entry => key.same entry.1 then none
      else
        match document.nodeValue? fuel depth jumps item with
        | none => none
        | some (value, jumps) =>
          document.entryValues? fuel depth jumps ((key, value) :: read) rest

end

/--
The value of a document; null if there is no content. A step of the recursion goes to the next item
or into the next collection, which bounds their number.
-/
def Document.value? (document : Document) : Option Value :=
  match document.root with
  | none => some (.scalar .null)
  | some root =>
    let fuel := (depthLimit + 2) * (document.size + 4)
    (document.nodeValue? fuel depthLimit (aliasLimit * document.size) root).map Prod.fst

end DiscordRest.Yaml
