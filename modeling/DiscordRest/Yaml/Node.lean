import DiscordRest.Yaml.Token

/-!
Nodes of YAML documents: the tree that a document denotes before its scalars get types. An alias
is a leaf that names the number of an anchor, so that a node may even lie within itself.
-/

namespace DiscordRest.Yaml

/-- What may stand before the content of a node. -/
structure Properties where
  /-- The number of its anchor. -/
  anchor : Option Nat
  /-- Its tag. -/
  tag : Option String
  deriving DecidableEq, Repr

/-- No properties at all. -/
def Properties.empty : Properties := ⟨none, none⟩

/-- A node, with the place where it starts. -/
inductive Node where
  /-- A reference to the node with an anchor. -/
  | reference (anchor : Nat) (mark : Mark)
  /-- A scalar. -/
  | scalar (properties : Properties) (text : String) (style : Style) (mark : Mark)
  /-- A sequence. -/
  | sequence (properties : Properties) (items : List Node) (mark : Mark)
  /-- A mapping, as pairs of keys and values. -/
  | mapping (properties : Properties) (entries : List (Node × Node)) (mark : Mark)
  deriving Repr

namespace Node

/-- The scalar that stands where a node is left out. -/
def empty (mark : Mark) : Node :=
  .scalar .empty "" .plain mark

/-- Where a node starts. -/
def mark : Node → Mark
  | reference _ mark => mark
  | scalar _ _ _ mark => mark
  | sequence _ _ mark => mark
  | mapping _ _ mark => mark

mutual

/-- The size of a node: one for a leaf, and two more than its parts for a collection. -/
def size : Node → Nat
  | reference .. => 1
  | scalar .. => 1
  | sequence _ items _ => sizeOfItems items + 2
  | mapping _ entries _ => sizeOfEntries entries + 2

/-- The size of the items of a sequence. -/
def sizeOfItems : List Node → Nat
  | [] => 0
  | item :: rest => item.size + sizeOfItems rest

/-- The size of the entries of a mapping. -/
def sizeOfEntries : List (Node × Node) → Nat
  | [] => 0
  | (key, value) :: rest => key.size + value.size + sizeOfEntries rest

end

mutual

/-- The node with an anchor in a node; of several the last to start. -/
def find? (anchor : Nat) : Node → Option Node
  | reference .. => none
  | scalar properties text style mark =>
    if properties.anchor = some anchor then some (.scalar properties text style mark) else none
  | sequence properties items mark =>
    (findInItems? anchor items).or
      (if properties.anchor = some anchor then some (.sequence properties items mark) else none)
  | mapping properties entries mark =>
    (findInEntries? anchor entries).or
      (if properties.anchor = some anchor then some (.mapping properties entries mark) else none)

/-- The last node with an anchor in the items of a sequence. -/
def findInItems? (anchor : Nat) : List Node → Option Node
  | [] => none
  | item :: rest => (findInItems? anchor rest).or (item.find? anchor)

/-- The last node with an anchor in the entries of a mapping. -/
def findInEntries? (anchor : Nat) : List (Node × Node) → Option Node
  | [] => none
  | (key, value) :: rest =>
    ((findInEntries? anchor rest).or (value.find? anchor)).or (key.find? anchor)

end

end Node

end DiscordRest.Yaml
