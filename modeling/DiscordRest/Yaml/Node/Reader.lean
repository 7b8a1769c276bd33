import DiscordRest.Yaml.Node
import DiscordRest.Yaml.Token.Reader

/-!
Reading the node of a document from its tokens, by recursive descent. Nothing is given for tokens
that break the rules, or for a text with more than one document.
-/

namespace DiscordRest.Yaml

/-- The tokens that are left, and the anchors that were given so far with their numbers. -/
structure Feed where
  /-- The tokens. -/
  tokens : List Token
  /-- The anchors, every name once. -/
  anchors : List (List Char × Nat)

namespace Feed

/-- What is left when other tokens are. -/
def leaving (feed : Feed) (tokens : List Token) : Feed :=
  { feed with tokens }

/-- The number of an anchor. -/
def anchor? (feed : Feed) (name : List Char) : Option Nat :=
  (feed.anchors.find? fun entry => entry.1 == name).map Prod.snd

/-- Gives an anchor a number, which is how many other names there are. -/
def define (feed : Feed) (name : List Char) : Nat × Feed :=
  let number := feed.anchors.length
  let others := feed.anchors.filter fun entry => entry.1 != name
  (number, { feed with anchors := (name, number) :: others })

/-- Whether the next token is one of the given kinds. -/
def isAt (feed : Feed) (kinds : List TokenKind) : Bool :=
  feed.tokens.head?.any fun token => kinds.contains token.kind

/-- What is left after the next token. -/
def skip (feed : Feed) : Feed :=
  feed.leaving feed.tokens.tail

/--
What is left after the comma before an item of a flow collection. None stands before the first
item, and it may be missing before the token that closes the collection.
-/
def afterComma? (first : Bool) (closing : TokenKind) (feed : Feed) : Option Feed :=
  if first || feed.isAt [closing] then some feed
  else if feed.isAt [.flowEntry] then some feed.skip
  else none

/-- Where the next token starts. -/
def mark (feed : Feed) : Mark :=
  (feed.tokens.head?.map Token.start).getD ⟨0, 0⟩

end Feed

/-! ### Properties -/

/-- The tag of a handle and a suffix; a tag without handle is its suffix. -/
def resolveTag? (handles : List (List Char × List Char)) (handle suffix : List Char)
    : Option String :=
  if handle.isEmpty then some (String.ofList suffix)
  else (handles.find? fun entry => entry.1 == handle).map fun entry =>
    String.ofList (entry.2 ++ suffix)

/-- Reads an anchor if there is one. -/
def readAnchor (feed : Feed) : Option Nat × Feed :=
  match feed.tokens with
  | ⟨.anchor name, _, _⟩ :: rest =>
    let (number, feed) := feed.define name
    (some number, feed.leaving rest)
  | _ => (none, feed)

/-- Reads a tag if there is one. -/
def readNodeTag? (handles : List (List Char × List Char)) (feed : Feed)
    : Option (Option String × Feed) :=
  match feed.tokens with
  | ⟨.tag handle suffix, _, _⟩ :: rest =>
    (resolveTag? handles handle suffix).map fun tag => (some tag, feed.leaving rest)
  | _ => some (none, feed)

/-- Reads the properties of a node, in either order. -/
def readProperties? (handles : List (List Char × List Char)) (feed : Feed)
    : Option (Properties × Feed) := do
  let (anchor, feed) := readAnchor feed
  let (tag, feed) ← readNodeTag? handles feed
  match anchor with
  | some _ => some (⟨anchor, tag⟩, feed)
  | none =>
    if tag.isSome then
      let (anchor, feed) := readAnchor feed
      some (⟨anchor, tag⟩, feed)
    else some (.empty, feed)

/-- The properties of a scalar: a tag that only says that there is none is dropped. -/
def Properties.ofScalar (properties : Properties) : Properties :=
  if properties.tag = some "!" then { properties with tag := none } else properties

/-! ### Nodes -/

/-- The tokens at which a key or value of a block mapping is left out. -/
def blockStops : List TokenKind := [.key, .value, .blockEnd]

/-- The tokens at which an item of a block sequence is left out. -/
def itemStops : List TokenKind := [.blockEntry, .blockEnd]

/-- The tokens at which an item is left out in a sequence that has the indentation of its parent. -/
def bareItemStops : List TokenKind := [.blockEntry, .key, .value, .blockEnd]

/-- The tokens at which a value is left out within a flow sequence. -/
def flowItemStops : List TokenKind := [.flowEntry, .flowSequenceEnd]

/-- The tokens at which a value is left out within a flow mapping. -/
def flowEntryStops : List TokenKind := [.flowEntry, .flowMappingEnd]

mutual

/--
Reads a node. Block collections count only if `block` is set, and a block sequence without
indentation of its own only if `bare` is set.
-/
def readNode? (handles : List (List Char × List Char)) (block bare : Bool)
    : Nat → Feed → Option (Node × Feed)
  | 0, _ => none
  | fuel + 1, feed =>
    let mark := feed.mark
    match feed.tokens with
    | ⟨.reference name, _, _⟩ :: rest =>
      (feed.anchor? name).map fun number => (.reference number mark, feed.leaving rest)
    | _ =>
      match readProperties? handles feed with
      | none => none
      | some (properties, feed) =>
        let sequence := fun (items, feed) => (Node.sequence properties items mark, feed)
        let mapping := fun (entries, feed) => (Node.mapping properties entries mark, feed)
        match feed.tokens with
        | [] => none
        | token :: rest =>
          let after := feed.leaving rest
          match token.kind, block with
          | .scalar text style, _ =>
            some (.scalar properties.ofScalar (String.ofList text) style mark, after)
          | .flowSequence, _ => (readFlowItems? handles true fuel after).map sequence
          | .flowMapping, _ => (readFlowEntries? handles true fuel after).map mapping
          | .blockSequence, true => (readItems? handles fuel after).map sequence
          | .blockMapping, true => (readEntries? handles fuel after).map mapping
          | kind, _ =>
            if bare && kind == .blockEntry then (readBareItems? handles fuel feed).map sequence
            else if properties = .empty then none
            else some (.scalar properties "" .plain mark, feed)

/-- Reads a node, or an empty scalar at `mark` if one of the tokens `stops` comes next. -/
def readNodeUnless? (handles : List (List Char × List Char)) (block bare : Bool)
    (stops : List TokenKind) (mark : Mark) : Nat → Feed → Option (Node × Feed)
  | 0, _ => none
  | fuel + 1, feed =>
    if feed.isAt stops then some (.empty mark, feed)
    else readNode? handles block bare fuel feed

/-- Reads the items of a block sequence up to its end. -/
def readItems? (handles : List (List Char × List Char))
    : Nat → Feed → Option (List Node × Feed)
  | 0, _ => none
  | fuel + 1, feed =>
    match feed.tokens with
    | ⟨.blockEntry, _, stop⟩ :: rest =>
      match readNodeUnless? handles true false itemStops stop fuel (feed.leaving rest) with
      | none => none
      | some (item, feed) =>
        (readItems? handles fuel feed).map fun (items, feed) => (item :: items, feed)
    | ⟨.blockEnd, _, _⟩ :: rest => some ([], feed.leaving rest)
    | _ => none

/-- Reads the items of a block sequence that has the indentation of its parent. -/
def readBareItems? (handles : List (List Char × List Char))
    : Nat → Feed → Option (List Node × Feed)
  | 0, _ => none
  | fuel + 1, feed =>
    match feed.tokens with
    | ⟨.blockEntry, _, stop⟩ :: rest =>
      match readNodeUnless? handles true false bareItemStops stop fuel (feed.leaving rest) with
      | none => none
      | some (item, feed) =>
        (readBareItems? handles fuel feed).map fun (items, feed) => (item :: items, feed)
    | _ => some ([], feed)

/-- Reads the entries of a block mapping up to its end. -/
def readEntries? (handles : List (List Char × List Char))
    : Nat → Feed → Option (List (Node × Node) × Feed)
  | 0, _ => none
  | fuel + 1, feed =>
    match feed.tokens with
    | ⟨.key, _, stop⟩ :: rest =>
      match readNodeUnless? handles true true blockStops stop fuel (feed.leaving rest) with
      | none => none
      | some (key, feed) =>
        match readValue? handles fuel feed with
        | none => none
        | some (value, feed) =>
          (readEntries? handles fuel feed).map fun (entries, feed) =>
            ((key, value) :: entries, feed)
    | ⟨.blockEnd, _, _⟩ :: rest => some ([], feed.leaving rest)
    | _ => none

/-- Reads the value of an entry of a block mapping. -/
def readValue? (handles : List (List Char × List Char)) : Nat → Feed → Option (Node × Feed)
  | 0, _ => none
  | fuel + 1, feed =>
    match feed.tokens with
    | ⟨.value, _, stop⟩ :: rest =>
      readNodeUnless? handles true true blockStops stop fuel (feed.leaving rest)
    | _ => some (.empty feed.mark, feed)

/-- Reads the items of a flow sequence up to its end. -/
def readFlowItems? (handles : List (List Char × List Char)) (first : Bool)
    : Nat → Feed → Option (List Node × Feed)
  | 0, _ => none
  | fuel + 1, feed =>
    match feed.afterComma? first .flowSequenceEnd with
    | none => none
    | some feed =>
      if feed.isAt [.flowSequenceEnd] then some ([], feed.skip)
      else
        let item :=
          if feed.isAt [.key] then readPair? handles fuel feed
          else readNode? handles false false fuel feed
        match item with
        | none => none
        | some (item, feed) =>
          (readFlowItems? handles false fuel feed).map fun (items, feed) => (item :: items, feed)

/--
Reads an entry that stands in a flow sequence as a mapping of its own. Where its key is left out,
the token after the mark of the key is passed over.
-/
def readPair? (handles : List (List Char × List Char)) : Nat → Feed → Option (Node × Feed)
  | 0, _ => none
  | fuel + 1, feed =>
    let mark := feed.mark
    let feed := feed.skip
    let key :=
      match feed.tokens with
      | ⟨kind, _, stop⟩ :: rest =>
        if kind == .value || flowItemStops.contains kind then some (.empty stop, feed.leaving rest)
        else readNode? handles false false fuel feed
      | [] => none
    match key with
    | none => none
    | some (key, feed) =>
      (readFlowValue? handles flowItemStops fuel feed).map fun (value, feed) =>
        (.mapping .empty [(key, value)] mark, feed)

/-- Reads the value of an entry within a flow collection. -/
def readFlowValue? (handles : List (List Char × List Char)) (stops : List TokenKind)
    : Nat → Feed → Option (Node × Feed)
  | 0, _ => none
  | fuel + 1, feed =>
    if feed.isAt [.value] then
      let feed := feed.skip
      readNodeUnless? handles false false stops feed.mark fuel feed
    else some (.empty feed.mark, feed)

/-- Reads the entries of a flow mapping up to its end; an entry may be a key alone. -/
def readFlowEntries? (handles : List (List Char × List Char)) (first : Bool)
    : Nat → Feed → Option (List (Node × Node) × Feed)
  | 0, _ => none
  | fuel + 1, feed =>
    match feed.afterComma? first .flowMappingEnd with
    | none => none
    | some feed =>
      if feed.isAt [.flowMappingEnd] then some ([], feed.skip)
      else
        match readFlowEntry? handles fuel feed with
        | none => none
        | some (entry, feed) =>
          (readFlowEntries? handles false fuel feed).map fun (entries, feed) =>
            (entry :: entries, feed)

/-- Reads an entry of a flow mapping. -/
def readFlowEntry? (handles : List (List Char × List Char))
    : Nat → Feed → Option ((Node × Node) × Feed)
  | 0, _ => none
  | fuel + 1, feed =>
    if feed.isAt [.key] then
      let feed := feed.skip
      match readNodeUnless? handles false false (.value :: flowEntryStops) feed.mark fuel feed with
      | none => none
      | some (key, feed) =>
        (readFlowValue? handles flowEntryStops fuel feed).map fun (value, feed) =>
          ((key, value), feed)
    else
      (readNode? handles false false fuel feed).map fun (key, feed) =>
        ((key, .empty feed.mark), feed)

end

/-! ### Documents -/

/-- The handles that every document has, unless its directives change them. -/
def defaultHandles : List (List Char × List Char) :=
  [(['!'], ['!']), (['!', '!'], "tag:yaml.org,2002:".toList)]

/--
Reads directives: at most one version, which must be 1.1 or 1.2, and every handle once. Gives the
handles of the document, and the tokens behind the directives.
-/
def readDirectives? (versioned : Bool) (handles : List (List Char × List Char))
    : List Token → Option (List (List Char × List Char) × List Token)
  | ⟨.version major minor, _, _⟩ :: rest =>
    if versioned || major ≠ 1 || (minor ≠ 1 && minor ≠ 2) then none
    else readDirectives? true handles rest
  | ⟨.handle handle expansion, _, _⟩ :: rest =>
    if handles.any fun entry => entry.1 == handle then none
    else readDirectives? versioned (handles ++ [(handle, expansion)]) rest
  | tokens => some (handles ++ defaultHandles, tokens)

/-- The tokens at which the content of a document is left out. -/
def documentStops : List TokenKind := [.documentStart, .documentEnd, .finish]

/-- Whether a token is a directive. -/
def isDirective (token : Token) : Bool :=
  match token.kind with
  | .version .. => true
  | .handle .. => true
  | _ => false

/-- Reads the root of a document from its tokens, of which some must be there. -/
def readRoot? (tokens : List Token) : Option (Node × Feed) :=
  let fuel := 4 * tokens.length + 4
  if tokens.head?.any fun token => isDirective token || token.kind == .documentStart then
    match readDirectives? false [] tokens with
    | some (handles, ⟨.documentStart, _, _⟩ :: rest) =>
      let feed : Feed := ⟨rest, []⟩
      if rest.head?.any isDirective then some (.empty feed.mark, feed)
      else readNodeUnless? handles true false documentStops feed.mark fuel feed
    | _ => none
  else readNode? defaultHandles true false fuel ⟨tokens, []⟩

/-- A document: its root, unless it has no content at all. -/
structure Document where
  /-- The root. -/
  root : Option Node

namespace Document

/-- Reads the one document of a text. -/
def ofText? (text : List Char) : Option Document := do
  let tokens ← tokens? text
  if tokens.length = 1 then some ⟨none⟩
  else
    let (root, feed) ← readRoot? tokens
    let rest := feed.tokens.dropWhile fun token => token.kind == .documentEnd
    if rest.length = 1 then some ⟨some root⟩ else none

/-- How many steps it takes to go through a document. -/
def size (document : Document) : Nat :=
  (document.root.map Node.size).getD 1

/-- The node with an anchor. -/
def find? (document : Document) (anchor : Nat) : Option Node :=
  document.root.bind fun root => root.find? anchor

end Document

end DiscordRest.Yaml
