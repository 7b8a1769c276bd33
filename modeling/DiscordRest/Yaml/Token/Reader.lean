import DiscordRest.Yaml.Token.Property
import DiscordRest.Yaml.Token.Scalar

/-!
Cutting a text into tokens. Whether something is the key of a block mapping shows only at the colon
behind it, so that the places where a key may have started are remembered, and the tokens before
the key are put in afterwards. Nothing is given for a text that breaks the rules.
-/

namespace DiscordRest.Yaml

/-! ### What is known while tokens are read -/

/-- A place where a key may have started. -/
structure KeyStart where
  /-- Whether nothing but a key can stand there. -/
  required : Bool
  /-- How many tokens lie before it. -/
  position : Nat
  /-- How many characters lie before it. -/
  index : Nat
  /-- Its line and column. -/
  mark : Mark

/-- A key lies within one line and has at most 1024 characters. -/
def KeyStart.isPast (start : KeyStart) (cursor : Cursor) : Bool :=
  start.mark.line < cursor.mark.line || start.index + 1024 < cursor.index

/-- Tokens that were read and what is left to read. -/
structure Scan where
  /-- The place in the text. -/
  cursor : Cursor
  /-- The tokens. -/
  tokens : Array Token
  /-- The columns of the open blocks, the innermost first. -/
  indents : List Nat
  /-- Where a key of the innermost collection may have started. -/
  key : Option KeyStart
  /-- The same for all collections around it; there is one for each open flow collection. -/
  outerKeys : List (Option KeyStart)
  /-- Whether a key may start here. -/
  keyAllowed : Bool

namespace Scan

/-- The beginning of a text. -/
def start (text : List Char) : Scan :=
  ⟨.start text, #[], [], none, [], true⟩

/-- Whether the place lies within a flow collection. -/
def inFlow (scan : Scan) : Bool :=
  !scan.outerKeys.isEmpty

/-- The place with a token added that ends there. -/
def add (scan : Scan) (kind : TokenKind) (mark : Mark) (cursor : Cursor) : Scan :=
  { scan with tokens := scan.tokens.push ⟨kind, scan.cursor.mark, mark⟩, cursor }

/-- The place after an indicator of some characters, which is a token. -/
def addIndicator (scan : Scan) (kind : TokenKind) (length : Nat) : Scan :=
  let next := scan.cursor.skipMany length
  scan.add kind next.mark next

/-- The same place, where a key may or may not start. -/
def allowKey (scan : Scan) (keyAllowed : Bool) : Scan :=
  { scan with keyAllowed }

/-! ### Blocks and keys -/

/-- Closes the blocks to the right of a column, or all blocks; flow collections have no columns. -/
def closeBlocks (scan : Scan) (column : Option Nat) : Scan :=
  if scan.inFlow then scan
  else
    let closed := scan.indents.takeWhile fun indent => column.all (· < indent)
    let mark := scan.cursor.mark
    { scan with
      indents := scan.indents.drop closed.length
      tokens := scan.tokens ++ closed.map fun _ => Token.mk .blockEnd mark mark }

/-- Opens a block at a column that lies to the right of the last one, with a token at `position`. -/
def openBlock (scan : Scan) (kind : TokenKind) (position : Nat) (mark : Mark) : Scan :=
  if scan.inFlow || scan.indents.head?.any (mark.column ≤ ·) then scan
  else
    { scan with
      indents := mark.column :: scan.indents
      tokens := scan.tokens.insertIdxIfInBounds position ⟨kind, mark, mark⟩ }

/-- Opens a block at the current place. -/
def openBlockHere (scan : Scan) (kind : TokenKind) : Scan :=
  scan.openBlock kind scan.tokens.size scan.cursor.mark

/-- Gives up the key that may have started; none if a key is required there. -/
def dropKey? (scan : Scan) : Option Scan :=
  if scan.key.any KeyStart.required then none else some { scan with key := none }

/-- Remembers that a key may start here. -/
def saveKey? (scan : Scan) : Option Scan :=
  if scan.keyAllowed then do
    let scan ← scan.dropKey?
    let required := !scan.inFlow && scan.indents.head? == some scan.cursor.column
    some { scan with
      key := some ⟨required, scan.tokens.size, scan.cursor.index, scan.cursor.mark⟩ }
  else some scan

/-- Gives up a key that is past; none if a key is required there. -/
def dropPast? (cursor : Cursor) (key : Option KeyStart) : Option (Option KeyStart) :=
  match key with
  | none => some none
  | some start =>
    if start.isPast cursor then if start.required then none else some none else some (some start)

/-- Gives up all keys that are past. -/
def dropPastKeys? (scan : Scan) : Option Scan := do
  let outerKeys ← scan.outerKeys.mapM (dropPast? scan.cursor)
  let key ← dropPast? scan.cursor scan.key
  some { scan with key, outerKeys }

/-! ### Tokens -/

/-- Passes over blanks, comments and line breaks; tabs may not stand where a key may start. -/
def skipBlanks : Nat → Scan → Scan
  | 0, scan => scan
  | fuel + 1, scan =>
    let cursor := scan.cursor
    let cursor := if cursor.index = 0 && cursor.isAt '\ufeff' then cursor.skip else cursor
    let tabs := scan.inFlow || !scan.keyAllowed
    let cursor := cursor.skipWhile fun c => c == ' ' || (tabs && c == '\t')
    let cursor := if cursor.isAt '#' then cursor.skipWhile fun c => !isBreak c else cursor
    if cursor.head?.any isBreak then
      skipBlanks fuel
        { scan with cursor := cursor.skipLine, keyAllowed := scan.keyAllowed || !scan.inFlow }
    else { scan with cursor }

/-- Ends the text on a line of its own. -/
def finish? (scan : Scan) : Option Scan := do
  let mark := scan.cursor.mark
  let mark := if mark.column = 0 then mark else ⟨mark.line + 1, 0⟩
  let scan := { scan with cursor := { scan.cursor with mark } }
  let scan ← (scan.closeBlocks none).dropKey?
  some (scan.add .finish mark scan.cursor)

/-- Reads a directive. -/
def directive? (scan : Scan) : Option Scan := do
  let scan ← (scan.closeBlocks none).dropKey?
  let (kind, mark, cursor) ← readDirective? scan.cursor.skip
  some ((scan.add kind mark cursor).allowKey false)

/-- Reads a marker of a document's start or end. -/
def documentMarker? (scan : Scan) (kind : TokenKind) : Option Scan := do
  let scan ← (scan.closeBlocks none).dropKey?
  some ((scan.addIndicator kind 3).allowKey false)

/-- Reads the start of a flow collection, which may be a key itself. -/
def flowStart? (scan : Scan) (kind : TokenKind) : Option Scan := do
  let scan ← scan.saveKey?
  some (({ scan with key := none, outerKeys := scan.key :: scan.outerKeys }.allowKey
    true).addIndicator kind 1)

/-- Reads the end of a flow collection. -/
def flowEnd? (scan : Scan) (kind : TokenKind) : Option Scan := do
  let scan ← scan.dropKey?
  let scan := match scan.outerKeys with
    | [] => scan
    | key :: outerKeys => { scan with key, outerKeys }
  some ((scan.allowKey false).addIndicator kind 1)

/-- Reads a comma. -/
def flowEntry? (scan : Scan) : Option Scan := do
  let scan ← scan.dropKey?
  some ((scan.allowKey true).addIndicator .flowEntry 1)

/-- Opens a block in which a key could start at the current place. -/
def openBlockAtKey? (scan : Scan) (kind : TokenKind) : Option Scan :=
  if scan.inFlow then some scan
  else if scan.keyAllowed then some (scan.openBlockHere kind)
  else none

/-- Reads the mark of an item of a block sequence. -/
def blockEntry? (scan : Scan) : Option Scan := do
  let scan ← (← scan.openBlockAtKey? .blockSequence).dropKey?
  some ((scan.allowKey true).addIndicator .blockEntry 1)

/-- Reads the mark of a key. -/
def explicitKey? (scan : Scan) : Option Scan := do
  let scan ← (← scan.openBlockAtKey? .blockMapping).dropKey?
  some ((scan.allowKey !scan.inFlow).addIndicator .key 1)

/-- Reads the mark of a value; if a key may have started on the line, it started there indeed. -/
def value? (scan : Scan) : Option Scan :=
  match scan.key with
  | some start =>
    let tokens := scan.tokens.insertIdxIfInBounds start.position ⟨.key, start.mark, start.mark⟩
    let scan := { scan with tokens, key := none }.openBlock .blockMapping start.position start.mark
    some ((scan.allowKey false).addIndicator .value 1)
  | none => do
    let scan ← scan.openBlockAtKey? .blockMapping
    some ((scan.allowKey !scan.inFlow).addIndicator .value 1)

/-- Reads an alias or anchor. -/
def name? (scan : Scan) (kind : List Char → TokenKind) : Option Scan := do
  let scan ← scan.saveKey?
  let (name, cursor) ← readName? scan.cursor.skip
  some ((scan.add (kind name) cursor.mark cursor).allowKey false)

/-- Reads a tag. -/
def tag? (scan : Scan) : Option Scan := do
  let scan ← scan.saveKey?
  let (handle, suffix, cursor) ← readTag? scan.inFlow scan.cursor
  some ((scan.add (.tag handle suffix) cursor.mark cursor).allowKey false)

/-- Reads a block scalar. -/
def blockScalar? (scan : Scan) (style : Style) : Option Scan := do
  let scan ← scan.dropKey?
  let parent : Int := match scan.indents with
    | [] => -1
    | indent :: _ => indent
  let (text, cursor) ← readBlock? (style == .folded) parent scan.cursor.skip
  some ((scan.add (.scalar text style) cursor.mark cursor).allowKey true)

/-- Reads a quoted scalar. -/
def quotedScalar? (scan : Scan) (single : Bool) : Option Scan := do
  let scan ← scan.saveKey?
  let (text, cursor) ← readQuoted? single (scan.cursor.rest.length + 1) [] scan.cursor.skip
  some ((scan.add (.scalar text .quoted) cursor.mark cursor).allowKey false)

/-- Reads a plain scalar; a key may start behind it if a line break lies between. -/
def plainScalar? (scan : Scan) : Option Scan := do
  let scan ← scan.saveKey?
  let indent := match scan.indents with
    | [] => 0
    | indent :: _ => indent + 1
  let read ← readPlain? scan.inFlow indent (scan.cursor.rest.length + 1)
    ⟨[], scan.cursor, scan.cursor.mark, false⟩ .none
  some ((scan.add (.scalar read.text .plain) read.stop read.after).allowKey read.broken)

/-- The characters that cannot start a plain scalar, whatever follows them. -/
def isIndicator (c : Char) : Bool :=
  ['-', '?', ':', ',', '[', ']', '\x7b', '\x7d', '#', '&', '*', '!', '|', '>', '\x27', '\x22',
    '%', '@', '\x60'].contains c

/-- Whether a plain scalar can start with a character. -/
def startsPlain (scan : Scan) (c : Char) : Bool :=
  !(isBlank c || isIndicator c)
    || (c == '-' && !(scan.cursor.ahead? 1).any isBlank)
    || (!scan.inFlow && (c == '?' || c == ':') && !scan.cursor.isSpaceAt 1)

/-- Reads the token that starts with a character. -/
def token? (scan : Scan) (c : Char) : Option Scan :=
  let cursor := scan.cursor
  let separate := scan.inFlow || cursor.isSpaceAt 1
  if cursor.column = 0 && c == '%' then scan.directive?
  else if cursor.atDocumentMarker then
    scan.documentMarker? (if c == '-' then .documentStart else .documentEnd)
  else if c == '[' then scan.flowStart? .flowSequence
  else if c == '\x7b' then scan.flowStart? .flowMapping
  else if c == ']' then scan.flowEnd? .flowSequenceEnd
  else if c == '\x7d' then scan.flowEnd? .flowMappingEnd
  else if c == ',' then scan.flowEntry?
  else if c == '-' && cursor.isSpaceAt 1 then scan.blockEntry?
  else if c == '?' && separate then scan.explicitKey?
  else if c == ':' && separate then scan.value?
  else if c == '*' then scan.name? .reference
  else if c == '&' then scan.name? .anchor
  else if c == '!' then scan.tag?
  else if c == '|' && !scan.inFlow then scan.blockScalar? .literal
  else if c == '>' && !scan.inFlow then scan.blockScalar? .folded
  else if c == '\x27' then scan.quotedScalar? true
  else if c == '\x22' then scan.quotedScalar? false
  else if scan.startsPlain c then scan.plainScalar?
  else none

/-- Reads all tokens that are left, with as many steps as there may be tokens. -/
def run? : Nat → Scan → Option (Array Token)
  | 0, _ => none
  | fuel + 1, scan => do
    let scan ← (scan.skipBlanks (scan.cursor.rest.length + 1)).dropPastKeys?
    let scan := scan.closeBlocks (some scan.cursor.column)
    match scan.cursor.head? with
    | none => (← scan.finish?).tokens
    | some c => run? fuel (← scan.token? c)

end Scan

/-- The tokens of a text, the last of which marks its end. -/
def tokens? (text : List Char) : Option (List Token) :=
  if text.all isPrintable then
    ((Scan.start text).run? (text.length + 1)).map Array.toList
  else none

end DiscordRest.Yaml
