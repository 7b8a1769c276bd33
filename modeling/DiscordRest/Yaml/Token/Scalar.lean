import DiscordRest.Text.Numeral
import DiscordRest.Yaml.Token

/-!
Reading scalars: plain, quoted and block scalars, with the folding of their line breaks. Nothing
is given for a text that breaks the rules.
-/

namespace DiscordRest.Yaml

/-! ### Blanks within scalars -/

/-- The blanks and line breaks between two parts of a scalar. -/
structure Gap where
  /-- The blanks before the first line break. -/
  blanks : List Char
  /-- Whether there is a line break, or an escaped one. -/
  broken : Bool
  /-- The first line break. -/
  first : List Char
  /-- The further line breaks. -/
  more : List Char

namespace Gap

/-- No blanks at all. -/
def none : Gap := ⟨[], false, [], []⟩

/-- What a gap adds: its blanks; or a space for one line break, and all but the first else. -/
def text (gap : Gap) : List Char :=
  if gap.broken then
    if gap.first.head? == some '\n' then if gap.more.isEmpty then [' '] else gap.more
    else gap.first ++ gap.more
  else gap.blanks

/--
Reads blanks and line breaks. A tab in the indentation of a line is refused where `indent` says how
far a line must be indented.
-/
def read? (indent : Option Nat) : Nat → Gap → Cursor → Option (Gap × Cursor)
  | 0, gap, cursor => some (gap, cursor)
  | fuel + 1, gap, cursor =>
    match cursor.rest with
    | [] => some (gap, cursor)
    | c :: _ =>
      if isBlank c then
        if gap.broken && c == '\t' && indent.any (cursor.column < ·) then Option.none
        else if gap.broken then read? indent fuel gap cursor.skip
        else read? indent fuel { gap with blanks := gap.blanks ++ [c] } cursor.skip
      else if isBreak c then
        let gap :=
          if gap.broken then { gap with more := gap.more ++ cursor.lineText }
          else { gap with blanks := [], broken := true, first := cursor.lineText }
        read? indent fuel gap cursor.skipLine
      else some (gap, cursor)

end Gap

/-! ### Plain scalars -/

/-- The characters that end a plain scalar within a flow collection. -/
def isFlowEnd (c : Char) : Bool :=
  [',', '[', ']', '\x7b', '\x7d'].contains c

/-- Reads a part of a plain scalar without blanks; no colon may stand before a flow indicator. -/
def readPlainPart? (inFlow : Bool) : Nat → List Char → Cursor → Option (List Char × Cursor)
  | 0, part, cursor => some (part.reverse, cursor)
  | fuel + 1, part, cursor =>
    match cursor.rest with
    | [] => some (part.reverse, cursor)
    | c :: _ =>
      let next := cursor.ahead? 1
      if isBlank c || isBreak c then some (part.reverse, cursor)
      else if inFlow && c == ':' && next.any fun d => isFlowEnd d || d == '?' then none
      else if c == ':' && cursor.isSpaceAt 1 then some (part.reverse, cursor)
      else if inFlow && isFlowEnd c then some (part.reverse, cursor)
      else readPlainPart? inFlow fuel (c :: part) cursor.skip

/-- A scalar that was read. -/
structure ReadScalar where
  /-- Its text. -/
  text : List Char
  /-- The place after it and the blanks behind it. -/
  after : Cursor
  /-- The place after its last character. -/
  stop : Mark
  /-- Whether a line break lies behind it. -/
  broken : Bool

/--
Reads a plain scalar. It goes on over line breaks as long as the lines are indented by `indent` at
least, or within a flow collection; no tab may indent them, not even there.
-/
def readPlain? (inFlow : Bool) (indent : Nat) : Nat → ReadScalar → Gap → Option ReadScalar
  | 0, scalar, _ => some scalar
  | fuel + 1, scalar, gap =>
    let cursor := scalar.after
    if cursor.atDocumentMarker || cursor.isAt '#' then some { scalar with broken := gap.broken }
    else
      match readPlainPart? inFlow (cursor.rest.length + 1) [] cursor with
      | none => none
      | some ([], _) => some { scalar with broken := gap.broken }
      | some (part, next) =>
        let text := scalar.text ++ gap.text ++ part
        match Gap.read? (some indent) (next.rest.length + 1) .none next with
        | none => none
        | some (gap, after) =>
          let scalar := ⟨text, after, next.mark, gap.broken⟩
          if after.index = next.index || (!inFlow && gap.broken && after.column < indent) then
            some scalar
          else readPlain? inFlow indent fuel scalar gap

/-! ### Quoted scalars -/

/-- The character of an escape with one letter. -/
def escapeChar? (c : Char) : Option Char :=
  match c with
  | '0' => some '\x00'
  | 'a' => some '\x07'
  | 'b' => some '\x08'
  | 't' => some '\t'
  | '\t' => some '\t'
  | 'n' => some '\n'
  | 'v' => some '\x0b'
  | 'f' => some '\x0c'
  | 'r' => some '\r'
  | 'e' => some '\x1b'
  | ' ' => some ' '
  | '\x22' => some '\x22'
  | '/' => some '/'
  | '\\' => some '\\'
  | 'N' => some '\u0085'
  | '_' => some '\u00a0'
  | 'L' => some '\u2028'
  | 'P' => some '\u2029'
  | _ => none

/-- How many hexadecimal digits an escape has. -/
def escapeLength? (c : Char) : Option Nat :=
  match c with
  | 'x' => some 2
  | 'u' => some 4
  | 'U' => some 8
  | _ => none

/-- Reads an escape after its backslash. -/
def readEscape? (cursor : Cursor) : Option (Char × Cursor) := do
  let c ← cursor.head?
  match escapeChar? c with
  | some plain => some (plain, cursor.skip)
  | none =>
    let length ← escapeLength? c
    let digits := (cursor.rest.drop 1).take length
    let code ← if digits.length = length then Text.readDigits? 16 digits else none
    if code.isValidChar then some (.ofNat code, cursor.skipMany (length + 1)) else none

/-- Reads a part of a quoted scalar without blanks; a backslash may hide a line break. -/
def readQuotedPart? (single : Bool)
    : Nat → List Char → Cursor → Option (List Char × Bool × Cursor)
  | 0, _, _ => none
  | fuel + 1, part, cursor =>
    match cursor.rest with
    | [] => some (part.reverse, false, cursor)
    | '\x27' :: '\x27' :: _ =>
      if single then readQuotedPart? single fuel ('\x27' :: part) (cursor.skipMany 2)
      else readQuotedPart? single fuel ('\x27' :: part) cursor.skip
    | c :: _ =>
      if isBlank c || isBreak c then some (part.reverse, false, cursor)
      else if c == (if single then '\x27' else '\x22') then some (part.reverse, false, cursor)
      else if !single && c == '\\' then
        if (cursor.ahead? 1).any isBreak then some (part.reverse, true, cursor.skip.skipLine)
        else
          match readEscape? cursor.skip with
          | none => none
          | some (plain, next) => readQuotedPart? single fuel (plain :: part) next
      else readQuotedPart? single fuel (c :: part) cursor.skip

/-- Reads a quoted scalar after its opening quote, and its closing quote. -/
def readQuoted? (single : Bool) : Nat → List Char → Cursor → Option (List Char × Cursor)
  | 0, _, _ => none
  | fuel + 1, text, cursor =>
    if cursor.atDocumentMarker || cursor.rest.isEmpty then none
    else
      match readQuotedPart? single (cursor.rest.length + 1) [] cursor with
      | none => none
      | some (part, hidden, next) =>
        let text := text ++ part
        if !hidden && next.isAt (if single then '\x27' else '\x22') then some (text, next.skip)
        else
          match Gap.read? none (next.rest.length + 1) { Gap.none with broken := hidden } next with
          | none => none
          | some (gap, after) => readQuoted? single fuel (text ++ gap.text) after

/-! ### Block scalars -/

/-- Which line breaks at the end of a block scalar are kept. -/
inductive Chomping where
  /-- None. -/
  | strip
  /-- The first one. -/
  | clip
  /-- All of them. -/
  | keep
  deriving DecidableEq, Repr

/-- The chomping that a character asks for. -/
def chomping? (cursor : Cursor) : Option Chomping :=
  match cursor.head? with
  | some '+' => some .keep
  | some '-' => some .strip
  | _ => none

/-- The indentation that a character asks for; a zero is refused. -/
def increment? (cursor : Cursor) : Option (Option Nat) :=
  match cursor.head? with
  | some c =>
    if c == '0' then none
    else if Text.isDigit c then some (some (c.toNat - 48))
    else some none
  | none => some none

/-- The header of a block scalar: chomping and indentation in either order. -/
def readHeader? (cursor : Cursor) : Option (Chomping × Option Nat × Cursor) := do
  match chomping? cursor with
  | some chomping =>
    match ← increment? cursor.skip with
    | some increment => some (chomping, some increment, cursor.skipMany 2)
    | none => some (chomping, none, cursor.skip)
  | none =>
    match ← increment? cursor with
    | none => some (.clip, none, cursor)
    | some increment =>
      match chomping? cursor.skip with
      | some chomping => some (chomping, some increment, cursor.skipMany 2)
      | none => some (.clip, some increment, cursor.skip)

/--
Reads empty lines up to a line that is not empty: their line breaks, the widest indentation, and
the place in that line after its indentation of at most `indent`. A tab may not indent.
-/
def readEmptyLines? (indent : Option Nat)
    : Nat → List Char → Nat → Cursor → Option (List Char × Nat × Cursor)
  | 0, breaks, widest, cursor => some (breaks, widest, cursor)
  | fuel + 1, breaks, widest, cursor =>
    let spaces := (cursor.rest.takeWhile (· == ' ')).length
    let count := match indent with
      | none => spaces
      | some indent => min spaces (indent - cursor.column)
    let cursor := cursor.skipMany count
    let widest := max widest cursor.column
    let indenting := match indent with
      | none => true
      | some indent => cursor.column < indent
    if indenting && cursor.isAt '\t' then none
    else
      match cursor.rest with
      | [] => some (breaks, widest, cursor)
      | c :: _ =>
        if isBreak c then
          readEmptyLines? indent fuel (breaks ++ cursor.lineText) widest cursor.skipLine
        else some (breaks, widest, cursor)

/-- What a block scalar holds while it is read. -/
structure Block where
  /-- The text before the last line break. -/
  text : List Char
  /-- The line break after the last line. -/
  first : List Char
  /-- The line breaks of the empty lines behind it. -/
  more : List Char
  /-- Whether the last line starts with a blank. -/
  blank : Bool

/-- The text of a block up to a line that starts with a blank or not. -/
def Block.joined (block : Block) (fold blank : Bool) : List Char :=
  if fold && block.first.head? == some '\n' && !block.blank && !blank then
    block.text ++ (if block.more.isEmpty then [' '] else []) ++ block.more
  else block.text ++ block.first ++ block.more

/-- Reads the lines of a block scalar that are indented by `indent`. -/
def readBlockLines? (fold : Bool) (indent : Nat)
    : Nat → Block → Cursor → Option (Block × Cursor)
  | 0, block, cursor => some (block, cursor)
  | fuel + 1, block, cursor =>
    if cursor.column = indent && !cursor.rest.isEmpty then
      let blank := cursor.head?.any isBlank
      let (line, next) := cursor.takeWhile fun c => !isBreak c
      match readEmptyLines? (some indent) (next.rest.length + 1) [] 0 next.skipLine with
      | none => none
      | some (more, _, after) =>
        readBlockLines? fold indent fuel
          ⟨block.joined fold blank ++ line, next.lineText, more, blank⟩ after
    else some (block, cursor)

/-- Reads a block scalar after its indicator, within a block indented by `parent`. -/
def readBlock? (fold : Bool) (parent : Int) (cursor : Cursor) : Option (List Char × Cursor) := do
  let (chomping, increment, cursor) ← readHeader? cursor
  let cursor ← cursor.skipComment?
  let fixed := increment.map fun n => (max parent 0).toNat + n
  let (breaks, widest, cursor) ←
    readEmptyLines? fixed (cursor.rest.length + 1) [] 0 cursor
  let indent := fixed.getD (max (max widest (parent + 1).toNat) 1)
  let (block, cursor) ←
    readBlockLines? fold indent (cursor.rest.length + 1) ⟨[], [], breaks, false⟩ cursor
  let ending := match chomping with
    | .strip => []
    | .clip => block.first
    | .keep => block.first ++ block.more
  some (block.text ++ ending, cursor)

end DiscordRest.Yaml
