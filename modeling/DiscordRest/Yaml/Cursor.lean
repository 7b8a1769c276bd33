import DiscordRest.Yaml.Failure

/-!
Places in a YAML document while it is read: what is left of the text, and how much of it was read.
-/

namespace DiscordRest.Yaml

/-- The spaces and tabs of YAML. -/
def isBlank (c : Char) : Bool :=
  c == ' ' || c == '\t'

/-- The line breaks of YAML. -/
def isBreak (c : Char) : Bool :=
  ['\r', '\n', '\u0085', '\u2028', '\u2029'].contains c

/-- The characters of directives, anchors and tag handles. -/
def isWordChar (c : Char) : Bool :=
  c.isAlphanum || c == '_' || c == '-'

/-- The characters that a document may contain. -/
def isPrintable (c : Char) : Bool :=
  let n := c.toNat
  n == 0x09 || n == 0x0A || n == 0x0D || (0x20 ≤ n && n ≤ 0x7E) || n == 0x85
    || (0xA0 ≤ n && n ≤ 0xD7FF) || (0xE000 ≤ n && n ≤ 0xFFFD) || 0x10000 ≤ n

/-- A place in a document. -/
structure Cursor where
  /-- What is left of the text. -/
  rest : List Char
  /-- How many characters were read. -/
  index : Nat
  /-- The line and the column. -/
  mark : Mark
  deriving DecidableEq, Repr

namespace Cursor

/-- The place before a text. -/
def start (text : List Char) : Cursor :=
  ⟨text, 0, ⟨0, 0⟩⟩

/-- The column. -/
def column (cursor : Cursor) : Nat :=
  cursor.mark.column

/-- The next character. -/
def head? (cursor : Cursor) : Option Char :=
  cursor.rest.head?

/-- The character `offset` places ahead. -/
def ahead? (cursor : Cursor) (offset : Nat) : Option Char :=
  cursor.rest[offset]?

/-- Whether the text is at its end or goes on with a line break. -/
def atBreakOrEnd (cursor : Cursor) : Bool :=
  match cursor.rest with
  | [] => true
  | c :: _ => isBreak c

/-- Whether the character `offset` places ahead is a blank, a line break or the end. -/
def isSpaceAt (cursor : Cursor) (offset : Nat) : Bool :=
  match cursor.ahead? offset with
  | none => true
  | some c => isBlank c || isBreak c

/-- Whether the next character is the given one. -/
def isAt (cursor : Cursor) (c : Char) : Bool :=
  cursor.head? == some c

/-- The place after one character of the same line. -/
def skip (cursor : Cursor) : Cursor :=
  match cursor.rest with
  | [] => cursor
  | _ :: rest => ⟨rest, cursor.index + 1, { cursor.mark with column := cursor.mark.column + 1 }⟩

/-- The place after some characters of the same line. -/
def skipMany : Nat → Cursor → Cursor
  | 0, cursor => cursor
  | count + 1, cursor => skipMany count cursor.skip

/-- The place after a line break; a carriage return and a line feed are one. -/
def skipLine (cursor : Cursor) : Cursor :=
  let next : Mark := ⟨cursor.mark.line + 1, 0⟩
  match cursor.rest with
  | '\r' :: '\n' :: rest => ⟨rest, cursor.index + 2, next⟩
  | c :: rest => if isBreak c then ⟨rest, cursor.index + 1, next⟩ else cursor
  | [] => cursor

/-- What a line break contributes to a scalar: a line feed, but for the separators of Unicode. -/
def lineText (cursor : Cursor) : List Char :=
  match cursor.rest with
  | [] => []
  | c :: _ => if c == '\u2028' || c == '\u2029' then [c] else if isBreak c then ['\n'] else []

/-- The place after the characters of the same line that satisfy `p`. -/
def skipWhile (p : Char → Bool) (cursor : Cursor) : Cursor :=
  let count := (cursor.rest.takeWhile p).length
  ⟨cursor.rest.drop count, cursor.index + count,
    { cursor.mark with column := cursor.mark.column + count }⟩

/-- The characters that satisfy `p`, and the place after them. -/
def takeWhile (p : Char → Bool) (cursor : Cursor) : List Char × Cursor :=
  (cursor.rest.takeWhile p, cursor.skipWhile p)

/-- The place on the next line, if only blanks and a comment are left of the line. -/
def skipComment? (cursor : Cursor) : Option Cursor :=
  let cursor := cursor.skipWhile isBlank
  let cursor := if cursor.isAt '#' then cursor.skipWhile fun c => !isBreak c else cursor
  if cursor.atBreakOrEnd then some cursor.skipLine else none

/-- Whether a marker of a document's start or end stands here. -/
def atDocumentMarker (cursor : Cursor) : Bool :=
  cursor.column == 0 && cursor.isSpaceAt 3
    && (cursor.rest.take 3 == ['-', '-', '-'] || cursor.rest.take 3 == ['.', '.', '.'])

end Cursor

end DiscordRest.Yaml
