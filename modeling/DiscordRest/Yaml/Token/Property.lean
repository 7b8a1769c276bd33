import DiscordRest.Text.Numeral
import DiscordRest.Yaml.Token

/-!
Reading what describes nodes and documents: names of anchors, tags and directives. Nothing is given
for a text that breaks the rules.
-/

namespace DiscordRest.Yaml

/-! ### Anchors -/

/-- The characters other than blanks that may follow the name of an anchor. -/
def endsName (c : Char) : Bool :=
  ['?', ':', ',', ']', '\x7d', '%', '@', '\x60'].contains c

/-- Reads the name of an anchor or alias after its indicator. -/
def readName? (cursor : Cursor) : Option (List Char × Cursor) :=
  let (name, next) := cursor.takeWhile isWordChar
  if name.isEmpty || !(next.isSpaceAt 0 || next.head?.any endsName) then none
  else some (name, next)

/-! ### Tags -/

/-- The characters of a tag besides letters, digits and escapes. -/
def isTagMark (c : Char) : Bool :=
  [';', '/', '?', ':', '@', '&', '=', '+', '$', '.', '!', '~', '*', '\x27', '(', ')'].contains c

/-- The characters that may stand in a tag only if it is written between angle brackets. -/
def isVerbatimMark (c : Char) : Bool :=
  [',', '[', ']'].contains c

/-- Reads a byte that is written as a percent sign and two hexadecimal digits. -/
def readOctet? (cursor : Cursor) : Option (Nat × Cursor) :=
  match cursor.rest with
  | '%' :: high :: low :: _ =>
    (Text.readDigits? 16 [high, low]).map fun octet => (octet, cursor.skipMany 3)
  | _ => none

/-- Extends a code point by the bytes that continue a character. -/
def readMoreOctets? : Nat → Nat → Cursor → Option (Nat × Cursor)
  | 0, code, cursor => some (code, cursor)
  | count + 1, code, cursor => do
    let (octet, next) ← readOctet? cursor
    if octet / 64 = 2 then readMoreOctets? count (code * 64 + octet % 64) next else none

/-- How many bytes follow the first one of a character, and the bits that the first one holds. -/
def leadBits? (octet : Nat) : Option (Nat × Nat) :=
  if octet < 0x80 then some (0, octet)
  else if octet / 32 = 6 then some (1, octet % 32)
  else if octet / 16 = 14 then some (2, octet % 16)
  else if octet / 8 = 30 then some (3, octet % 8)
  else none

/-- Reads a character whose bytes are escaped. -/
def readEscapedChar? (cursor : Cursor) : Option (Char × Cursor) := do
  let (octet, next) ← readOctet? cursor
  let (count, bits) ← leadBits? octet
  let (code, after) ← readMoreOctets? count bits next
  some (if code.isValidChar then .ofNat code else '\ufffd', after)

/-- Reads the characters of a tag as far as they go. -/
def readTagChars? (verbatim : Bool) : Nat → List Char → Cursor → Option (List Char × Cursor)
  | 0, chars, cursor => some (chars.reverse, cursor)
  | fuel + 1, chars, cursor =>
    match cursor.rest with
    | [] => some (chars.reverse, cursor)
    | c :: _ =>
      if c == '%' then
        match readEscapedChar? cursor with
        | none => none
        | some (escaped, next) => readTagChars? verbatim fuel (escaped :: chars) next
      else if isWordChar c || isTagMark c || (verbatim && isVerbatimMark c) then
        readTagChars? verbatim fuel (c :: chars) cursor.skip
      else some (chars.reverse, cursor)

/-- Reads the characters of a tag after those that belong to it already; there must be some. -/
def readTagText? (verbatim : Bool) (read : List Char) (cursor : Cursor)
    : Option (List Char × Cursor) := do
  let (chars, next) ← readTagChars? verbatim (cursor.rest.length + 1) [] cursor
  if read.isEmpty && chars.isEmpty then none else some (read.drop 1 ++ chars, next)

/-- Reads an exclamation mark, word characters, and another exclamation mark if there is one. -/
def readHandle (cursor : Cursor) : List Char × Cursor :=
  let (word, next) := cursor.skip.takeWhile isWordChar
  if next.isAt '!' then ('!' :: word ++ ['!'], next.skip) else ('!' :: word, next)

/-- Whether a text that was read as a handle has both its exclamation marks. -/
def isFullHandle (handle : List Char) : Bool :=
  2 ≤ handle.length && handle.getLast? == some '!'

/-- Reads handle and suffix of a tag; a verbatim tag has no handle. -/
def readTagParts? (cursor : Cursor) : Option (List Char × List Char × Cursor) :=
  if cursor.ahead? 1 == some '<' then do
    let (suffix, next) ← readTagText? true [] (cursor.skipMany 2)
    if next.isAt '>' then some ([], suffix, next.skip) else none
  else
    let (handle, next) := readHandle cursor
    if isFullHandle handle then do
      let (suffix, next) ← readTagText? false [] next
      some (handle, suffix, next)
    else do
      let (suffix, next) ← readTagText? false handle next
      if suffix.isEmpty then some ([], ['!'], next) else some (['!'], suffix, next)

/-- Reads a tag, which a blank must follow, or a comma within a flow collection. -/
def readTag? (inFlow : Bool) (cursor : Cursor) : Option (List Char × List Char × Cursor) := do
  let (handle, suffix, next) ← readTagParts? cursor
  if next.isSpaceAt 0 || (inFlow && next.isAt ',') then some (handle, suffix, next) else none

/-! ### Directives -/

/-- Reads a part of a version number, of at most nine digits. -/
def readVersionPart? (cursor : Cursor) : Option (Nat × Cursor) := do
  let (digits, next) := cursor.takeWhile Text.isDigit
  if 9 < digits.length then none else some (← Text.readDigits? 10 digits, next)

/-- Reads the version of a directive. -/
def readVersion? (cursor : Cursor) : Option (TokenKind × Cursor) := do
  let (major, next) ← readVersionPart? (cursor.skipWhile isBlank)
  if next.isAt '.' then
    let (minor, next) ← readVersionPart? next.skip
    some (.version major minor, next)
  else none

/-- Reads the handle of a directive and what it stands for. -/
def readHandleDirective? (cursor : Cursor) : Option (TokenKind × Cursor) := do
  let cursor := cursor.skipWhile isBlank
  let (handle, next) := readHandle cursor
  if !cursor.isAt '!' || !(isFullHandle handle || handle == ['!']) then none
  else if !next.head?.any isBlank then none
  else
    let (expansion, next) ← readTagText? true [] (next.skipWhile isBlank)
    if next.isSpaceAt 0 then some (.handle handle expansion, next) else none

/-- Reads a directive after its percent sign, and the rest of its line. -/
def readDirective? (cursor : Cursor) : Option (TokenKind × Mark × Cursor) := do
  let (name, next) := cursor.takeWhile isWordChar
  if !next.isSpaceAt 0 then none
  else
    let (kind, next) ←
      if name == ['Y', 'A', 'M', 'L'] then readVersion? next
      else if name == ['T', 'A', 'G'] then readHandleDirective? next
      else none
    let after ← next.skipComment?
    some (kind, next.mark, after)

end DiscordRest.Yaml
