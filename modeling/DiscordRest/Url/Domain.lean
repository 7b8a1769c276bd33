import DiscordRest.Text.Blank
import DiscordRest.Text.LowerCase
import DiscordRest.Text.Visible
import DiscordRest.Url.Punycode

/-!
Domain names in letters of any script: they are made alike in case and width, and labels with
characters beyond ASCII are written in Punycode behind a mark.
-/

namespace DiscordRest.Url

/-- The parts of a text between the characters that satisfy `p`, one more than these. -/
def splitWhere (p : Char → Bool) : List Char → List (List Char)
  | [] => [[]]
  | c :: rest =>
    if p c then [] :: splitWhere p rest
    else
      match splitWhere p rest with
      | [] => [[c]]
      | first :: more => (c :: first) :: more

/-- The parts of a text between the occurrences of a character. -/
def splitAt (separator : Char) (text : List Char) : List (List Char) :=
  splitWhere (· == separator) text

namespace Domain

/-- The characters that count as a point between labels. -/
def isPoint (c : Char) : Bool :=
  [0x2E, 0x3002, 0xFF0E, 0xFF61].contains c.toNat

/-- The characters that a name is read without. -/
def isIgnored (c : Char) : Bool :=
  let code := c.toNat
  [0xAD, 0x34F, 0x200B, 0x2060, 0x2064, 0xFEFF].contains code
    || (0xFE00 ≤ code && code ≤ 0xFE0F)

/-- Whether a character is a wide form of one in ASCII. -/
def isWide (c : Char) : Bool :=
  0xFF01 ≤ c.toNat && c.toNat ≤ 0xFF5E

/-- Whether a character belongs to ASCII. -/
def isAscii (c : Char) : Bool :=
  c.toNat < 0x80

/-- What a name has for a character: nothing, a point, or a small form; none if it is refused. -/
def fold? (c : Char) : Option (List Char) :=
  if isIgnored c then some []
  else if isPoint c then some ['.']
  else if isWide c then some [(Char.ofNat (c.toNat - 0xFEE0)).toLower]
  else if isAscii c then some [c.toLower]
  else if Text.isBlank c || Text.inRanges Text.invisibleRanges c.toNat then none
  else some [Text.lowerCase c]

/-- What stands before a label in Punycode. -/
def mark : List Char := ['x', 'n', '-', '-']

/-- A label in ASCII. A label does not start with a character that extends another one. -/
def label? (label : List Char) : Option (List Char) :=
  if label.all isAscii then some label
  else if (label.head?).any fun c => Text.inRanges Text.extendingRanges c.toNat then none
  else some (mark ++ Punycode.encode label)

/-- A name in ASCII; one that is so already is only written small. -/
def ofText? (text : List Char) : Option (List Char) :=
  if text.all isAscii then some (text.map Char.toLower)
  else do
    let folded ← text.mapM fold?
    let labels ← (splitAt '.' folded.flatten).mapM label?
    some (['.'].intercalate labels)

end Domain

end DiscordRest.Url
