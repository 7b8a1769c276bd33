import DiscordRest.Url.Reader

/-!
Form encoding: pairs of texts in a query. Letters, digits and four signs stand for themselves, a
plus sign for a space, and percent signs for all other bytes.
-/

namespace DiscordRest.Form

/-- Whether a character stands for itself. -/
def isPlain (c : Char) : Bool :=
  c.isAlphanum || c == '*' || c == '-' || c == '.' || c == '_'

/-- A text as part of a query. -/
def encode (text : String) : List Char :=
  text.toList.flatMap fun c =>
    if c = ' ' then ['+'] else if isPlain c then [c] else Url.percentChar c

/-- A pair as part of a query. -/
def encodePair (pair : String × String) : List Char :=
  encode pair.1 ++ ['='] ++ encode pair.2

/-- Pairs as parts of a query, added to the query there is. -/
def extend (query : List Char) : List (String × String) → List Char
  | [] => query
  | pair :: rest => extend (query ++ (if query.isEmpty then [] else ['&']) ++ encodePair pair) rest

/-- The text that a part of a query stands for. -/
def decode (part : List Char) : String :=
  String.ofList (Text.decodeLenient (Url.percentDecode
    (part.map fun c => if c = '+' then ' ' else c)))

/-- The pairs of a query: its parts between ampersands, each cut at its first equals sign. -/
def pairs (query : List Char) : List (String × String) :=
  ((Url.splitAt '&' query).filter fun part => !part.isEmpty).map fun part =>
    let (name, value) := Url.cut '=' part
    (decode name, decode (value.getD []))

end DiscordRest.Form
