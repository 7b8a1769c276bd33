import DiscordRest.Text.Utf8

/-! Headers of requests and answers: names without regard to case, and one line for each value. -/

namespace DiscordRest.Http

/-- A header. -/
structure Header where
  /-- The name, in lower case. -/
  name : String
  /-- The value. -/
  value : String
  deriving DecidableEq, Repr

/-- Whether a character may stand in the name of a header. -/
def isNameChar (c : Char) : Bool :=
  c.isAlphanum || ['!', '#', '$', '%', '&', '\x27', '*', '+', '-', '.', '^', '_', '\x60', '|',
    '~'].contains c

/-- Whether a character may stand in the value of a header: no control character but the tab. -/
def isValueChar (c : Char) : Bool :=
  (0x20 ≤ c.toNat && c.toNat != 0x7F) || c == '\t'

namespace Header

/-- Whether a text is the name of a header. -/
def isName (text : String) : Bool :=
  !text.isEmpty && text.toList.all isNameChar

/-- Whether a text is the value of a header. -/
def isValue (text : String) : Bool :=
  text.toList.all isValueChar

/-- The text with its letters in lower case. -/
def lowerCase (text : String) : String :=
  String.ofList (text.toList.map Char.toLower)

/-- The header of a name and a value, if they are such. -/
def ofTexts? (name value : String) : Option Header :=
  if isName name && isValue value then some ⟨lowerCase name, value⟩ else none

/-- The line of a header. -/
def line (header : Header) : String :=
  header.name ++ ": " ++ header.value

end Header

/-- Headers in the order in which they were added. -/
abbrev Headers : Type := List Header

namespace Headers

/-- Whether there is a header of a name. -/
def has (headers : Headers) (name : String) : Bool :=
  headers.any fun header => header.name == name

/-- The first value of a name. -/
def get? (headers : Headers) (name : String) : Option String :=
  (headers.find? fun header => header.name == name).map Header.value

/-- The headers without those of some names. -/
def without (headers : Headers) (names : List String) : Headers :=
  headers.filter fun header => !names.contains header.name

/-- The headers with one added, unless there is one of its name. -/
def withDefault (headers : Headers) (name value : String) : Headers :=
  if headers.has name then headers else headers ++ [⟨name, value⟩]

/-- The headers with one added in place of all of its name. -/
def replace (headers : Headers) (name value : String) : Headers :=
  headers.without [name] ++ [⟨name, value⟩]

end Headers

end DiscordRest.Http
