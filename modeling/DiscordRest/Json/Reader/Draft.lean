import DiscordRest.Json.Draft
import DiscordRest.Json.Reader.Number
import DiscordRest.Json.Reader.String

/-!
Reading JSON texts into drafts. Values that nobody asks for can be passed over instead, by laxer
rules: neither their depth nor the size of their numbers matters.
-/

namespace DiscordRest.Json.Reader

/-- The blanks of JSON: space, tab, line feed and carriage return. -/
def isBlank (c : Char) : Bool :=
  c == ' ' || c == '\n' || c == '\t' || c == '\r'

/-- The text without the blanks it starts with. -/
def skipBlanks (text : List Char) : List Char :=
  text.dropWhile isBlank

/-- Reads the rest of a word. -/
def readWord : List Char → List Char → Except Fault (List Char)
  | [], text => .ok text
  | _ :: _, [] => .error ⟨.endInValue, .before []⟩
  | expected :: word, c :: rest =>
    if c = expected then readWord word rest else .error ⟨.badWord, .at (c :: rest)⟩

/-- The draft of a part that was read, or of its fault. -/
def draftOf {α : Type} (read : Except Fault α) (make : α → Draft) : Draft :=
  match read with
  | .ok part => make part
  | .error fault => .faulty fault

/-- Passes over the blanks and the colon after a key. -/
def readColon (text : List Char) : Except Fault (List Char) :=
  match skipBlanks text with
  | [] => .error ⟨.endInObject, .before []⟩
  | ':' :: rest => .ok rest
  | rest => .error ⟨.noColon, .at rest⟩

/--
Passes to the next item of an array: none at the end of the array, with the text after it. Before
all items but the first stands a comma.
-/
def nextItem (first : Bool) (text : List Char) : Except Fault (List Char ⊕ List Char) :=
  match skipBlanks text with
  | [] => .error ⟨.endInArray, .before []⟩
  | ']' :: rest => .ok (.inr rest)
  | c :: rest =>
    if first then .ok (.inl (c :: rest))
    else if c = ',' then
      match skipBlanks rest with
      | [] => .error ⟨.endInValue, .before []⟩
      | ']' :: rest => .error ⟨.trailingComma, .at (']' :: rest)⟩
      | rest => .ok (.inl rest)
    else .error ⟨.noCommaInArray, .at (c :: rest)⟩

/--
Passes to the next key of an object, into its quotes: none at the end of the object, with the text
after it. Before all keys but the first stands a comma.
-/
def nextKey (first : Bool) (text : List Char) : Except Fault (List Char ⊕ List Char) :=
  match skipBlanks text with
  | [] => .error ⟨.endInObject, .before []⟩
  | '\x7d' :: rest => .ok (.inr rest)
  | c :: rest =>
    if first then
      if c = '\x22' then .ok (.inl rest) else .error ⟨.keyNotString, .at (c :: rest)⟩
    else if c = ',' then
      match skipBlanks rest with
      | [] => .error ⟨.endInValue, .before []⟩
      | '\x22' :: rest => .ok (.inl rest)
      | '\x7d' :: rest => .error ⟨.trailingComma, .at ('\x7d' :: rest)⟩
      | rest => .error ⟨.keyNotString, .at rest⟩
    else .error ⟨.noCommaInObject, .at (c :: rest)⟩

mutual

/-- Passes over a value. The fuel bounds the number of values, items and members on the way. -/
def skipValue : Nat → List Char → Except Fault (List Char)
  | 0, text => .error ⟨.noValue, .at text⟩
  | fuel + 1, text =>
    match skipBlanks text with
    | [] => .error ⟨.endInValue, .before []⟩
    | 'n' :: rest => readWord ['u', 'l', 'l'] rest
    | 't' :: rest => readWord ['r', 'u', 'e'] rest
    | 'f' :: rest => readWord ['a', 'l', 's', 'e'] rest
    | '-' :: rest => skipNumber rest
    | '\x22' :: rest => skipString rest
    | '[' :: rest => skipItems fuel true rest
    | '\x7b' :: rest => skipMembers fuel true rest
    | rest =>
      if startsWithDigit rest then skipNumber rest else .error ⟨.noValue, .at rest⟩

/-- Passes over the items of an array and its end. -/
def skipItems : Nat → Bool → List Char → Except Fault (List Char)
  | 0, _, text => .error ⟨.noValue, .at text⟩
  | fuel + 1, first, text =>
    match skipBlanks text with
    | [] => .error ⟨.endInArray, .before []⟩
    | ']' :: rest => .ok rest
    | c :: rest =>
      if first then skipNextItem fuel (c :: rest)
      else if c = ',' then skipNextItem fuel rest
      else .error ⟨.noCommaInArray, .at (c :: rest)⟩

/-- Passes over one item of an array, the items after it and the end of the array. -/
def skipNextItem : Nat → List Char → Except Fault (List Char)
  | 0, text => .error ⟨.noValue, .at text⟩
  | fuel + 1, text =>
    match skipValue fuel text with
    | .error fault => .error fault
    | .ok rest => skipItems fuel false rest

/-- Passes over the members of an object and its end. -/
def skipMembers : Nat → Bool → List Char → Except Fault (List Char)
  | 0, _, text => .error ⟨.noValue, .at text⟩
  | fuel + 1, first, text =>
    match skipBlanks text with
    | [] => .error ⟨.endInObject, .before []⟩
    | '\x7d' :: rest => .ok rest
    | c :: rest =>
      if first then skipNextMember fuel (c :: rest)
      else if c = ',' then skipNextMember fuel rest
      else .error ⟨.noCommaInObject, .at (c :: rest)⟩

/-- Passes over one member of an object, the members after it and the end of the object. -/
def skipNextMember : Nat → List Char → Except Fault (List Char)
  | 0, text => .error ⟨.noValue, .at text⟩
  | fuel + 1, text =>
    match skipBlanks text with
    | [] => .error ⟨.endInObject, .before []⟩
    | '\x22' :: rest =>
      match skipString rest with
      | .error fault => .error fault
      | .ok rest =>
        match readColon rest with
        | .error fault => .error fault
        | .ok rest =>
          match skipValue fuel rest with
          | .error fault => .error fault
          | .ok rest => skipMembers fuel false rest
    | rest => .error ⟨.keyNotString, .at rest⟩

end

/-- Fuel that is enough to read or to pass over a text: two steps for each character. -/
def enough (text : List Char) : Nat :=
  3 * text.length + 3

mutual

/--
Reads a value. The values of an object's members are passed over unless `keeps` holds of their
keys; inside of them everything is read.
-/
def readValue (keeps : String → Bool) : Nat → List Char → Draft
  | 0, text => .faulty ⟨.noValue, .at text⟩
  | fuel + 1, text =>
    match skipBlanks text with
    | [] => .faulty ⟨.endInValue, .before []⟩
    | 'n' :: rest => draftOf (readWord ['u', 'l', 'l'] rest) .null
    | 't' :: rest => draftOf (readWord ['r', 'u', 'e'] rest) (.boolean true)
    | 'f' :: rest => draftOf (readWord ['a', 'l', 's', 'e'] rest) (.boolean false)
    | '-' :: rest => draftOf (readNumber true rest) fun (value, after) => .number value after
    | '\x22' :: rest =>
      draftOf (readString rest) fun (chars, after) => .string (String.ofList chars) after
    | '[' :: rest =>
      let (items, finish) := readItems fuel true rest
      .array ('[' :: rest) items finish
    | '\x7b' :: rest =>
      let (members, finish) := readMembers keeps fuel true rest
      .object ('\x7b' :: rest) members finish
    | rest =>
      if startsWithDigit rest then
        draftOf (readNumber false rest) fun (value, after) => .number value after
      else .faulty ⟨.noValue, .at rest⟩

/-- Reads the items of an array: the items, and the text after the array or its fault. -/
def readItems : Nat → Bool → List Char → List Draft × Except Fault (List Char)
  | 0, _, text => ([], .error ⟨.noValue, .at text⟩)
  | fuel + 1, first, text =>
    match nextItem first text with
    | .error fault => ([], .error fault)
    | .ok (.inr rest) => ([], .ok rest)
    | .ok (.inl rest) =>
      let item := readValue (fun _ => true) fuel rest
      match item.finish with
      | .error fault => ([item], .error fault)
      | .ok rest =>
        let (items, finish) := readItems fuel false rest
        (item :: items, finish)

/-- Reads the members of an object: the members, and the text after the object or its fault. -/
def readMembers (keeps : String → Bool)
    : Nat → Bool → List Char → List (String × List Char × Draft) × Except Fault (List Char)
  | 0, _, text => ([], .error ⟨.noValue, .at text⟩)
  | fuel + 1, first, text =>
    match nextKey first text with
    | .error fault => ([], .error fault)
    | .ok (.inr rest) => ([], .ok rest)
    | .ok (.inl rest) =>
      match readString rest with
      | .error fault => ([], .error fault)
      | .ok (chars, afterKey) =>
        let key := String.ofList chars
        let item : Draft := match readColon afterKey with
          | .error fault => .faulty fault
          | .ok rest =>
            if keeps key then readValue (fun _ => true) fuel rest
            else draftOf (skipValue (enough rest) rest) .skipped
        match item.finish with
        | .error fault => ([(key, afterKey, item)], .error fault)
        | .ok rest =>
          let (members, finish) := readMembers keeps fuel false rest
          ((key, afterKey, item) :: members, finish)

end

end Reader

namespace Draft

/-- Reads a text as far as its syntax allows; keys outside of `keeps` are passed over. -/
def ofText (keeps : String → Bool) (text : List Char) : Draft :=
  Reader.readValue keeps (Reader.enough text) text

/-- Nothing but blanks may follow a value. -/
def checkEnd (after : List Char) : Except Fault Unit :=
  match Reader.skipBlanks after with
  | [] => .ok ()
  | rest => .error ⟨.trailingText, .at rest⟩

end Draft

end DiscordRest.Json
