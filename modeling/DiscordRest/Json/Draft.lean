import DiscordRest.Json.Fault
import DiscordRest.Json.Value

/-!
Drafts: a JSON text read as far as its syntax allows. A draft knows where its parts stand and
holds the first fault of the text at the place where reading stopped, so that a reader of typed
values meets the faults of syntax and of type in the order of the text.
-/

namespace DiscordRest.Json

/-- A value as it was read from a text. -/
inductive Draft where
  /-- The null value, with the text after it. -/
  | null (after : List Char)
  /-- A truth value, with the text after it. -/
  | boolean (value : Bool) (after : List Char)
  /-- A number, with the text after it. -/
  | number (value : Number) (after : List Char)
  /-- A quoted text, with the text after it. -/
  | string (value : String) (after : List Char)
  /-- An array with its text, its items, and the text after it or the fault that ends it. -/
  | array (text : List Char) (items : List Draft) (finish : Except Fault (List Char))
  /--
  An object with its text, its members, and the text after it or the fault that ends it. A member
  is a key, the text after the key, and a value.
  -/
  | object (text : List Char) (members : List (String × List Char × Draft))
    (finish : Except Fault (List Char))
  /-- A value that was passed over, with the text after it. -/
  | skipped (after : List Char)
  /-- No value: the text is faulty here. -/
  | faulty (fault : Fault)
  deriving Inhabited

namespace Draft

/-- The text after a value, or the first fault in it. -/
def finish : Draft → Except Fault (List Char)
  | null after => .ok after
  | boolean _ after => .ok after
  | number _ after => .ok after
  | string _ after => .ok after
  | array _ _ finish => finish
  | object _ _ finish => finish
  | skipped after => .ok after
  | faulty fault => .error fault

/-- Arrays and objects may nest to a depth below this. -/
def depthLimit : Nat := 128

/--
The value of a draft, which may contain arrays and objects to a depth below `depth`; else the
first fault of its text.
-/
def value? (depth : Nat) : Draft → Except Fault Value
  | null _ => .ok .null
  | boolean value _ => .ok (.boolean value)
  | number value _ => .ok (.number value)
  | string value _ => .ok (.string value)
  | array text items finish =>
    if depth ≤ 1 then .error ⟨.tooDeep, .at text⟩
    else
      match valueItems? (depth - 1) items with
      | .error fault => .error fault
      | .ok values => finish.map fun _ => .array values
  | object text members finish =>
    if depth ≤ 1 then .error ⟨.tooDeep, .at text⟩
    else
      match valueMembers? (depth - 1) members with
      | .error fault => .error fault
      | .ok values => finish.map fun _ => .object values
  | skipped _ => .ok .null
  | faulty fault => .error fault
where
  /-- The values of the items of an array. -/
  valueItems? (depth : Nat) : List Draft → Except Fault (List Value)
    | [] => .ok []
    | item :: rest =>
      match item.value? depth with
      | .error fault => .error fault
      | .ok value => (valueItems? depth rest).map (value :: ·)
  /-- The members of an object with their values. -/
  valueMembers? (depth : Nat)
      : List (String × List Char × Draft) → Except Fault (List (String × Value))
    | [] => .ok []
    | (key, _, item) :: rest =>
      match item.value? depth with
      | .error fault => .error fault
      | .ok value => (valueMembers? depth rest).map ((key, value) :: ·)

end Draft

end DiscordRest.Json
