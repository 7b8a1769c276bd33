/-!
UTF-8 as lists of bytes: encoding, strict decoding, and lenient decoding in which every maximal
ill-formed part becomes one replacement character.
-/

namespace DiscordRest.Text

/-- The bytes of a text in UTF-8. -/
def utf8Bytes (text : List Char) : List UInt8 :=
  text.flatMap String.utf8EncodeChar

/-- The character that stands for ill-formed bytes. -/
def replacement : Char := '\ufffd'

/-- A byte that continues a character. -/
def isContinuation (b : UInt8) : Bool :=
  0x80 ≤ b && b ≤ 0xBF

/--
How many bytes a character has by its first byte, and the values its second byte may take; none
for a byte that starts no character.
-/
def leadRange? (lead : UInt8) : Option (Nat × UInt8 × UInt8) :=
  if lead < 0x80 then some (1, 0, 0)
  else if lead < 0xC2 then none
  else if lead < 0xE0 then some (2, 0x80, 0xBF)
  else if lead = 0xE0 then some (3, 0xA0, 0xBF)
  else if lead = 0xED then some (3, 0x80, 0x9F)
  else if lead < 0xF0 then some (3, 0x80, 0xBF)
  else if lead = 0xF0 then some (4, 0x90, 0xBF)
  else if lead < 0xF4 then some (4, 0x80, 0xBF)
  else if lead = 0xF4 then some (4, 0x80, 0x8F)
  else none

/-- The continuation bytes at the start of `bytes`, at most `count` of them. -/
def takeContinuations : Nat → List UInt8 → List UInt8
  | 0, _ => []
  | _, [] => []
  | count + 1, b :: rest => if isContinuation b then b :: takeContinuations count rest else []

/-- The code point of a first byte and the bytes that continue it. -/
def codeOf (lead : UInt8) (tail : List UInt8) : Nat :=
  let first := match tail.length with
    | 0 => lead.toNat
    | 1 => lead.toNat % 32
    | 2 => lead.toNat % 16
    | _ => lead.toNat % 8
  tail.foldl (fun code b => code * 64 + b.toNat % 64) first

/--
The first character of a byte list and how many bytes it takes; none with the length of the
maximal ill-formed part when no character stands there.
-/
def decodeChar (lead : UInt8) (rest : List UInt8) : Option Char × Nat :=
  match leadRange? lead with
  | none => (none, 1)
  | some (count, low, high) =>
    match count, rest with
    | 1, _ => (some (Char.ofNat lead.toNat), 1)
    | _, [] => (none, 1)
    | _, second :: more =>
      if low ≤ second && second ≤ high then
        let tail := second :: takeContinuations (count - 2) more
        if tail.length + 1 = count then (some (Char.ofNat (codeOf lead tail)), count)
        else (none, tail.length + 1)
      else (none, 1)

/-- Decodes bytes, with a replacement character for every maximal ill-formed part. -/
def decodeLenient (bytes : List UInt8) : List Char :=
  go bytes.length bytes
where
  /-- Decodes with as many steps as there are bytes, for every step takes one at least. -/
  go : Nat → List UInt8 → List Char
    | _, [] => []
    | 0, _ => []
    | steps + 1, lead :: rest =>
      let (found, length) := decodeChar lead rest
      found.getD replacement :: go steps (rest.drop (length - 1))

/-- Decodes bytes that are UTF-8 throughout, and nothing else. -/
def decodeStrict? (bytes : List UInt8) : Option (List Char) :=
  go bytes.length bytes
where
  /-- Decodes with as many steps as there are bytes, for every step takes one at least. -/
  go : Nat → List UInt8 → Option (List Char)
    | _, [] => some []
    | 0, _ => none
    | steps + 1, lead :: rest =>
      match decodeChar lead rest with
      | (some c, length) => (go steps (rest.drop (length - 1))).map (c :: ·)
      | (none, _) => none

end DiscordRest.Text
