import DiscordRest.Url.Domain
import DiscordRest.Url.Fault
import DiscordRest.Url.Percent

/-! Hosts: domain names and addresses, with their reading and their written form. -/

namespace DiscordRest.Url

/-- The machine that a URL names. -/
inductive Host where
  /-- A name; the empty one where a scheme allows for no host. -/
  | name (text : List Char)
  /-- An address of 32 bits. -/
  | ipv4 (address : UInt32)
  /-- An address of eight pieces of 16 bits. -/
  | ipv6 (pieces : List UInt16)
  deriving DecidableEq, Repr

namespace Host

/-! ### Addresses of 32 bits -/

/--
A part of an address: decimal, octal after a leading zero, or hexadecimal after a leading `0x`;
none if it is no number.
-/
def ipv4Number? (text : List Char) : Option Nat :=
  match text with
  | [] => none
  | '0' :: 'x' :: digits => if digits.isEmpty then some 0 else Text.readDigits? 16 digits
  | '0' :: 'X' :: digits => if digits.isEmpty then some 0 else Text.readDigits? 16 digits
  | '0' :: digits => if digits.isEmpty then some 0 else Text.readDigits? 8 digits
  | digits => Text.readDigits? 10 digits

/-- A list without its last part if that is empty. -/
def dropEmptyEnd (parts : List (List Char)) : List (List Char) :=
  if parts.getLast? = some [] then parts.dropLast else parts

/-- Whether the last part of a domain name looks like a number, so that the name is an address. -/
def endsInNumber (domain : List Char) : Bool :=
  match (dropEmptyEnd (splitAt '.' domain)).getLast? with
  | none => false
  | some part =>
    (!part.isEmpty && part.all Text.isDigit) || (ipv4Number? part).isSome

/-- The value of up to four numbers, where the last one fills the remaining bytes. -/
def ipv4Value? (numbers : List Nat) : Option Nat :=
  match numbers.reverse with
  | [] => none
  | last :: before =>
    let rest := Nat.pow 256 (5 - numbers.length)
    if 4 < numbers.length || rest ≤ last || before.any (255 < ·) then none
    else some ((before.reverse.foldl (fun value n => value * 256 + n) 0) * rest + last)

/-- Reads an address of numbers between points. -/
def readIpv4 (domain : List Char) : Except Fault Host :=
  match (dropEmptyEnd (splitAt '.' domain)).mapM ipv4Number? with
  | none => .error .invalidIpv4
  | some numbers =>
    match ipv4Value? numbers with
    | none => .error .invalidIpv4
    | some value => .ok (.ipv4 (UInt32.ofNat value))

/-- The four bytes of an address as decimal numbers between points. -/
def ipv4Text (address : UInt32) : List Char :=
  let n := address.toNat
  (String.intercalate "."
    [Text.decimal (n / 16777216), Text.decimal (n / 65536 % 256), Text.decimal (n / 256 % 256),
      Text.decimal (n % 256)]).toList

/-! ### Addresses of 128 bits -/

/-- The two pieces of an address of 32 bits, four decimal numbers without leading zeros. -/
def embeddedPieces? (text : List Char) : Option (List Nat) :=
  let byte? := fun (digits : List Char) =>
    if 1 < digits.length && digits.head? == some '0' then none
    else (Text.readDigits? 10 digits).bind fun n => if n ≤ 255 then some n else none
  match (splitAt '.' text).mapM byte? with
  | some [a, b, c, d] => some [a * 256 + b, c * 256 + d]
  | _ => none

/-- A piece: one to four hexadecimal digits. -/
def piece? (text : List Char) : Option Nat :=
  if 4 < text.length then none else Text.readDigits? 16 text

/-- The pieces between colons; the last ones may be an address of 32 bits if `embeds`. -/
def pieces? (embeds : Bool) (text : List Char) : Option (List Nat) :=
  if text.isEmpty then some []
  else go (splitAt ':' text)
where
  /-- Reads piece after piece. -/
  go : List (List Char) → Option (List Nat)
    | [] => some []
    | [last] =>
      if embeds && last.contains '.' then embeddedPieces? last
      else (piece? last).map fun n => [n]
    | part :: rest =>
      match piece? part with
      | none => none
      | some n => (go rest).map (n :: ·)

/-- The parts before and after the first pair of colons; none if there is no pair. -/
def splitColons : List Char → Option (List Char × List Char)
  | [] => none
  | ':' :: ':' :: rest => some ([], rest)
  | c :: rest => (splitColons rest).map fun (before, after) => (c :: before, after)

/-- Reads an address: eight pieces, or fewer and a pair of colons in place of at least one. -/
def readIpv6 (text : List Char) : Except Fault Host :=
  let pieces : Option (List Nat) := match splitColons text with
    | none => (pieces? true text).bind fun all => if all.length = 8 then some all else none
    | some (before, after) =>
      match pieces? false before, pieces? true after with
      | some left, some right =>
        if left.length + right.length ≤ 7 then
          some (left ++ List.replicate (8 - left.length - right.length) 0 ++ right)
        else none
      | _, _ => none
  match pieces with
  | none => .error .invalidIpv6
  | some pieces => .ok (.ipv6 (pieces.map UInt16.ofNat))

/-- How many zeros a list starts with. -/
def leadingZeros (pieces : List UInt16) : Nat :=
  (pieces.takeWhile (· == 0)).length

/-- Where the first longest run of zeros starts and how long it is. -/
def longestZeros (pieces : List UInt16) : Nat × Nat :=
  (List.range pieces.length).foldl
    (fun best start =>
      let length := leadingZeros (pieces.drop start)
      if best.2 < length then (start, length) else best)
    (0, 0)

/-- Pieces in hexadecimal between colons. -/
def piecesText (pieces : List UInt16) : List Char :=
  (String.intercalate ":"
    (pieces.map fun n => String.ofList (Text.hexadecimal n.toNat))).toList

/-- The pieces with the longest run of at least two zeros left out between a pair of colons. -/
def ipv6Text (pieces : List UInt16) : List Char :=
  let (start, length) := longestZeros pieces
  if length < 2 then piecesText pieces
  else piecesText (pieces.take start) ++ [':', ':'] ++ piecesText (pieces.drop (start + length))

/-! ### Hosts -/

/-- The characters that no host has as they stand. -/
def forbidden (c : Char) : Bool :=
  ['\x00', '\t', '\n', '\r', ' ', '#', '/', ':', '<', '>', '?', '@', '[', '\\', ']', '^',
    '|'].contains c

/-- The characters that no domain name has. -/
def forbiddenInDomain (c : Char) : Bool :=
  forbidden c || c.toNat ≤ 0x20 || c == '%' || c.toNat == 0x7F

/-- Reads an address between brackets. -/
def readBracketed (text : List Char) : Except Fault Host :=
  if text.getLast? = some ']' then readIpv6 (text.drop 1).dropLast else .error .invalidIpv6

/-- Reads the host of a special scheme: an address, or a domain name in any case. -/
def readDomain (text : List Char) : Except Fault Host :=
  if text.head? = some '[' then readBracketed text
  else
    match Text.decodeStrict? (percentDecode text) with
    | none => .error .invalidDomain
    | some decoded =>
      match Domain.ofText? decoded with
      | none => .error .invalidDomain
      | some domain =>
        if domain.any forbiddenInDomain then .error .invalidDomain
        else if domain.isEmpty then .error .emptyHost
        else if endsInNumber domain then readIpv4 domain
        else .ok (.name domain)

/-- Reads the host of any other scheme, which stays as written. -/
def readPlain (text : List Char) : Except Fault Host :=
  if text.head? = some '[' then readBracketed text
  else if text.any forbidden then .error .invalidHost
  else .ok (.name (percentEncode escapesControl text))

/-- The written form of a host. -/
def text : Host → List Char
  | name text => text
  | ipv4 address => ipv4Text address
  | ipv6 pieces => ['['] ++ ipv6Text pieces ++ [']']

/-- Whether a host names a machine. -/
def isPresent : Host → Bool
  | name text => !text.isEmpty
  | _ => true

end Host

end DiscordRest.Url
