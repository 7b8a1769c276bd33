/-!
Punycode: a label with characters beyond ASCII as one of letters, digits and hyphens. The ASCII
characters come first; then, for each other character in ascending order, a number says how far
it lies behind the one before, counted in places of the text and in code points between them.
-/

namespace DiscordRest.Url.Punycode

/-- The number of digits. -/
def base : Nat := 36

/-- A digit: a letter, or from 26 on one of the ten ciphers. -/
def digit (n : Nat) : Char :=
  if n < 26 then Char.ofNat (0x61 + n) else Char.ofNat (0x30 + (n - 26))

/-- The digit value at which a number ends at a place; places count in steps of the base. -/
def threshold (place bias : Nat) : Nat :=
  if place ≤ bias then 1 else min (place - bias) 26

/-- Writes a number from its lowest digit on; one below the threshold of its place is the last. -/
def writeNumber (bias : Nat) : Nat → Nat → Nat → List Char
  | 0, _, number => [digit number]
  | steps + 1, place, number =>
    let limit := threshold place bias
    if number < limit then [digit number]
    else
      digit (limit + (number - limit) % (base - limit))
        :: writeNumber bias steps (place + base) ((number - limit) / (base - limit))

/-- Divides a number until it is small, and counts the places that it loses. -/
def shrink : Nat → Nat → Nat → Nat × Nat
  | 0, number, places => (number, places)
  | steps + 1, number, places =>
    if number ≤ 455 then (number, places) else shrink steps (number / 35) (places + base)

/-- The bias after a number, by which the next one is written; `count` characters are placed. -/
def adapt (number count : Nat) (isFirst : Bool) : Nat :=
  let halved := if isFirst then number / 700 else number / 2
  let (small, places) := shrink number (halved + halved / count) 0
  places + base * small / (small + 38)

/-- How far a text is written. -/
structure Progress where
  /-- The distance from the last character that was placed. -/
  distance : Nat
  /-- The bias by which the next number is written. -/
  bias : Nat
  /-- How many characters are placed. -/
  count : Nat
  /-- Whether no number was written yet. -/
  isFirst : Bool
  /-- The digits. -/
  digits : List Char

/-- Places all occurrences of the code point `code`, by going through the text once. -/
def placeAll (code : Nat) (progress : Progress) : List Char → Progress
  | [] => progress
  | c :: rest =>
    if c.toNat < code then
      placeAll code { progress with distance := progress.distance + 1 } rest
    else if c.toNat = code then
      let distance := progress.distance
      let count := progress.count + 1
      placeAll code
        ⟨0, adapt distance count progress.isFirst, count, false,
          progress.digits ++ writeNumber progress.bias distance base distance⟩
        rest
    else placeAll code progress rest

/-- Places the code points above `last`, which ascend. -/
def placeCodes (text : List Char) (last : Nat) (progress : Progress) : List Nat → Progress
  | [] => progress
  | code :: rest =>
    let skipped := (code - last - 1) * (progress.count + 1)
    let progress :=
      placeAll code { progress with distance := progress.distance + skipped } text
    placeCodes text code { progress with distance := progress.distance + 1 } rest

/-- Writes a text. -/
def encode (text : List Char) : List Char :=
  let plain := text.filter fun c => c.toNat < 0x80
  let codes := (text.map Char.toNat).filter fun code => 0x80 ≤ code
  let ascending := (codes.mergeSort fun a b => Nat.ble a b).eraseReps
  let start : Progress := ⟨0, 72, plain.length, true, []⟩
  let separator := if plain.isEmpty then [] else ['-']
  plain ++ separator ++ (placeCodes text 0x7F start ascending).digits

end DiscordRest.Url.Punycode
