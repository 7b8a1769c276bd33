/-! Base 64: three bytes as four characters, with equals signs where bytes are missing. -/

namespace DiscordRest.Text

/-- The character for a number below 64. -/
def base64Digit (n : Nat) : Char :=
  if n < 26 then .ofNat (65 + n)
  else if n < 52 then .ofNat (71 + n)
  else if n < 62 then .ofNat (n - 4)
  else if n = 62 then '+'
  else '/'

/-- The four numbers below 64 that hold three bytes. -/
def base64Digits (a b c : UInt8) : List Char :=
  let n := (a.toNat * 256 + b.toNat) * 256 + c.toNat
  [n / 64 / 64 / 64, n / 64 / 64 % 64, n / 64 % 64, n % 64].map base64Digit

/-- Bytes in base 64. -/
def base64 : List UInt8 → List Char
  | [] => []
  | [a] => (base64Digits a 0 0).take 2 ++ ['=', '=']
  | [a, b] => (base64Digits a b 0).take 3 ++ ['=']
  | a :: b :: c :: rest => base64Digits a b c ++ base64 rest

end DiscordRest.Text
