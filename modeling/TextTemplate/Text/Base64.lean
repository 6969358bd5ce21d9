/-
Bytes in base 64: three bytes become four digits, and equals signs fill up the last group. A
reader passes over line breaks.
-/
import TextTemplate.Text.Basic

namespace TextTemplate.Text

/-- The digit of a number below 64. -/
def base64Digit (n : Nat) : UInt8 :=
  if n < 26 then (0x41 + n).toUInt8
  else if n < 52 then (0x61 + (n - 26)).toUInt8
  else if n < 62 then (0x30 + (n - 52)).toUInt8
  else if n = 62 then 0x2B
  else 0x2F

/-- The first `count` digits of three bytes. -/
def base64Group (count : Nat) (a b c : UInt8) : Text :=
  let n := a.toNat * 65536 + b.toNat * 256 + c.toNat
  ([n / 262144, n / 4096 % 64, n / 64 % 64, n % 64].take count).map base64Digit

/-- The bytes in base 64. -/
def base64 : Text → Text
  | [] => []
  | [a] => base64Group 2 a 0 0 ++ utf8 "=="
  | [a, b] => base64Group 3 a b 0 ++ utf8 "="
  | a :: b :: c :: rest => base64Group 4 a b c ++ base64 rest

/-- The number of a digit. -/
def ofBase64Digit? (b : UInt8) : Option Nat :=
  if 0x41 ≤ b && b ≤ 0x5A then some (b.toNat - 0x41)
  else if 0x61 ≤ b && b ≤ 0x7A then some (b.toNat - 0x61 + 26)
  else if 0x30 ≤ b && b ≤ 0x39 then some (b.toNat - 0x30 + 52)
  else if b = 0x2B then some 62
  else if b = 0x2F then some 63
  else none

/-- The first `count` bytes of four digits. -/
def ofBase64Group? (count : Nat) (a b c d : UInt8) : Option Text := do
  let n := (← ofBase64Digit? a) * 262144 + (← ofBase64Digit? b) * 4096
    + (← ofBase64Digit? c) * 64 + (← ofBase64Digit? d)
  return ([n / 65536, n / 256 % 256, n % 256].take count).map Nat.toUInt8

/-- The bytes of digits in whole groups. -/
def ofBase64Digits? : Text → Option Text
  | [] => some []
  | [a, b, 0x3D, 0x3D] => ofBase64Group? 1 a b 0x41 0x41
  | [a, b, c, 0x3D] => ofBase64Group? 2 a b c 0x41
  | a :: b :: c :: d :: rest => do
    let here ← ofBase64Group? 3 a b c d
    let more ← ofBase64Digits? rest
    return here ++ more
  | _ => none

/-- The bytes that are written in base 64; line breaks do not count. -/
def ofBase64? (s : Text) : Option Text := ofBase64Digits? (s.filter fun b => b != 0x0A && b != 0x0D)

end TextTemplate.Text
