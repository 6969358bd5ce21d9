/-
Quoted texts, as messages show them: between double quotes, printable characters as they are, the
usual control characters by letter, other code points and stray bytes in hexadecimal.
-/
import TextTemplate.Text.Rune
import TextTemplate.Text.Printable

namespace TextTemplate

/-- A hexadecimal digit, in lower case. -/
def hexDigit (n : Nat) : UInt8 := (if n < 10 then 0x30 + n else 0x57 + n).toUInt8

/-- The last `width` hexadecimal digits of a number, in lower case. -/
def hexDigits : Nat → Nat → Text
  | 0, _ => []
  | width + 1, n => hexDigits width (n / 16) ++ [hexDigit (n % 16)]

/-- How one character stands between the quotes. -/
def Rune.quoted (r : Rune) : Text :=
  let c := r.code
  if !r.isValid then utf8 "\\x" ++ (r.bytes.flatMap fun b => hexDigits 2 b.toNat)
  else if c == 0x22 || c == 0x5C then 0x5C :: r.bytes
  else if isPrintable c then r.bytes
  else if c == 0x07 then utf8 "\\a"
  else if c == 0x08 then utf8 "\\b"
  else if c == 0x0C then utf8 "\\f"
  else if c == 0x0A then utf8 "\\n"
  else if c == 0x0D then utf8 "\\r"
  else if c == 0x09 then utf8 "\\t"
  else if c == 0x0B then utf8 "\\v"
  else if c < 0x20 || c == 0x7F then utf8 "\\x" ++ hexDigits 2 c
  else if c < 0x10000 then utf8 "\\u" ++ hexDigits 4 c
  else utf8 "\\U" ++ hexDigits 8 c

/-- A text between double quotes. -/
def Text.quoted (s : Text) : Text := utf8 "\"" ++ s.runes.flatMap Rune.quoted ++ utf8 "\""

end TextTemplate
