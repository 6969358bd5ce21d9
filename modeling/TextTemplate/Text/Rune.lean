/-
Characters of a text. A text is read as UTF-8 from left to right; a byte that starts no valid
sequence is a character of its own, one byte wide, that stands for U+FFFD. So every text is the
concatenation of its characters' bytes, and no text is refused.
-/
import TextTemplate.Text.Basic

namespace TextTemplate

/-- A character of a text: its code point and the bytes it was read from. -/
structure Rune where
  code : Nat
  bytes : Text
  deriving DecidableEq, Repr

namespace Rune

/-- The code point that stands for a byte which is not UTF-8. -/
def replacement : Nat := 0xFFFD

/-- A byte of the form 10xxxxxx. -/
def isTail (b : UInt8) : Bool := 0x80 ≤ b && b ≤ 0xBF

/-- The six payload bits of a continuation byte. -/
def tailBits (b : UInt8) : Nat := b.toNat % 64

/-- Code point and width of the valid UTF-8 sequence a text starts with. Overlong forms, surrogates
and code points above U+10FFFF are not valid. -/
def decode? : Text → Option (Nat × Nat)
  | [] => none
  | a :: s =>
    if a < 0x80 then some (a.toNat, 1)
    else if a < 0xC2 then none
    else if a < 0xE0 then
      match s with
      | b :: _ => if isTail b then some (a.toNat % 32 * 64 + tailBits b, 2) else none
      | _ => none
    else if a < 0xF0 then
      match s with
      | b :: c :: _ =>
        let code := a.toNat % 16 * 4096 + tailBits b * 64 + tailBits c
        if isTail b && isTail c && 0x800 ≤ code && !(0xD800 ≤ code && code ≤ 0xDFFF)
        then some (code, 3) else none
      | _ => none
    else if a < 0xF5 then
      match s with
      | b :: c :: d :: _ =>
        let code := a.toNat % 8 * 262144 + tailBits b * 4096 + tailBits c * 64 + tailBits d
        if isTail b && isTail c && isTail d && 0x10000 ≤ code && code ≤ 0x10FFFF
        then some (code, 4) else none
      | _ => none
    else none

/-- The character a non-empty text starts with. -/
def first (b : UInt8) (s : Text) : Rune :=
  match decode? (b :: s) with
  | some (code, width) => ⟨code, (b :: s).take width⟩
  | none => ⟨replacement, [b]⟩

/-- Whether the character was read from a valid sequence. -/
def isValid (r : Rune) : Bool := r.code != replacement || r.bytes.length == 3

/-- The UTF-8 bytes of a code point; what is no scalar value is written as U+FFFD. -/
def encode (code : Nat) : Text :=
  if code < 0x80 then [code.toUInt8]
  else if code < 0x800 then [(0xC0 + code / 64).toUInt8, (0x80 + code % 64).toUInt8]
  else if code > 0x10FFFF || (0xD800 ≤ code && code ≤ 0xDFFF) then [0xEF, 0xBF, 0xBD]
  else if code < 0x10000 then
    [(0xE0 + code / 4096).toUInt8, (0x80 + code / 64 % 64).toUInt8, (0x80 + code % 64).toUInt8]
  else
    [(0xF0 + code / 262144).toUInt8, (0x80 + code / 4096 % 64).toUInt8,
      (0x80 + code / 64 % 64).toUInt8, (0x80 + code % 64).toUInt8]

end Rune

namespace Text

/-- The characters of a text, given how many bytes of the current one are still to be passed. -/
def runesGo : Nat → Text → List Rune
  | _, [] => []
  | k + 1, _ :: s => runesGo k s
  | 0, b :: s => Rune.first b s :: runesGo ((Rune.first b s).bytes.length - 1) s

/-- The characters of a text, from left to right. -/
def runes (s : Text) : List Rune := runesGo 0 s

/-- The code points of a text. -/
def codes (s : Text) : List Nat := s.runes.map Rune.code

/-- The text of a list of characters. -/
def ofRunes (rs : List Rune) : Text := rs.flatMap Rune.bytes

/-- The UTF-8 text of a list of code points. -/
def ofCodes (cs : List Nat) : Text := cs.flatMap Rune.encode

/-- Whether the whole text is UTF-8. -/
def isUtf8 (s : Text) : Bool := s.runes.all Rune.isValid

/-- The text with every byte that is not UTF-8 written as U+FFFD. -/
def sanitize (s : Text) : Text := ofCodes s.codes

end Text
end TextTemplate
