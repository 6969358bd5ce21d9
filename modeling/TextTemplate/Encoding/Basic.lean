/-
Output encodings. A text is encoded character by character; a character an encoding does not have
makes the encoding fail. In UTF-8 and UTF-16, which have them all, a byte that is not UTF-8 becomes
U+FFFD; elsewhere such a byte is a U+FFFD that the encoding need not have.
-/
import TextTemplate.Text.Rune
import TextTemplate.Encoding.CodePage
import TextTemplate.Encoding.EastAsian

namespace TextTemplate

/-- Which byte of a unit comes first. -/
inductive ByteOrder where
  | big
  | little
  deriving DecidableEq, Repr

/-- An encoding. -/
inductive Encoding where
  | utf8
  /-- UTF-16, with or without a byte order mark in front. -/
  | utf16 (order : ByteOrder) (mark : Bool)
  | ascii
  | latin1
  /-- ASCII below, the given characters above. -/
  | upperPage (chars : String)
  /-- The given characters for all bytes. -/
  | fullPage (chars : String)
  | eastAsian (set : EastAsianSet)
  deriving DecidableEq, Repr

namespace Encoding

/-- What is said of a character the encoding does not have. -/
def notSupported : Text := TextTemplate.utf8 "encoding: rune not supported by encoding."

/-- A UTF-16 unit. -/
def unit : ByteOrder → Nat → Text
  | .big, n => [(n / 256).toUInt8, (n % 256).toUInt8]
  | .little, n => [(n % 256).toUInt8, (n / 256).toUInt8]

/-- The UTF-16 units of a code point. -/
def units16 (order : ByteOrder) (c : Nat) : Text :=
  if c < 0x10000 then unit order c
  else unit order (0xD800 + (c - 0x10000) / 1024) ++ unit order (0xDC00 + (c - 0x10000) % 1024)

/-- The byte of a character in a list of the characters from byte `start` on. -/
def pageByte? (chars : String) (start c : Nat) : Option Text :=
  if c = 0xFFFD then none
  else (chars.toList.findIdx? (·.toNat == c)).map fun i => [(start + i).toUInt8]

/-- The bytes of a character in an encoding that treats each character alone, none when it does not
have it. -/
def runeBytes? (e : Encoding) (r : Rune) : Option Text :=
  match e with
  | utf8 => some (Rune.encode r.code)
  | utf16 order _ => some (units16 order r.code)
  | ascii => if r.code < 0x80 then some r.bytes else none
  | latin1 => if r.code < 0x100 then some [r.code.toUInt8] else none
  | upperPage chars => if r.code < 0x80 then some r.bytes else pageByte? chars 0x80 r.code
  | fullPage chars => pageByte? chars 0 r.code
  | eastAsian set => if r.code < 0x80 then some r.bytes else set.bytes? r.code

/-- The bytes of a text, unless it has a character the encoding lacks. -/
def encode? (e : Encoding) (s : Text) : Option Text :=
  match e with
  | utf16 order true => (s.runes.mapM (runeBytes? e)).map fun parts => unit order 0xFEFF ++ parts.flatten
  | eastAsian set => set.encode? s.codes
  | _ => (s.runes.mapM (runeBytes? e)).map List.flatten

end Encoding
end TextTemplate
