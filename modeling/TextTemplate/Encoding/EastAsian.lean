/-
The multi-byte encodings of East Asia. All write ASCII as it is. Most give every other character its
own bytes; two of them switch between character sets with a mark in the text, and then the bytes of a
character depend on what came before it.
-/
import TextTemplate.Text.Rune
import TextTemplate.Encoding.JisX0208
import TextTemplate.Encoding.JisX0212
import TextTemplate.Encoding.KsX1001
import TextTemplate.Encoding.Gbk
import TextTemplate.Encoding.Big5

namespace TextTemplate

/-- The multi-byte encodings of East Asia. -/
inductive EastAsianSet where
  | shiftJIS
  | eucJP
  | iso2022JP
  | eucKR
  | gbk
  | gb18030
  | hzGB2312
  | big5
  deriving DecidableEq, Repr

namespace EastAsianSet

/-- The two bytes of a code, the high one first. -/
def pair (code : Nat) : Text := [(code / 256).toUInt8, (code % 256).toUInt8]

/-- The byte of a Katakana letter of half width among 94 from `first` on. -/
def halfKatakana? (first c : Nat) : Option UInt8 :=
  if 0xFF61 ≤ c && c < 0xFFA0 then some (c - 0xFF61 + first).toUInt8 else none

/-- The bytes of a JIS code in Shift JIS: two rows of the code share a first byte. -/
def shiftJISBytes (code : Nat) : Text :=
  let row := code / 256 - 0x21
  let cell := code % 256 - 0x21
  let high := 0x81 + row / 2
  let low := cell + row % 2 * 0x5E + 0x40
  [(if high > 0x9F then high + 0x40 else high).toUInt8, (if low < 0x7F then low else low + 1).toUInt8]

/-- The bytes of a character in Shift JIS. -/
def shiftJIS? (c : Nat) : Option Text :=
  match halfKatakana? 0xA1 c with
  | some b => some [b]
  | none => (JisX0208.index[c]?).map shiftJISBytes

/-- The bytes of a character in EUC-JP: the codes with their high bits set, behind a byte of their own
for what is not in the first set. -/
def eucJP? (c : Nat) : Option Text :=
  match halfKatakana? 0xA1 c with
  | some b => some [0x8E, b]
  | none =>
    match JisX0208.index[c]? with
    | some code => some (pair (code + 0x8080))
    | none => (JisX0212.index[c]?).map fun code => 0x8F :: pair (code + 0x8080)

/-- The bytes of a character in GBK; the euro sign has one byte. -/
def gbk? (c : Nat) : Option Text :=
  if c = 0x20AC then some [0x80] else (Gbk.index[c]?).map pair

/-- The four bytes of a number in GB 18030: the last has 10 values, the others 126, 10 and 126. -/
def fourBytes (n : Nat) : Text :=
  [(0x81 + n / 12600).toUInt8, (0x30 + n / 1260 % 10).toUInt8, (0x81 + n / 10 % 126).toUInt8,
    (0x30 + n % 10).toUInt8]

/-- The bytes of a character in GB 18030, which has them all. -/
def gb18030Bytes (c : Nat) : Text := (gbk? c).getD (fourBytes (Gbk.fourByteNumber c))

/-- The sets ISO-2022-JP switches between. -/
inductive JisSet where
  | ascii
  | kanji
  | katakana
  deriving DecidableEq, Repr

/-- The mark that switches to a set. -/
def JisSet.mark : JisSet → Text
  | ascii => utf8 "\x1b(B"
  | kanji => utf8 "\x1b$B"
  | katakana => utf8 "\x1b(I"

/-- The set a character is in and its bytes there. -/
def jisPlace? (c : Nat) : Option (JisSet × Text) :=
  if c < 0x80 then some (.ascii, [c.toUInt8])
  else match halfKatakana? 0x21 c with
    | some b => some (.katakana, [b])
    | none => (JisX0208.index[c]?).map fun code => (.kanji, pair code)

/-- A text in ISO-2022-JP behind a text that ends in the given set; it ends in ASCII. -/
def iso2022JP? : JisSet → List Nat → Option Text
  | set, [] => some (if set = .ascii then [] else JisSet.ascii.mark)
  | set, c :: cs => do
    let (next, bytes) ← jisPlace? c
    let rest ← iso2022JP? next cs
    return (if next = set then [] else next.mark) ++ bytes ++ rest

/-- A text in HZ-GB-2312; `chinese` says whether what is before it ends in Chinese characters. A tilde
is doubled and switches nothing, and nothing switches back at the end. -/
def hzGB2312? : Bool → List Nat → Option Text
  | _, [] => some []
  | chinese, c :: cs =>
    if c = 0x7E then do
      let rest ← hzGB2312? chinese cs
      return utf8 "~~" ++ rest
    else if c < 0x80 then do
      let rest ← hzGB2312? false cs
      return (if chinese then utf8 "~\x7d" else []) ++ c.toUInt8 :: rest
    else do
      let code ← Gbk.index[c]?
      if code / 256 ≤ 0xA0 || code % 256 ≤ 0xA0 then none else
        let rest ← hzGB2312? true cs
        return (if chinese then [] else utf8 "~\x7b") ++ pair (code - 0x8080) ++ rest

/-- The bytes of a character beyond ASCII in the encodings that do not switch. -/
def bytes? (set : EastAsianSet) (c : Nat) : Option Text :=
  match set with
  | shiftJIS => shiftJIS? c
  | eucJP => eucJP? c
  | eucKR => (KsX1001.index[c]?).map pair
  | gbk => gbk? c
  | gb18030 => some (gb18030Bytes c)
  | big5 => (Big5.index[c]?).map pair
  | iso2022JP => none
  | hzGB2312 => none

/-- The bytes of a list of code points, unless one of them is missing in the encoding. -/
def encode? (set : EastAsianSet) (codes : List Nat) : Option Text :=
  match set with
  | iso2022JP => iso2022JP? .ascii codes
  | hzGB2312 => hzGB2312? false codes
  | _ => (codes.mapM fun c => if c < 0x80 then some [c.toUInt8] else set.bytes? c).map List.flatten

end EastAsianSet
end TextTemplate
