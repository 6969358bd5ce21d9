/-
Blank characters: the white space of Unicode. Trimming takes blank characters from both ends of a
text, and the words of a text are its maximal runs of characters that are not blank.
-/
import TextTemplate.Text.Rune

namespace TextTemplate

/-- The code points with the property White_Space. -/
def Rune.isBlankCode (c : Nat) : Bool :=
  (0x09 ≤ c && c ≤ 0x0D) || c == 0x20 || c == 0x85 || c == 0xA0 || c == 0x1680 ||
  (0x2000 ≤ c && c ≤ 0x200A) || c == 0x2028 || c == 0x2029 || c == 0x202F || c == 0x205F ||
  c == 0x3000

/-- A blank character. -/
def Rune.isBlank (r : Rune) : Bool := isBlankCode r.code

namespace Text

/-- The text without the blank characters at its start. -/
def trimStart (s : Text) : Text := ofRunes (s.runes.dropWhile Rune.isBlank)

/-- The text without the blank characters at its end. -/
def trimEnd (s : Text) : Text := ofRunes (s.runes.reverse.dropWhile Rune.isBlank).reverse

/-- The text without the blank characters at both ends. -/
def trim (s : Text) : Text := trimEnd (trimStart s)

/-- Whether the text has only blank characters. -/
def isBlank (s : Text) : Bool := s.runes.all Rune.isBlank

/-- The words of a list of characters: `word` holds those of the current word, last first. -/
def wordsGo (word : List Rune) : List Rune → List Text
  | [] => if word.isEmpty then [] else [ofRunes word.reverse]
  | r :: rs =>
    if r.isBlank then
      if word.isEmpty then wordsGo [] rs else ofRunes word.reverse :: wordsGo [] rs
    else wordsGo (r :: word) rs

/-- The words of a text, in order. -/
def words (s : Text) : List Text := wordsGo [] s.runes

end Text
end TextTemplate
