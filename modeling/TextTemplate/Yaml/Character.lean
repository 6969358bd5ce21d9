/-
Classes of characters: what separates words, what ends lines, and what may stand in a document.
-/
import TextTemplate.Text.Rune

namespace TextTemplate.Yaml

/-- Whether a character may stand in a document. -/
def isAllowed (c : Nat) : Bool :=
  c == 0x09 || c == 0x0A || c == 0x0D || (0x20 ≤ c && c ≤ 0x7E) || c == 0x85
    || (0xA0 ≤ c && c ≤ 0xFFFD) || 0x10000 ≤ c

def isBlank (c : Nat) : Bool := c == 0x20 || c == 0x09

/-- Whether a character ends a line. -/
def isBreak (c : Nat) : Bool :=
  c == 0x0A || c == 0x0D || c == 0x85 || c == 0x2028 || c == 0x2029

/-- Whether the characters start with a blank or a line break, or are none. -/
def atGap : List Nat → Bool
  | [] => true
  | c :: _ => isBlank c || isBreak c

/-- The characters with the line breaks of systems all line feeds; the separators U+2028 and U+2029
stay as they are. -/
def normalBreaks : List Nat → List Nat
  | [] => []
  | 0x0D :: 0x0A :: s => 0x0A :: normalBreaks s
  | 0x0D :: s => 0x0A :: normalBreaks s
  | 0x85 :: s => 0x0A :: normalBreaks s
  | c :: s => c :: normalBreaks s

end TextTemplate.Yaml
