/-
Writing documents. Collections are written as blocks, four columns a level, and no line is folded. A
text stands without quotes where a reader takes it for itself, in single quotes where only a mark or
a blank stands in the way, and else in double quotes; one with line feeds is a literal block if it
can be. Bytes that are not UTF-8 are written in base 64.
-/
import TextTemplate.Text.Base64
import TextTemplate.Text.Quoted
import TextTemplate.Yaml.Character
import TextTemplate.Yaml.Scalar

namespace TextTemplate.Yaml

/-! ## Characters -/

def isSpace (c : Nat) : Bool := c == 0x20

/-- Whether a character is written as it is. -/
def isWritable (c : Nat) : Bool :=
  c == 0x0A || (0x20 ≤ c && c ≤ 0x7E) || (0xA0 ≤ c && c ≤ 0xFFFD && c != 0xFEFF)

/-- Whether a character that satisfies `p` stands right before one that satisfies `q`. -/
def hasPair (p q : Nat → Bool) : List Nat → Bool
  | a :: b :: cs => (p a && q b) || hasPair p q (b :: cs)
  | _ => false

/-- Whether the rest of a text starts with a blank or is empty. -/
def atBlank : List Nat → Bool
  | [] => true
  | c :: _ => c == 0x20 || c == 0x09

/-! ## Styles -/

/-- How a scalar is written. -/
inductive Style where
  | plain
  | single
  | double
  | literal
  deriving DecidableEq, Repr

/-- Whether a mark stands where a scalar without quotes would end, or would not start. -/
def hasIndicator (cs : List Nat) : Bool :=
  let marks := (utf8 "#,[]\x7b\x7d&*!|>'\"%@\u0060").map UInt8.toNat
  let first := match cs with
    | [] => false
    | c :: rest =>
      marks.contains c || ((c == 0x3F || c == 0x3A || c == 0x2D) && atBlank rest)
  first || (cs.take 3 == [0x2D, 0x2D, 0x2D]) || (cs.take 3 == [0x2E, 0x2E, 0x2E]) || later cs
where
  /-- A colon before a blank, or a number sign behind one. -/
  later : List Nat → Bool
    | a :: b :: cs =>
      (b == 0x3A && atBlank cs) || (b == 0x23 && (isSpace a || a == 0x09 || a == 0 || isBreak a))
        || later (b :: cs)
    | _ => false

/-- Whether some character can only be written as an escape. -/
def needsEscape (cs : List Nat) : Bool := cs.any fun c => c != 0x09 && !isWritable c

/-- Whether the characters may stand in single quotes. -/
def singleAllowed (cs : List Nat) : Bool :=
  !needsEscape cs && !cs.contains 0x09 && !hasPair isSpace isBreak cs && !hasPair isBreak isSpace cs

/-- Whether the characters may stand without quotes. -/
def plainAllowed (cs : List Nat) : Bool :=
  singleAllowed cs && !cs.any isBreak && !(cs.head?.any isSpace) && !(cs.getLast?.any isSpace)
    && !hasIndicator cs

/-- Whether the characters may stand in a literal block. -/
def literalAllowed (cs : List Nat) : Bool :=
  !cs.isEmpty && !needsEscape cs && !(cs.getLast?.any isSpace) && !hasPair isSpace isBreak cs

/-- The style of a text. -/
def styleOf (s : Text) : Style :=
  let cs := s.codes
  if cs.contains 0x0A then if literalAllowed cs then .literal else .double
  else if !isPlainText s then .double
  else if plainAllowed cs then .plain
  else if singleAllowed cs then .single
  else .double

/-! ## Scalars -/

/-- A hexadecimal number of so many digits, in upper case. -/
def upperHex (width n : Nat) : Text :=
  (hexDigits width n).map fun b => if 0x61 ≤ b then b - 0x20 else b

/-- The letters of short escapes. -/
def shortEscapes : List (Nat × String) :=
  [(0x00, "0"), (0x07, "a"), (0x08, "b"), (0x09, "t"), (0x0A, "n"), (0x0B, "v"), (0x0C, "f"),
    (0x0D, "r"), (0x1B, "e"), (0x22, "\""), (0x5C, "\\"), (0x85, "N"), (0xA0, "_"), (0x2028, "L"),
    (0x2029, "P")]

/-- A character as an escape. -/
def escaped (c : Nat) : Text :=
  utf8 "\\" ++ match shortEscapes.find? (·.1 == c) with
    | some (_, letter) => utf8 letter
    | none =>
      if c ≤ 0xFF then utf8 "x" ++ upperHex 2 c
      else if c ≤ 0xFFFF then utf8 "u" ++ upperHex 4 c
      else utf8 "U" ++ upperHex 8 c

/-- A text in double quotes. Behind a byte order mark at its start every character is an escape. -/
def doubleQuoted (s : Text) : Text :=
  let cs := s.codes
  let marked := cs.head? == some 0xFEFF
  let one (c : Nat) : Text :=
    if marked || !isWritable c || isBreak c || c == 0x22 || c == 0x5C then escaped c
    else Rune.encode c
  utf8 "\"" ++ cs.flatMap one ++ utf8 "\""

def pad (n : Nat) : Text := List.replicate n 0x20

/-- Characters with every line behind a break indented; `fresh` says that a line starts here. -/
def indented (indent : Nat) (one : Nat → Text) : (fresh : Bool) → List Nat → Text
  | _, [] => []
  | fresh, c :: cs =>
    if isBreak c then Rune.encode c ++ indented indent one true cs
    else (if fresh then pad indent else []) ++ one c ++ indented indent one false cs

/-- A text in single quotes, which are doubled inside. -/
def singleQuoted (indent : Nat) (s : Text) : Text :=
  let one (c : Nat) : Text := if c == 0x27 then utf8 "''" else Rune.encode c
  utf8 "'" ++ indented indent one false s.codes ++ utf8 "'"

/-- The columns a level takes. -/
def levelWidth : Nat := 4

/-- The header of a literal block: the indentation when the text starts with a blank, and what
happens to the breaks at its end. -/
def literalHeader (cs : List Nat) : Text :=
  let start := if cs.head?.any fun c => isSpace c || isBreak c then Text.ofNat levelWidth else []
  let last := cs.reverse
  let stop := match last with
    | [] => utf8 "-"
    | [c] => if isBreak c then utf8 "+" else utf8 "-"
    | c :: d :: _ => if !isBreak c then utf8 "-" else if isBreak d then utf8 "+" else []
  utf8 "|" ++ start ++ stop

/-- A scalar with the end of its line. The line of a literal block's header ends with the break the
text starts with, if it does. -/
def scalarLine (indent : Nat) (s : Text) : Style → Text
  | .plain => s ++ utf8 "\n"
  | .single => singleQuoted indent s ++ utf8 "\n"
  | .double => doubleQuoted s ++ utf8 "\n"
  | .literal =>
    let cs := s.codes
    literalHeader cs ++ (if cs.head?.any isBreak then [] else utf8 "\n")
      ++ indented indent Rune.encode true cs ++ if cs.getLast?.any isBreak then [] else utf8 "\n"

/-- The longest line of base 64. -/
def base64Width : Nat := 70

/-- Cuts a text into lines of a width, each with a line feed; `fuel` bounds their number. -/
def cutLines (width : Nat) : (fuel : Nat) → Text → Text
  | 0, s => s
  | fuel + 1, s =>
    if s.isEmpty then [] else s.take width ++ utf8 "\n" ++ cutLines width fuel (s.drop width)

/-- The digits of base 64 in lines, a short number of them on one line without its end. -/
def base64Lines (s : Text) : Text :=
  let digits := Text.base64 s
  if digits.length < base64Width then digits else cutLines base64Width digits.length digits

/-- A text with the end of its line. -/
def textLine (indent : Nat) (s : Text) : Text :=
  if s.isUtf8 then scalarLine indent s (styleOf s)
  else
    let digits := base64Lines s
    utf8 "!!binary " ++ scalarLine indent digits (if digits.contains 0x0A then .literal else .plain)

/-! ## Documents -/

/-- What can be written. -/
inductive Item where
  | text (s : Text)
  /-- A text that is always in double quotes. -/
  | quoted (s : Text)
  | sequence (items : List Item)
  | mapping (entries : List (Text × Item))

/-- The column of what is inside of something at a column. -/
def deeper (inSequence : Bool) (column : Nat) : Nat :=
  if inSequence then column + 2 else levelWidth * ((column + levelWidth) / levelWidth)

/-- The longest key that may stand on the line of its value. -/
def keyLimit : Nat := 128

/-- A key with its colon. -/
def keyLine (column : Nat) (key : Text) : Text :=
  if key.length ≤ keyLimit && !key.codes.any isBreak then
    (textLine (deeper false column) key).dropLast ++ utf8 ":"
  else utf8 "? " ++ textLine (deeper false column) key ++ pad column ++ utf8 ":"

mutual

/-- An item behind the colon or the dash of an entry of a collection at a column. -/
def renderInside (inSequence : Bool) (column : Nat) : Item → Text
  | .text s => utf8 " " ++ textLine (deeper inSequence column) s
  | .quoted s => utf8 " " ++ doubleQuoted s ++ utf8 "\n"
  | .sequence [] => utf8 " []\n"
  | .mapping [] => utf8 " \x7b\x7d\n"
  | .sequence (item :: items) =>
    let inner := deeper inSequence column
    (if inSequence then utf8 " " else utf8 "\n" ++ pad inner)
      ++ utf8 "-" ++ renderInside true inner item ++ renderItems inner items
  | .mapping ((key, item) :: entries) =>
    let inner := deeper inSequence column
    (if inSequence then utf8 " " else utf8 "\n" ++ pad inner)
      ++ keyLine inner key ++ renderInside false inner item ++ renderEntries inner entries

def renderItems (column : Nat) : List Item → Text
  | [] => []
  | item :: items => pad column ++ utf8 "-" ++ renderInside true column item ++ renderItems column items

def renderEntries (column : Nat) : List (Text × Item) → Text
  | [] => []
  | (key, item) :: entries =>
    pad column ++ keyLine column key ++ renderInside false column item ++ renderEntries column entries

end

/-- A document with a mapping at its root. -/
def renderDocument (entries : List (Text × Item)) : Text :=
  if entries.isEmpty then utf8 "\x7b\x7d\n" else renderEntries 0 entries

end TextTemplate.Yaml
