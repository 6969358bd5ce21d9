/-
Layout files: sections of named values. A line is blank, a comment, a heading in brackets, or a key
and a value with `=` or `:` between them; what comes before the first heading belongs to the section
`DEFAULT`, and a key that is only a dash is given a number. A value ends before a `#` or `;`, a
backslash at its end takes the next line in, and quotes around it are dropped; between backquotes or
triple quotes it is taken as it is, over several lines. Sections of one heading are one section, and
the last value of a key counts.
-/
import TextTemplate.NameMap
import TextTemplate.Text.Blank

namespace TextTemplate.EditorConfig

/-- The sections of a file, first heading first. -/
abbrev Sections := NameMap (NameMap Text)

/-- The heading of what comes before all headings. -/
def noHeading : Text := utf8 "DEFAULT"

/-- The lines of a text, each with its line feed. -/
def linesOf (s : Text) : List Text :=
  let ps := Text.pieces 0x0A s
  ps.dropLast.map (· ++ [0x0A]) ++ (ps.getLast?.toList)

/-- The text without a byte order mark. -/
def dropMark : Text → Text
  | 0xEF :: 0xBB :: 0xBF :: s => s
  | 0xFE :: 0xFF :: s => s
  | 0xFF :: 0xFE :: s => s
  | s => s

/-- The text before the last occurrence of a non-empty pattern. -/
def beforeLast? (pattern s : Text) : Option Text :=
  (Text.cutAt? pattern.reverse s.reverse).map fun (_, before) => before.reverse

/-- The place of the first of some bytes. -/
def indexOfAny? (bytes s : Text) : Option Nat := s.findIdx? bytes.contains

/-- The quote a key may start with. -/
def keyQuote (line : Text) : Text :=
  if (utf8 "\"\"\"").isPrefixOf line && line.length > 6 then utf8 "\"\"\""
  else if line.head? = some 0x22 then utf8 "\""
  else if line.head? = some 0x60 then utf8 "\u0060"
  else []

/-- The key of a line, and what follows the mark between key and value. -/
def readKey? (line : Text) : Option (Text × Text) :=
  let quote := keyQuote line
  if quote.isEmpty then
    match indexOfAny? (utf8 "=:") line with
    | none => none
    | some 0 => none
    | some n => some (Text.trim (line.take n), line.drop (n + 1))
  else
    match Text.cutAt? quote (line.drop quote.length) with
    | none => none
    | some (key, rest) =>
      (indexOfAny? (utf8 "=:") rest).map fun n => (key.trim, rest.drop (n + 1))

/-- Takes in the lines that continue a value. -/
def continued (value : Text) : List Text → Text × List Text
  | [] => (value, [])
  | line :: lines =>
    let next := line.trim
    if next.isEmpty then (value, lines)
    else if next.getLast? = some 0x5C then continued (value ++ next.dropLast) lines
    else (value ++ next, lines)

/-- Takes in lines up to a closing quote. -/
def quotedLines (quote value : Text) : List Text → Option (Text × List Text)
  | [] => none
  | line :: lines =>
    match beforeLast? quote line with
    | some here => some (value ++ here, lines)
    | none => quotedLines quote (value ++ line) lines

/-- Whether the text stands between two quotes and has none inside. -/
def isSurrounded (quote : UInt8) (s : Text) : Bool :=
  s.length ≥ 2 && s.head? == some quote && s.getLast? == some quote && s.count quote == 2

/-- The value at the start of some text, with the lines that follow it. -/
def readValue? (s : Text) (lines : List Text) : Option (Text × List Text) :=
  let line := s.trimStart
  if line.isEmpty then some ([], lines)
  else
    let quote :=
      if (utf8 "\"\"\"").isPrefixOf line && line.length > 3 then utf8 "\"\"\""
      else if line.head? = some 0x60 then utf8 "\u0060"
      else []
    if !quote.isEmpty then
      match beforeLast? quote (line.drop quote.length) with
      | some value => some (value, lines)
      | none => quotedLines quote (line.drop quote.length) lines
    else
      let line := line.trim
      if line.getLast? = some 0x5C then some (continued line.dropLast lines)
      else
        let line := match indexOfAny? (utf8 "#;") line with
          | some n => Text.trim (line.take n)
          | none => line
        if isSurrounded 0x27 line || isSurrounded 0x22 line then some (line.tail.dropLast, lines)
        else some (line, lines)

/-- Gives a key of a section a value. -/
def setValue (sections : Sections) (heading key value : Text) : Sections :=
  sections.insert heading (((sections.find? heading).getD []).insert key value)

/-- Makes sure that there is a section. -/
def addSection (sections : Sections) (heading : Text) : Sections :=
  if sections.any (·.1 == heading) then sections else sections ++ [(heading, [])]

/-- Reads lines into sections, the current one named `heading` and with `unnamed` keys that are only
a dash; those are numbered. -/
def readLines : (fuel : Nat) → (heading : Text) → (unnamed : Nat) → Sections → List Text →
    Option Sections
  | 0, _, _, sections, _ => some sections
  | _, _, _, sections, [] => some sections
  | fuel + 1, heading, unnamed, sections, line :: lines =>
    let line := line.trimStart
    match line with
    | [] => readLines fuel heading unnamed sections lines
    | 0x23 :: _ => readLines fuel heading unnamed sections lines
    | 0x3B :: _ => readLines fuel heading unnamed sections lines
    | 0x5B :: rest =>
      match beforeLast? [0x5D] rest with
      | none => none
      | some [] => none
      | some heading => readLines fuel heading 0 (addSection sections heading) lines
    | line => do
      let (key, rest) ← readKey? line
      let (value, lines) ← readValue? rest lines
      if key.isEmpty then none
      else if key = utf8 "-" then
        let key := utf8 "#" ++ Text.ofNat (unnamed + 1)
        readLines fuel heading (unnamed + 1) (setValue sections heading key value) lines
      else readLines fuel heading unnamed (setValue sections heading key value) lines

/-- The sections of a layout file, none when a line cannot be read. -/
def sections? (content : Text) : Option Sections :=
  let lines := linesOf (dropMark content)
  readLines lines.length noHeading 0 [(noHeading, [])] lines

end TextTemplate.EditorConfig
