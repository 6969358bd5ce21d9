/-
The code writer: source text that is built up at a current indent.

Text is written line by line; each line it starts gets the indent that is current then. The writer
keeps the indent as one text and the lengths of its levels, and remembers whether the last thing
written ended a line. `#line` directives stand on lines of their own and are not repeated.
-/
import TextTemplate.Text.Blank
import TextTemplate.Location
import TextTemplate.Path

namespace TextTemplate

/-- How the text is laid out: the text of one indent level, the line terminator, and the file names
of `#line` directives, which are simple names or, with a base given, paths relative to it. -/
structure Layout where
  unit : Text
  newline : Text
  relativeTo : Option Text
  workDir : Text
  deriving DecidableEq, Repr

namespace Layout

/-- Four spaces, LF, simple file names. -/
def standard : Layout := ⟨utf8 "    ", utf8 "\n", none, utf8 "/"⟩

def withUnit (l : Layout) (unit : Text) : Layout := { l with unit := unit }

/-- Sets the line terminator, which cannot be empty. -/
def withNewline (l : Layout) (newline : Text) : Layout :=
  if newline.isEmpty then l else { l with newline := newline }

def withRelativeTo (l : Layout) (base : Text) : Layout := { l with relativeTo := some base }

/-- A file name as `#line` directives give it: the path from the base (without a base, from the
file's own directory), or the simple name. -/
def lineFile (l : Layout) (file : Text) : Text :=
  if file.isEmpty then []
  else match l.relativeTo with
    | none => Path.base file
    | some base =>
      let base := if base.isEmpty then Path.dir file else base
      let (base, file) :=
        if Path.isAbs base = Path.isAbs file then (base, file)
        else (Path.abs l.workDir base, Path.abs l.workDir file)
      (Path.rel? base file).getD file

end Layout

/-- A writer and the text it holds. -/
structure Writer where
  layout : Layout
  /-- The text written so far. -/
  out : Text
  /-- The indent of the lines to come. -/
  indent : Text
  /-- The lengths of the indent's levels, innermost first. -/
  lengths : List Nat
  /-- Whether the next text starts a line. -/
  endsLine : Bool
  /-- The file of `#line` directives that name none. -/
  lineFile : Text
  /-- The `#line` directive in force, if any. -/
  lastLine : Option (Int64 × Text)
  /-- How many using directives were written. -/
  usings : Nat
  deriving DecidableEq, Repr

namespace Writer

/-- An empty writer. -/
def ofLayout (layout : Layout) : Writer := ⟨layout, [], [], [], false, [], none, 0⟩

/-- Drops the text and the indent; a starting indent is one level. -/
def reset (w : Writer) (indent : Text) : Writer :=
  { ofLayout w.layout with
    indent := indent
    lengths := if indent.isEmpty then [] else [indent.length]
    lineFile := w.lineFile }

/-- An empty writer of the same layout that starts at the current indent. -/
def nested (w : Writer) : Writer := w.reset w.indent

def depth (w : Writer) : Nat := w.lengths.length

/-! ## Text -/

/-- Whether the last byte is a line feed. -/
def endsWithLF (s : Text) : Bool := s.getLast? == some 0x0A

/-- A text with an indent behind each of its line feeds but a last one. -/
def indented (indent s : Text) : Text :=
  let all := s.flatMap fun b => if b = 0x0A then b :: indent else [b]
  if endsWithLF s then all.take (all.length - indent.length) else all

/-- Starts a line with the indent, if one is to be started. -/
def beginLine (w : Writer) : Writer :=
  if w.out.isEmpty || w.endsLine then { w with out := w.out ++ w.indent, endsLine := false } else w

/-- Appends a text as it is. -/
def rawWrite (w : Writer) (s : Text) : Writer :=
  if s.isEmpty then w else { w with out := w.out ++ s, endsLine := endsWithLF s }

/-- Writes a text at the current indent; the lines inside it are indented too. -/
def write (w : Writer) (s : Text) : Writer :=
  if s.isEmpty then w
  else
    let w := w.beginLine
    { w with out := w.out ++ indented w.indent s, endsLine := endsWithLF s }

/-- Ends the line. -/
def endLine (w : Writer) : Writer := { w with out := w.out ++ w.layout.newline, endsLine := true }

/-- Writes a text, if any, and ends the line. -/
def writeLine (w : Writer) (s : Text) : Writer := (w.write s).endLine

/-- Appends a text as it is and ends the line. -/
def rawWriteLine (w : Writer) (s : Text) : Writer := { w with out := w.out ++ s }.endLine

/-- Writes a text at the current indent and leaves the lines inside it as they are. -/
def writeLiteral (w : Writer) (s : Text) : Writer :=
  if s.isEmpty then w else w.beginLine.rawWrite s

/-- Ends the line unless it is ended. -/
def ensureNewline (w : Writer) : Writer :=
  if !w.out.isEmpty && !w.endsLine then w.rawWriteLine [] else w

/-- Writes line terminators; what follows starts a line, however many they are. -/
def blankLine (w : Writer) (count : Int) : Writer :=
  { w with
    out := w.out ++ (List.replicate count.toNat w.layout.newline).flatten
    endsLine := true }

/-- The lines of a text without the line break at its end. -/
def linesOf (s : Text) : List Text :=
  Text.pieces 0x0A (Text.dropEnd [0x0A] (Text.replace [0x0D, 0x0A] [0x0A] s))

/-- Writes each line of a text at the current indent; blank lines become empty. -/
def writeBlock (w : Writer) (block : Text) : Writer :=
  (linesOf block).foldl
    (fun w line => if line.isBlank then w.rawWriteLine [] else w.writeLine line) w

/-! ## Indent -/

def pushIndent (w : Writer) (s : Text) : Writer :=
  { w with indent := w.indent ++ s, lengths := s.length :: w.lengths }

/-- Adds one level of the layout's indent. -/
def addIndent (w : Writer) : Writer := w.pushIndent w.layout.unit

/-- Takes the innermost level away, if there is one. -/
def popIndent (w : Writer) : Writer :=
  match w.lengths with
  | [] => w
  | n :: ns => { w with indent := w.indent.take (w.indent.length - n), lengths := ns }

def clearIndent (w : Writer) : Writer := { w with indent := [], lengths := [] }

/-- Writes a line and indents what follows. -/
def openScope (w : Writer) (tag : Text) : Writer := (w.writeLine tag).addIndent

/-- Ends an indented part with a line. -/
def closeScope (w : Writer) (tag : Text) : Writer := w.popIndent.writeLine tag

/-! ## Line directives -/

/-- The text of a `#line` directive. -/
def lineDirective (line : Int64) (file : Text) : Text :=
  utf8 "#line " ++ Text.ofInt line.toInt
    ++ if file.isEmpty then [] else utf8 " \"" ++ file ++ utf8 "\""

/-- Maps the lines to come to a line of a file; an empty file is the writer's own. Nothing is
written when the directive in force says the same. -/
def linePragma (w : Writer) (line : Int64) (file : Text) : Writer :=
  let file := w.layout.lineFile (if file.isEmpty then w.lineFile else file)
  if w.lastLine = some (line, file) then w
  else { w with lastLine := some (line, file) }.ensureNewline.rawWriteLine (lineDirective line file)

/-- Ends the mapping of lines. -/
def lineDefault (w : Writer) : Writer :=
  { w with lastLine := none }.ensureNewline.rawWriteLine (utf8 "#line default")

/-- Hides the lines to come. -/
def lineHidden (w : Writer) : Writer :=
  { w with lastLine := none }.ensureNewline.rawWriteLine (utf8 "#line hidden")

end Writer
end TextTemplate
