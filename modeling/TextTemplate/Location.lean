/-
Points in template files. A location names a file, a line and a column, both counted from one in
64-bit arithmetic, and is moved by the text that is read. There are two ways to count: `advance`
takes CR LF, CR and LF as line breaks, which is what an editor shows, and `advanceLines` breaks
lines at LF only.
-/
import TextTemplate.Text.Rune

namespace TextTemplate

/-- A point in a template file; the file is empty when it is not known. -/
structure Location where
  file : Text
  line : Int64
  column : Int64
  deriving DecidableEq, Repr

namespace Location

/-- The location used when nothing better is known. -/
def empty : Location := ⟨[], -1, -1⟩

/-- The first location of a file. -/
def start (file : Text) : Location := ⟨file, 1, 1⟩

def isEmpty (l : Location) : Bool := l == empty

def hasFile (l : Location) : Bool := !l.file.isEmpty

/-- The first column of the next line. -/
def addLine (l : Location) : Location := { l with line := l.line + 1, column := 1 }

def addCols (l : Location) (n : Int64) : Location := { l with column := l.column + n }

def addCol (l : Location) : Location := l.addCols 1

def withFile (l : Location) (file : Text) : Location := { l with file := file }

/-- The location after a list of code points: CR LF, CR and LF each start a line. -/
def advanceCodes : Location → List Nat → Location
  | l, [] => l
  | l, 13 :: 10 :: cs => advanceCodes l.addLine cs
  | l, c :: cs => advanceCodes (if c = 13 ∨ c = 10 then l.addLine else l.addCol) cs

/-- The location reached after reading a text. -/
def advance (l : Location) (s : Text) : Location := advanceCodes l s.codes

/-- The location reached after reading a text when only LF starts a line. -/
def advanceLines (l : Location) (s : Text) : Location :=
  s.codes.foldl (fun l c => if c = 10 then l.addLine else l.addCol) l

/-- A location as messages show it: `[file (line,column)]`. -/
def render (l : Location) : Text :=
  utf8 "[" ++ l.file ++ utf8 " (" ++ Text.ofInt l.line.toInt ++ utf8 ","
    ++ Text.ofInt l.column.toInt ++ utf8 ")]"

end Location
end TextTemplate
