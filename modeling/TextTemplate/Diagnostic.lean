/-
Diagnostics: the located errors and warnings of one run, kept in the order they were found. A run
fails when its list holds an error; warnings alone do not make it fail.
-/
import TextTemplate.Location

namespace TextTemplate

/-- A located error or warning. -/
structure Diagnostic where
  file : Text
  line : Int64
  column : Int64
  code : Text
  text : Text
  isWarning : Bool
  deriving DecidableEq, Repr

namespace Diagnostic

/-- An error or warning at a location. Without a file in the location it belongs to the fallback
file as a whole, at line and column zero. -/
def atLocation (location : Location) (fallback text : Text) (isWarning : Bool) : Diagnostic :=
  if location.hasFile then ⟨location.file, location.line, location.column, [], text, isWarning⟩
  else ⟨fallback, 0, 0, [], text, isWarning⟩

@[simp] theorem text_atLocation (l : Location) (fallback text : Text) (isWarning : Bool) :
    (atLocation l fallback text isWarning).text = text := by
  unfold atLocation
  split <;> rfl

@[simp] theorem isWarning_atLocation (l : Location) (fallback text : Text) (isWarning : Bool) :
    (atLocation l fallback text isWarning).isWarning = isWarning := by
  unfold atLocation
  split <;> rfl

def severity (d : Diagnostic) : Text := if d.isWarning then utf8 "warning" else utf8 "error"

def location (d : Diagnostic) : Location := ⟨d.file, d.line, d.column⟩

/-- A diagnostic on one line: `file(line,col) : severity code: text`. The place is left out without
a file, the code when it is empty. -/
def render (d : Diagnostic) : Text :=
  let kind := if d.code.isEmpty then d.severity else d.severity ++ utf8 " " ++ d.code
  let place :=
    if d.file.isEmpty then []
    else d.file ++ utf8 "(" ++ Text.ofInt d.line.toInt ++ utf8 "," ++ Text.ofInt d.column.toInt
      ++ utf8 ") : "
  place ++ kind ++ utf8 ": " ++ d.text

end Diagnostic

/-- The diagnostics of a run, first found first. -/
abbrev Diagnostics := List Diagnostic

namespace Diagnostics

/-- The diagnostics that make a run fail. -/
def errors (ds : Diagnostics) : Diagnostics := ds.filter (!·.isWarning)

def warnings (ds : Diagnostics) : Diagnostics := ds.filter (·.isWarning)

def hasErrors (ds : Diagnostics) : Bool := ds.any (!·.isWarning)

def hasWarnings (ds : Diagnostics) : Bool := ds.any (·.isWarning)

/-- All errors in one message, or nothing when there is none. -/
def summary? (ds : Diagnostics) : Option Text :=
  if ds.hasErrors then some (Text.join (utf8 "; ") (ds.errors.map Diagnostic.render)) else none

end Diagnostics
end TextTemplate
