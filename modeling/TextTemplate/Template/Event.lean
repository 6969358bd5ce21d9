/-
Events: what reading a template reports, one after the other. A run of text and each kind of code
tag is one event; a directive tag reports its opening, then its names and values, then its closing.
Reading stops at the first fault, which carries the place it was found at.
-/
import TextTemplate.Text.Quoted
import TextTemplate.Location

namespace TextTemplate

/-- The kinds of events. A directive tag is reported as `directive` when it opens and when it
closes. -/
inductive EventKind where
  | content
  | expression
  | block
  | directive
  | directiveName
  | directiveValue
  | helper
  | eof
  deriving DecidableEq, Repr

namespace EventKind

/-- The kinds in the order of their numbers. -/
def all : List EventKind :=
  [content, expression, block, directive, directiveName, directiveValue, helper, eof]

def name : EventKind → Text
  | content => utf8 "Content"
  | expression => utf8 "Expression"
  | block => utf8 "Block"
  | directive => utf8 "Directive"
  | directiveName => utf8 "DirectiveName"
  | directiveValue => utf8 "DirectiveValue"
  | helper => utf8 "Helper"
  | eof => utf8 "EOF"

/-- The name of a kind given by number; a number without a kind is shown as it is. -/
def nameOfNumber (n : Int) : Text :=
  match n with
  | .ofNat k => (all[k]?.map name).getD (unnamed n)
  | .negSucc _ => unnamed n
where
  unnamed (n : Int) : Text := utf8 "State(" ++ Text.ofInt n ++ utf8 ")"

end EventKind

/-- One report of the reader: the kind, the value read, where the value starts, and where its tag
starts and ends. -/
structure Event where
  kind : EventKind
  value : Text
  location : Location
  tagStart : Location
  tagEnd : Location
  deriving DecidableEq, Repr

/-- The faults that stop reading. -/
inductive ScanFault where
  /-- The end of the text inside a code tag of the given kind. -/
  | unclosedTag (kind : EventKind)
  /-- The end of the text inside a directive tag. -/
  | unclosedDirective
  /-- Something else than a quoted value after an equals sign. -/
  | expectedValue
  /-- A quoted value where no equals sign stands before it. -/
  | expectedEquals
  /-- Text inside a directive that is no name, sign or quoted value. -/
  | invalidInput (rest : Text)
  deriving DecidableEq, Repr

/-- At most the first sixteen characters of a text, with dots for what is left out. -/
def ScanFault.sample (rest : Text) : Text :=
  let codes := rest.codes
  Text.ofCodes (codes.take 16) ++ if codes.length > 16 then utf8 "..." else []

/-- The wording of a fault. -/
def ScanFault.message : ScanFault → Text
  | unclosedTag kind =>
    let word := match kind with
      | .expression => utf8 "expression"
      | .helper => utf8 "helper"
      | _ => utf8 "block"
    utf8 "Unexpected end of file: '" ++ word ++ utf8 "' tag is not closed"
  | unclosedDirective => utf8 "Unexpected end of file: directive is not closed"
  | expectedValue => utf8 "Expected a quoted attribute value after '='"
  | expectedEquals => utf8 "Expected '=' before attribute value"
  | invalidInput rest => utf8 "invalid input text " ++ (sample rest).quoted

/-- A fault and its place. -/
structure ScanError where
  location : Location
  fault : ScanFault
  deriving DecidableEq, Repr

def ScanError.message (e : ScanError) : Text :=
  e.location.render ++ utf8 ": " ++ e.fault.message

end TextTemplate
