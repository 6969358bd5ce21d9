/-
Segments: the parts of a parsed template in their order. A piece is a stretch of text or code, a
directive a name with attributes; both know where they stand in their file.
-/
import TextTemplate.Location
import TextTemplate.Template.Attributes

namespace TextTemplate

/-- Where a segment stands: its first location, the one behind it, and that of its tag. -/
structure Span where
  start : Location
  stop : Location
  tag : Location
  deriving DecidableEq, Repr

/-- A span that is a single point. -/
def Span.point (l : Location) : Span := ⟨l, l, l⟩

/-- The kinds of pieces. A piece made by hand may carry a number without a kind. -/
inductive PieceKind where
  | content
  | expression
  | block
  | helper
  | unknown (number : Int)
  deriving DecidableEq, Repr

namespace PieceKind

def ofNumber : Int → PieceKind
  | 0 => content
  | 1 => expression
  | 2 => block
  | 3 => helper
  | n => unknown n

def name : PieceKind → Text
  | content => utf8 "content"
  | expression => utf8 "expression"
  | block => utf8 "block"
  | helper => utf8 "helper"
  | unknown _ => utf8 "unknown"

end PieceKind

/-- A stretch of text or code. -/
structure Piece where
  kind : PieceKind
  text : Text
  span : Span
  deriving DecidableEq, Repr

/-- A directive tag. -/
structure Directive where
  name : Text
  attributes : Attributes
  span : Span
  deriving DecidableEq, Repr

namespace Directive

/-- A directive without attributes. -/
def named (name : Text) (start : Location) : Directive := ⟨name, .empty, .point start⟩

/-- Whether the directive has this name, in any letter case. -/
def is (d : Directive) (name : Text) : Bool := d.name.eqFold name

/-- Why an attribute could not be read as a truth value. -/
def badBool (d : Directive) (key : Text) : Text :=
  utf8 "attribute '" ++ key ++ utf8 "' of directive '" ++ d.name ++ utf8 "': " ++ invalidBool

/-- Takes an attribute out and reads it as a truth value. Without it the answer is `default`;
with a value that cannot be read it is `default` and a message. -/
def extractBool (d : Directive) (key : Text) (default : Bool) :
    (Bool × Option Text) × Directive :=
  match d.attributes.extract? key with
  | (none, _) => ((default, none), d)
  | (some value, rest) =>
    match readBool? value with
    | some b => ((b, none), { d with attributes := rest })
    | none => ((default, some (d.badBool key)), { d with attributes := rest })

end Directive

/-- A part of a parsed template. -/
inductive Segment where
  | piece (p : Piece)
  | directive (d : Directive)
  deriving DecidableEq, Repr

namespace Segment

def span : Segment → Span
  | piece p => p.span
  | directive d => d.span

def piece? : Segment → Option Piece
  | piece p => some p
  | directive _ => none

def directive? : Segment → Option Directive
  | piece _ => none
  | directive d => some d

end Segment
end TextTemplate
