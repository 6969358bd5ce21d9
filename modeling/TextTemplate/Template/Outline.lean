/-
Outlines: the segments of a parsed template as a document to read. Every segment tells its kind and
where it starts, and its file when it was included; directives come with their attributes in natural
order, pieces with their text in double quotes. What is wrong with the template stands at the end.
-/
import TextTemplate.Console.Style
import TextTemplate.Template.Parsed
import TextTemplate.Text.NaturalOrder
import TextTemplate.Yaml.Printer

namespace TextTemplate.Template

open Yaml (Item)

/-- An entry that is left out when its text is empty. -/
def entryUnlessEmpty (key : String) (s : Text) (item : Text → Item) : List (Text × Item) :=
  if s.isEmpty then [] else [(utf8 key, item s)]

/-- A line and a column with a colon between them. -/
def lineColumn (l : Location) : Text := Text.ofInt l.line.toInt ++ utf8 ":" ++ Text.ofInt l.column.toInt

/-- Attributes by name in natural order. -/
def outlineAttributes (attrs : Attributes) : List (Text × Item) :=
  let sorted := attrs.toList.mergeSort fun a b => !Text.naturalLt b.1 a.1
  if sorted.isEmpty then []
  else [(utf8 "attributes", .mapping (sorted.map fun (name, value) => (name, .text value)))]

/-- One segment of a template with this root file. -/
def outlineSegment (root : Text) (s : Segment) : Item :=
  let start := s.span.start
  let kind := match s with
    | .piece p => p.kind.name
    | .directive _ => utf8 "directive"
  let inside := match s with
    | .piece p => entryUnlessEmpty "text" p.text .quoted
    | .directive d => entryUnlessEmpty "name" d.name .text ++ outlineAttributes d.attributes
  .mapping <| [(utf8 "type", .text kind)]
    ++ entryUnlessEmpty "file" (if start.file = root then [] else start.file) .text
    ++ [(utf8 "start", .text (lineColumn start))] ++ inside

/-- The outline of a template, unless a piece has bytes that are not UTF-8. -/
def outline? (t : Template) : Option Text :=
  let readable := t.segments.all fun
    | .piece p => p.text.isUtf8
    | .directive _ => true
  let faults := t.diagnostics.map fun d => Item.text (Console.diagnostic d false)
  if readable then
    some <| Yaml.renderDocument <|
      [(utf8 "file", .text t.root), (utf8 "segments", .sequence (t.segments.map (outlineSegment t.root)))]
        ++ if faults.isEmpty then [] else [(utf8 "errors", .sequence faults)]
  else none

end TextTemplate.Template
