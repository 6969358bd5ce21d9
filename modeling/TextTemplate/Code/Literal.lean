/-
String literals of the generated language. A text becomes one regular literal, a chain of regular
literals in parentheses when it is wide, or, at a middling length, a verbatim literal. Lengths are
counted in UTF-16 units, the generated language's own; a chain is broken behind the cluster that
reaches a multiple of the line length, so no cluster is torn apart. Any way to cut a text into
clusters will do; the writer's own is that of Unicode.
-/
import TextTemplate.Text.Cluster
import TextTemplate.Text.Quoted
import TextTemplate.Code.Writer

namespace TextTemplate

/-- The UTF-16 units of a character. -/
def Rune.units (r : Rune) : Nat := if r.code ≥ 0x10000 then 2 else 1

/-- The UTF-16 units of a text; a byte that is not UTF-8 counts as one. -/
def Text.units (s : Text) : Nat := s.runes.foldr (fun r n => r.units + n) 0

/-- A literal, and whether it spans several lines. -/
structure Literal where
  text : Text
  multiline : Bool
  deriving DecidableEq, Repr

namespace Literal

/-- Units after which a literal is continued on a new line. -/
def lineLength : Nat := 120

/-- The fewest units of a verbatim literal. -/
def verbatimMin : Nat := 256

/-- The most units of a verbatim literal. -/
def verbatimMax : Nat := 1500

/-- A character inside a regular literal. -/
def escape (r : Rune) : Text :=
  match r.code with
  | 0x0D => utf8 "\\r"
  | 0x09 => utf8 "\\t"
  | 0x22 => utf8 "\\\""
  | 0x27 => utf8 "\\'"
  | 0x5C => utf8 "\\\\"
  | 0x00 => utf8 "\\0"
  | 0x0A => utf8 "\\n"
  | 0x2028 => utf8 "\\u2028"
  | 0x2029 => utf8 "\\u2029"
  | 0x85 => utf8 "\\u0085"
  | _ => r.bytes

/-- Whether a positive multiple of the line length lies among the units `first` to `last`. -/
def crossesBreak (first last : Nat) : Bool :=
  lineLength ≤ last && (max first 1 + lineLength - 1) / lineLength * lineLength ≤ last

/-- The inside of a regular literal over clusters, of which the first starts at the given unit, for a
text of `total` units: `separator` stands behind each cluster that reaches a break, except where it
ends the text. -/
def body (separator : Text) (total : Nat) : Nat → List Text → Text × Bool
  | _, [] => ([], false)
  | unit, cluster :: clusters =>
    let next := unit + cluster.units
    let (rest, broken) := body separator total next clusters
    let here := cluster.runes.flatMap escape
    if crossesBreak unit (next - 1) && next != total then (here ++ separator ++ rest, true)
    else (here ++ rest, broken)

/-- The regular literal of a text of `total` units that is cut into clusters; continued lines start
with `indent`. Clusters that tear a character apart have more units together than the text. -/
def ofClusters (newline indent : Text) (total : Nat) (clusters : List Text) : Literal :=
  let separator := utf8 "\" +" ++ newline ++ indent ++ utf8 "\""
  let (inside, broken) := body separator total 0 clusters
  let text := utf8 "\"" ++ inside ++ utf8 "\""
  if broken then ⟨utf8 "(" ++ text ++ utf8 ")", true⟩ else ⟨text, false⟩

/-- The verbatim literal of a text: quotes are doubled and all else stands for itself. -/
def verbatim (s : Text) : Literal :=
  ⟨utf8 "@\"" ++ Text.replace [0x22] [0x22, 0x22] s ++ utf8 "\"", s.contains 0x0D || s.contains 0x0A⟩

end Literal

namespace Writer

section Segmenter

variable (segment : Text → List Text)

/-- The regular literal of a text cut by `segment`, at the writer's indent. -/
def quoteEscapedBy (w : Writer) (s : Text) : Literal :=
  .ofClusters w.layout.newline w.indent s.units (segment s)

/-- The literal of a text: verbatim at a middling length without a NUL, regular otherwise. -/
def quoteBy (w : Writer) (s : Text) : Literal :=
  let n := s.units
  if n < Literal.verbatimMin || n > Literal.verbatimMax || s.contains 0 then
    w.quoteEscapedBy segment s
  else .verbatim s

end Segmenter

/-- The regular literal of a text cut into the clusters of Unicode. -/
def quoteEscaped (w : Writer) (s : Text) : Literal := w.quoteEscapedBy Text.clusters s

/-- The literal of a text cut into the clusters of Unicode. -/
def quote (w : Writer) (s : Text) : Literal := w.quoteBy Text.clusters s

end Writer
end TextTemplate
