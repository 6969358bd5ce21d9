/-
The layout of a file. The definition of a path is put together from the layout files in its
directory and those above it, up to one that says it is the root: nearer files before farther ones,
and in a file later sections before earlier ones, a property that is set once staying as it is. The
definition then says how generated code is indented and how its lines end.
-/
import TextTemplate.Code.Writer
import TextTemplate.EditorConfig.File
import TextTemplate.EditorConfig.Selector
import TextTemplate.Files
import TextTemplate.Text.Case

namespace TextTemplate.EditorConfig

/-- The properties of a path that matter for its layout; an empty text or a width of zero means
that a property is not set. -/
structure Definition where
  indentStyle : Text
  indentSize : Text
  tabWidth : Int
  endOfLine : Text
  deriving DecidableEq, Repr

namespace Definition

def empty : Definition := ⟨[], [], 0, []⟩

/-- Adds what another definition says of properties that are not set. -/
def merge (d e : Definition) : Definition where
  indentStyle := if d.indentStyle.isEmpty then e.indentStyle else d.indentStyle
  indentSize := if d.indentSize.isEmpty then e.indentSize else d.indentSize
  tabWidth := if d.tabWidth ≤ 0 then e.tabWidth else d.tabWidth
  endOfLine := if d.endOfLine.isEmpty then e.endOfLine else d.endOfLine

/-- The text of one indent level, if the definition tells it. -/
def unit? (d : Definition) : Option Text :=
  let style := d.indentStyle.lower
  if style = utf8 "tab" then some (utf8 "\t")
  else if style = utf8 "space" then
    let size := match Text.readInt64? d.indentSize with
      | some n => n
      | none => d.tabWidth
    if size > 0 then some (List.replicate size.toNat 0x20) else none
  else none

/-- The line terminator, if the definition tells it. -/
def newline? (d : Definition) : Option Text :=
  let ending := d.endOfLine.lower
  if ending = utf8 "lf" then some (utf8 "\n")
  else if ending = utf8 "crlf" then some (utf8 "\r\n")
  else if ending = utf8 "cr" then some (utf8 "\r")
  else none

/-- A layout changed as the definition says. -/
def apply (d : Definition) (l : Layout) : Layout :=
  let l := match d.unit? with
    | some unit => l.withUnit unit
    | none => l
  match d.newline? with
  | some newline => l.withNewline newline
  | none => l

end Definition

/-! ## Definitions out of sections -/

def headingLimit : Nat := 4096

def keyLimit : Nat := 1024

def valueLimit : Nat := 4096

/-- The value that takes a property back. -/
def unset : Text := utf8 "unset"

/-- A value of a section by its key in lower case. -/
def property (keys : NameMap Text) (key : Text) : Option Text :=
  ((keys.filter fun (k, v) => k.length ≤ keyLimit && v.length ≤ valueLimit).find? fun (k, _) =>
    k.lower == key).map Prod.snd

/-- The headings a section takes values from that it does not have: what stands before its dots,
from the last on, where nothing before a dot means the section without a heading. -/
def parents : (fuel : Nat) → Text → List Text
  | 0, _ => []
  | fuel + 1, heading =>
    match Text.cut? 0x2E heading.reverse with
    | none => []
    | some (_, []) => [noHeading]
    | some (_, before) => before.reverse :: parents fuel before.reverse

/-- A value of a section by its exact key, or that of the nearest parent, with the heading it stands
under. -/
def inherited? (sections : Sections) (heading key : Text) : Option (Text × Text) :=
  (heading :: parents heading.length heading).findSome? fun h =>
    ((sections.find? h).bind (·.find? key)).map fun value => (h, value)

/-! ## References in values -/

/-- The name in the first `%(name)s` of a value. -/
def reference? : Text → Option Text
  | [] => none
  | b :: s =>
    let name := (s.drop 1).takeWhile (· != 0x29)
    if b = 0x25 && s.head? = some 0x28 && !name.isEmpty
        && ((s.drop 1).drop name.length).take 2 == utf8 ")s" then some name
    else reference? s

/-- How often references in a value are followed. -/
def referenceLimit : Nat := 99

/-- A value with its references replaced by what they name, in the section of the value or, when
that is the value itself or nothing, in the one without a heading. -/
def resolved (sections : Sections) (heading key : Text) : (rounds : Nat) → Text → Text
  | 0, value => value
  | rounds + 1, value =>
    match reference? value with
    | none => value
    | some name =>
      let here := (inherited? sections heading name).filter fun (h, _) => h != heading || name != key
      match here <|> inherited? sections noHeading name with
      | none => value
      | some (_, found) =>
        resolved sections heading key rounds
          (Text.replace (utf8 "%(" ++ name ++ utf8 ")s") found value)

/-- The value of a key with its references resolved; empty when there is none. -/
def resolvedValue (sections : Sections) (heading key : Text) : Text :=
  match inherited? sections heading key with
  | none => []
  | some (h, value) => resolved sections h key referenceLimit value

/-- A truth value that may also be unset. -/
def isSwitch (value : Text) : Bool :=
  value == unset
    || ["1", "t", "T", "TRUE", "true", "True", "0", "f", "F", "FALSE", "false", "False"].any
      fun word => utf8 word == value

/-- The definition of a section; none when one of its values cannot be read. -/
def definition? (sections : Sections) (heading : Text) (keys : NameMap Text) : Option Definition := do
  let value (key : String) := property keys (utf8 key)
  let width ← match value "tab_width" with
    | none => some 0
    | some w => if w = unset then some 0 else Text.readInt64? w
  let size := resolvedValue sections heading (utf8 "indent_size")
  let switches := ["trim_trailing_whitespace", "insert_final_newline"].filterMap value
  if !switches.all isSwitch then none
  else return {
    indentStyle := ((value "indent_style").getD []).lower
    indentSize := size
    tabWidth := if width ≤ 0 then (Text.readInt64? size).getD width else width
    endOfLine := ((value "end_of_line").getD []).lower }

/-- The key by which a file says that it is the root. -/
def rootKey : Text := utf8 "root"

/-- The sections with the value of `root` in lower case, empty when it is missing. -/
def withRoot (sections : Sections) : Sections :=
  let value := ((sections.find? noHeading).bind (·.find? rootKey)).getD []
  setValue sections noHeading rootKey value.lower

/-- Whether a file says that it is the root. -/
def isRoot (sections : Sections) : Bool :=
  let value := resolvedValue sections noHeading rootKey
  ["1", "t", "T", "TRUE", "true", "True", "YES", "yes", "Yes", "y", "ON", "on", "On"].any
    fun word => utf8 word == value

/-- The definition of a path in a file; none when a section or its heading cannot be read. -/
def ofSections? (sections : Sections) (path : Text) : Option Definition := do
  let used := sections.filter fun (h, _) => h != noHeading && h.length ≤ headingLimit
  let defs ← used.mapM fun (h, keys) => definition? sections h keys
  let chosen ← (used.zip defs).mapM fun ((h, _), d) =>
    (selects? h path).map fun yes => if yes then d else .empty
  return chosen.reverse.foldl Definition.merge .empty

/-! ## Definitions out of files -/

def fileName : Text := utf8 ".editorconfig"

/-- The definition of an absolute path from the layout files in directories, nearest first; none
when a file cannot be read. -/
def ofDirectories? (files : Files) (path : Text) : List Text → Definition → Option Definition
  | [], d => some d
  | dir :: dirs, d =>
    match files.read (Path.join [dir, fileName]) with
    | .error e => if e.fault = .noSuchFile then ofDirectories? files path dirs d else none
    | .ok content => do
      let sections ← (sections? content).map withRoot
      let rel := if dir.length < path.length then path.drop dir.length else path
      let here ← ofSections? sections (if Path.isAbs rel then rel else utf8 "/" ++ rel)
      if isRoot sections then return d.merge here
      else ofDirectories? files path dirs (d.merge here)

/-- The definition of a file on disk. -/
def ofFile? (files : Files) (workDir file : Text) : Option Definition :=
  let path := Path.abs workDir file
  ofDirectories? files path ((Files.way path).dropLast.reverse ++ [utf8 "/"]) .empty

/-- The layout of a file on disk; none when a layout file cannot be read. -/
def layout? (files : Files) (workDir file : Text) (l : Layout) : Option Layout :=
  (ofFile? files workDir file).map (·.apply l)

end TextTemplate.EditorConfig
