/-
The generated class. Its method writes the template: one statement for each piece of content or
code, in order, between the clearing of the output and its return; helper pieces become members
behind it. `#line` directives map the statements to the template's files. Members that processors
write stand in front, and the using directives come first of all, when the processors have named
their imports.
-/
import TextTemplate.Settings.Resolve
import TextTemplate.Code.Literal

namespace TextTemplate

/-- Why no class is generated. -/
inductive GenerateError where
  /-- Errors were found; all diagnostics of the run. -/
  | templateHasErrors (diagnostics : Diagnostics)
  | unknownSegment
  /-- A processor failed in a phase of the run. -/
  | processorFailed (phase processor : Text) (error : ProcessorError)
  | processorNotActive (processor : Text)
  deriving DecidableEq, Repr

def GenerateError.message : GenerateError → Text
  | templateHasErrors diagnostics =>
    utf8 "template has errors"
      ++ (diagnostics.errors.flatMap fun d => utf8 "\n" ++ d.render)
  | unknownSegment => utf8 "unknown segment type"
  | processorFailed phase processor error =>
    utf8 "directive processor failed: " ++ phase ++ utf8 " '" ++ processor ++ utf8 "': "
      ++ error.message
  | processorNotActive processor =>
    utf8 "directive processor failed: '" ++ processor ++ utf8 "' is not active"

namespace Output

variable {σ : Type}

/-! ## Members of processors -/

/-- A generation under way: the members so far, the diagnostics, the names processors contributed,
and the world. -/
structure State (σ : Type) where
  members : Writer
  diagnostics : Diagnostics
  imports : NameSet
  references : NameSet
  world : σ

/-- Starts the processors in order, each with its own text. -/
def startAll (source : Text) :
    NameMap (Processor σ) → State σ → State σ × Option GenerateError
  | [], st => (st, none)
  | (name, p) :: ps, st =>
    let (c, world) := p.start st.members.nested source st.world
    let st := { st with diagnostics := st.diagnostics ++ c.diagnostics, world := world }
    match c.error with
    | some e => (st, some (.processorFailed (utf8 "starting") name e))
    | none => startAll source ps { st with members := st.members.rawWrite c.writer.out }

/-- Hands the queued directives to their processors. A directive that fails leaves an error and no
text. -/
def processAll (root : Text) (parameters : Option ParameterValues)
    (processors : NameMap (Processor σ)) :
    List CustomDirective → State σ → State σ × Option GenerateError
  | [], st => (st, none)
  | d :: ds, st =>
    match processors.find? d.processor with
    | none => (st, some (.processorNotActive d.processor))
    | some p =>
      let (c, world) :=
        p.process parameters st.members.nested d.directive.name d.directive.attributes st.world
      let st := { st with diagnostics := st.diagnostics ++ c.diagnostics, world := world }
      match c.error with
      | some e =>
        processAll root parameters processors ds
          { st with
            diagnostics := st.diagnostics
              ++ [.atLocation d.directive.span.start root e.message false] }
      | none =>
        processAll root parameters processors ds
          { st with members := st.members.rawWrite c.writer.out }

/-- Finishes the processors in order and takes the names they contribute. -/
def finishAll : NameMap (Processor σ) → State σ → State σ × Option GenerateError
  | [], st => (st, none)
  | (name, p) :: ps, st =>
    let st := { st with diagnostics := st.diagnostics ++ p.notes .finish st.world }
    match p.finish st.world with
    | (some e, world) => ({ st with world := world }, some (.processorFailed (utf8 "finishing") name e))
    | (none, world) =>
      let (imports, world') := p.imports world
      let (references, world'') := p.references world'
      finishAll ps
        { st with
          diagnostics := st.diagnostics ++ p.notes .imports world ++ p.notes .references world'
          imports := st.imports.add imports
          references := st.references.add references
          world := world'' }

/-- The members of all processors. -/
def processorMembers (template : Template) (settings : Settings σ)
    (parameters : Option ParameterValues) (st : State σ) : State σ × Option GenerateError :=
  match startAll template.source settings.processors st with
  | (st, some e) => (st, some e)
  | (st, none) =>
    match processAll template.root parameters settings.processors settings.custom st with
    | (st, some e) => (st, some e)
    | (st, none) =>
      match finishAll settings.processors st with
      | (st, some e) => (st, some e)
      | (st, none) =>
        if settings.custom.isEmpty then (st, none)
        else ({ st with members := st.members.ensureNewline.blankLine 1 }, none)

/-! ## The method -/

/-- The file a piece belongs to. -/
def pieceFile (root : Text) (p : Piece) : Text :=
  if p.span.start.file.isEmpty then root else p.span.start.file

/-- The statement that writes a text. A literal of several lines stands one level further in, on
lines of its own. -/
def writeContent (w : Writer) (text : Text) : Writer :=
  let literal := w.quote text
  if !literal.multiline then w.writeLine (utf8 "_output.Append(" ++ literal.text ++ utf8 ");")
  else
    let w := (w.writeLine (utf8 "_output.Append(")).addIndent
    let w := (w.writeLiteral (w.quote text).text).rawWriteLine []
    w.popIndent.writeLine (utf8 ");")

/-- The statement of a piece; nothing for a piece of unknown kind. -/
def writePiece? (w : Writer) (p : Piece) : Option Writer :=
  match p.kind with
  | .block => some (w.writeBlock p.text)
  | .expression =>
    some (w.writeLine (utf8 "_output.Append(FormatObject(" ++ p.text.trim ++ utf8 "));"))
  | .content => some (writeContent w p.text)
  | _ => none

/-- Maps the lines to come to a piece, when lines are mapped. -/
def mapPiece (mode : LineMode) (root : Text) (w : Writer) (p : Piece) : Writer :=
  if mode = .off then w else w.linePragma p.span.start.line (pieceFile root p)

/-- The statements of the pieces that are no helpers. -/
def writePieces (mode : LineMode) (root : Text) : List Piece → Writer → Option Writer
  | [], w => some w
  | p :: ps, w =>
    if p.kind = .helper then writePieces mode root ps w
    else match writePiece? (mapPiece mode root w p) p with
      | some w => writePieces mode root ps w
      | none => none

/-- The method that writes the template. -/
def transformMethod (mode : LineMode) (root : Text) (pieces : List Piece) (w : Writer) :
    Option Writer :=
  let (w, scope) := w.method (utf8 "TransformText") (utf8 "string") .isPublic 0 []
  match writePieces mode root pieces (w.writeLine (utf8 "_output.Clear();")) with
  | none => none
  | some w =>
    let mapped := mode ≠ .off ∧ pieces.any (·.kind ≠ .helper)
    let w := if mapped then w.lineDefault else w
    some (scope.close (w.writeLine (utf8 "return _output.ToString();"))).1

/-- A helper piece as a member. -/
def writeHelper (mode : LineMode) (root : Text) (w : Writer) (p : Piece) : Writer :=
  let w := (mapPiece mode root w p).writeBlock p.text
  (if mode = .off then w else w.lineDefault).blankLine 1

/-- The helper pieces that have a text. -/
def helpers (pieces : List Piece) : List Piece :=
  pieces.filter fun p => p.kind = .helper && !p.text.isEmpty

/-! ## The formatter -/

/-- A condition with a body of its own. -/
def ifBody (w : Writer) (condition : Text) (body : Writer → Writer) : Writer :=
  let (w, scope) := (w.ifLine condition).block
  (scope.close (body w)).1

/-- The other branch of a condition. -/
def elseBody (w : Writer) (body : Writer → Writer) : Writer :=
  let (w, scope) := w.elseLine.block
  (scope.close (body w)).1

/-- The member that turns the value of an expression into text. -/
def formatter (w : Writer) : Writer :=
  let w := w.writeLine (utf8 "private readonly Dictionary<Type, Func<object, string>> "
    ++ utf8 "_formatterCache = new Dictionary<Type, Func<object, string>>();")
  let (w, scope) := (w.blankLine 1).method (utf8 "FormatObject") (utf8 "string") .isPrivate 0
    [⟨utf8 "object", utf8 "value"⟩]
  let w := ifBody w (utf8 "value == null")
    (·.writeLine (utf8 "throw new ArgumentNullException(nameof(value));"))
  let w := ifBody w (utf8 "value is IConvertible convertible")
    (·.writeLine (utf8 "return convertible.ToString(FormatProvider);"))
  let w := w.writeLine (utf8 "var type = value.GetType();")
  let w := ifBody w (utf8 "!_formatterCache.TryGetValue(type, out var formatter)") fun w =>
    let w := w.writeLine (utf8 "var toString = type.GetMethod(\"ToString\", new[] \x7b "
      ++ utf8 "typeof(IFormatProvider) \x7d);")
    let w := ifBody w (utf8 "toString != null")
      (·.writeLine (utf8 "formatter = v => (string)toString.Invoke(v, new object[] \x7b "
        ++ utf8 "FormatProvider \x7d);"))
    let w := elseBody w (·.writeLine (utf8 "formatter = v => v.ToString();"))
    w.writeLine (utf8 "_formatterCache.Add(type, formatter);")
  (scope.close (w.writeLine (utf8 "return formatter(value);"))).1

/-! ## The whole -/

/-- The layout of a run: with relative `#line` directives, their base directory. -/
def runLayout (layout : Layout) (root : Text) (settings : Settings σ) : Layout :=
  if settings.lineMode = .relative then
    layout.withRelativeTo
      (if !settings.baseDir.isEmpty then settings.baseDir
        else if settings.fallback = .root ∧ root ≠ [] then Path.dir root
        else [])
  else layout

/-- A writer for the members of the class, indented to their depth. -/
def membersWriter (layout : Layout) (fileScoped : Bool) : Writer :=
  (Writer.ofLayout layout).reset
    (if fileScoped then layout.unit else layout.unit ++ layout.unit)

/-- The members every class starts with. -/
def firstMembers (w : Writer) : Writer :=
  let w := w.writeLine
    (utf8 "private readonly StringBuilder _output = new StringBuilder(1024);")
  let w := (w.blankLine 1).autoProperty (utf8 "IFormatProvider") (utf8 "FormatProvider")
    (utf8 "System.Globalization.CultureInfo.InvariantCulture") .isPublic .isPublic 0
  w.blankLine 1

/-- The imports every class needs. -/
def requiredImports : List Text := [utf8 "System.Collections.Generic", utf8 "System.Text"]

/-- The attributes processors give the class. -/
def classAttributes : NameMap (Processor σ) → σ → List Text × σ
  | [], s => ([], s)
  | (_, p) :: ps, s =>
    let (here, s) := p.classAttributes s
    let (rest, s) := classAttributes ps s
    (here ++ rest, s)

/-- The diagnostics processors add when they are asked for attributes. -/
def attributeNotes : NameMap (Processor σ) → σ → Diagnostics
  | [], _ => []
  | (_, p) :: ps, s => p.notes .classAttributes s ++ attributeNotes ps (p.classAttributes s).2

/-- The compilation unit around the members. -/
def compose (layout : Layout) (settings : Settings σ) (imports attributes : List Text)
    (members : Text) : Text :=
  let w := (imports.foldl Writer.usingLine (Writer.ofLayout layout)).blankLine 1
  let (w, outer) :=
    if settings.fileScoped then (w.fileScopedNamespace settings.namespaceName, none)
    else
      let (w, scope) := w.namespaceBlock settings.namespaceName
      (w, some scope)
  let w := attributes.foldl Writer.attributeLine w
  let (w, scope) := w.classType settings.name settings.inherits
    (if settings.isInternal then .isInternal else .isPublic) Modifiers.isPartial
  let body := Text.dropEndWhile (fun b => b == 0x0D || b == 0x0A) members
  let w := (scope.close ((w.rawWrite body).rawWriteLine [])).1
  (match outer with
    | some scope => (scope.close w).1
    | none => w).out

end Output

/-- A finished generation: the text or the failure, and what is known afterwards. -/
structure Generated (σ : Type) where
  result : Except GenerateError Text
  diagnostics : Diagnostics
  imports : NameSet
  references : NameSet
  world : σ

open Output in
/-- Generates the class of a template. `diagnostics` are those found before. -/
def generate {σ : Type} (layout : Layout) (template : Template) (settings : Settings σ)
    (parameters : Option ParameterValues) (diagnostics : Diagnostics) (world : σ) : Generated σ :=
  let layout := runLayout layout template.root settings
  let mode := settings.lineMode
  let members := firstMembers (membersWriter layout settings.fileScoped)
  let st : State σ := ⟨members, diagnostics, settings.imports, settings.references, world⟩
  match processorMembers template settings parameters st with
  | (st, some e) => ⟨.error e, st.diagnostics, st.imports, st.references, st.world⟩
  | (st, none) =>
    match transformMethod mode template.root template.pieces st.members with
    | none => ⟨.error .unknownSegment, st.diagnostics, st.imports, st.references, st.world⟩
    | some w =>
      let w := (helpers template.pieces).foldl (writeHelper mode template.root) w
      let imports := st.imports.add requiredImports
      let (attributes, world) := classAttributes settings.processors st.world
      let diagnostics := st.diagnostics ++ attributeNotes settings.processors st.world
      let text := compose layout settings imports.values attributes (formatter w).out
      let result := if diagnostics.hasErrors then .error (.templateHasErrors diagnostics)
        else .ok text
      ⟨result, diagnostics, imports, st.references, world⟩

end TextTemplate
