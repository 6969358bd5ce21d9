/-
From directives to settings. The directives of a template are taken in order: template, class,
namespace, import and output directives set what they name and are warned about for attributes they
do not have; parameter directives and those of unknown name are queued for their processors, which
are created on first use. A directive that cannot be wired to a processor fails the resolution.
-/
import TextTemplate.Settings.Basic

namespace TextTemplate

/-! ## Options -/

/-- A value the host gives for an option. -/
inductive HostValue where
  | flag (b : Bool)
  | text (s : Text)
  | other
  deriving DecidableEq, Repr

/-- The host option for the default of relative `#line` directives. -/
def useRelativeLinePragmas : Text := utf8 "UseRelativeLinePragmas"

/-- A host option read as a truth value, false when it is none. -/
def hostFlag (host : Text → Option HostValue) (name : Text) : Bool :=
  match host name with
  | some (.flag b) => b
  | some (.text s) => (readBool? s).getD false
  | _ => false

/-- What a resolution starts from besides the template. -/
structure ResolveOptions where
  host : Text → Option HostValue
  parameters : Option ParameterValues
  imports : List Text
  baseDir : Text
  fallback : LineBase
  defaultExtension : Text
  /-- The encoding when no output directive sets one; blank means UTF-8. -/
  defaultEncoding : Text

/-- Options that ask for nothing. -/
def ResolveOptions.bare : ResolveOptions where
  host _ := none
  parameters := none
  imports := []
  baseDir := []
  fallback := .root
  defaultExtension := []
  defaultEncoding := []

/-! ## Failures -/

/-- Why a resolution fails. -/
inductive ResolveError where
  /-- An encoding that is not known, or known and not supported. -/
  | unknownEncoding (name : Text) (isRegistered : Bool)
  | includeDirective
  | noProcessor (directive : Text)
  | registry (directive : Text) (error : RegistryError)
  | unsupportedDirective (processor directive : Text)
  deriving DecidableEq, Repr

def ResolveError.message : ResolveError → Text
  | unknownEncoding name isRegistered =>
    utf8 "unknown encoding '" ++ name ++ utf8 "': "
      ++ if isRegistered then utf8 "not supported" else utf8 "ianaindex: invalid encoding name"
  | includeDirective => utf8 "include directive reached settings resolution"
  | noProcessor directive =>
    utf8 "custom directive does not specify a processor: Custom directive '" ++ directive
      ++ utf8 "' does not specify a processor"
  | registry directive error =>
    utf8 "directive '" ++ directive ++ utf8 "': " ++ error.message
  | unsupportedDirective processor directive =>
    utf8 "directive processor does not support directive: Directive processor '" ++ processor
      ++ utf8 "' does not support directive '" ++ directive ++ utf8 "'"

/-- The encoding of a name; a blank name means UTF-8. -/
def findEncoding (name : Text) : Except ResolveError Encoding :=
  if name.isBlank then .ok .utf8
  else match Encoding.lookup name with
    | .found e => .ok e
    | .registered => .error (.unknownEncoding name true)
    | .unknown => .error (.unknownEncoding name false)

/-! ## Directives by name -/

/-- The directives by what they do. -/
inductive DirectiveKind where
  | template
  | className
  | namespaceName
  | importName
  | output
  | includeFile
  | parameter
  | custom
  deriving DecidableEq, Repr

/-- The kind of a directive's name, whatever its letter case. -/
def DirectiveKind.ofName (name : Text) : DirectiveKind :=
  let word := name.lower
  if word = utf8 "template" then template
  else if word = utf8 "class" then className
  else if word = utf8 "namespace" then namespaceName
  else if word = utf8 "import" then importName
  else if word = utf8 "output" then output
  else if word = utf8 "include" then includeFile
  else if word = ParameterProcessor.directive then parameter
  else custom

/-! ## The resolution -/

/-- A resolution under way: the settings so far, the diagnostics, the registry and the world. -/
structure Resolving (σ : Type) where
  settings : Settings σ
  diagnostics : Diagnostics
  registry : Registry σ
  world : σ

namespace Resolving

variable {σ : Type}

/-- Adds a diagnostic at the start of a directive. -/
def note (r : Resolving σ) (root : Text) (d : Directive) (text : Text) (isWarning : Bool) :
    Resolving σ :=
  { r with
    diagnostics := r.diagnostics ++ [.atLocation d.span.start root text isWarning] }

/-- Takes an attribute out of a directive and hands its value on, if it is there. -/
def takeText (key : Text) (use : Text → Resolving σ → Resolving σ)
    (x : Resolving σ × Directive) : Resolving σ × Directive :=
  match x.2.attributes.extract? key with
  | (some value, rest) => (use value x.1, { x.2 with attributes := rest })
  | (none, _) => x

/-- Takes a truth value out of a directive. One that cannot be read is warned about and counts as
the default. -/
def takeBool (root key : Text) (default : Resolving σ → Bool)
    (use : Bool → Resolving σ → Resolving σ) (x : Resolving σ × Directive) :
    Resolving σ × Directive :=
  let (r, d) := x
  let ((b, fault), d') := d.extractBool key (default r)
  let r := if fault.isSome then
      r.note root d (utf8 "Invalid boolean value for attribute '" ++ key ++ utf8 "' in "
        ++ d.name ++ utf8 " directive") true
    else r
  (use b r, d')

/-- Warns about the attributes a directive still has. -/
def complain (root : Text) (x : Resolving σ × Directive) : Resolving σ :=
  let (r, d) := x
  if d.attributes.names.isEmpty then r
  else r.note root d (utf8 "Unknown attributes " ++ Text.join (utf8 ", ") d.attributes.names
    ++ utf8 " found in " ++ d.name ++ utf8 " directive.") true

/-- A template directive. -/
def template (root : Text) (r : Resolving σ) (d : Directive) : Resolving σ × Directive :=
  let setLanguage (language : Text) (r : Resolving σ) : Resolving σ :=
    let r := { r with settings := { r.settings with language := language } }
    if isSupportedLanguage language then r
    else r.note root d (utf8 "Language '" ++ language
      ++ utf8 "' is not supported; only C# templates can be preprocessed") false
  (r, d)
    |> takeText (utf8 "language") setLanguage
    |> takeText (utf8 "langversion")
      (fun v r => { r with settings := { r.settings with langVersion := v } })
    |> takeBool root (utf8 "debug") (fun _ => false)
      (fun b r => { r with settings := { r.settings with debug := b } })
    |> takeText (utf8 "inherits")
      (fun v r => { r with settings := { r.settings with inherits := v } })
    |> takeBool root (utf8 "relativeLinePragmas") (fun r => r.settings.relative)
      (fun b r => { r with settings := { r.settings with relative := b } })
    |> takeBool root (utf8 "linePragmas") (fun _ => true)
      (fun b r => { r with settings := { r.settings with linePragmas := b } })
    |> takeText (utf8 "visibility")
      (fun v r => { r with settings := { r.settings with isInternal := v.eqFold (utf8 "internal") } })

/-- A directive that must name something: its value is set, or an error is added. -/
def named (root : Text) (r : Resolving σ) (d : Directive) (key missing : Text)
    (use : Text → Resolving σ → Resolving σ) : Resolving σ × Directive :=
  let (value, rest) := d.attributes.extract? key
  let d := { d with attributes := rest }
  match value.getD [] with
  | [] => (r.note root d missing false, d)
  | name => (use name r, d)

/-- An output directive. -/
def output (root : Text) (r : Resolving σ) (d : Directive) : Resolving σ × Directive :=
  let setEncoding (name : Text) (r : Resolving σ) : Resolving σ :=
    match findEncoding name with
    | .ok e => { r with settings := { r.settings with encoding := e, encodingName := name } }
    | .error _ => r.note root d (utf8 "Unknown output encoding '" ++ name ++ utf8 "'") false
  (r, d)
    |> takeText (utf8 "extension")
      (fun v r => { r with settings := { r.settings with extension := v } })
    |> takeText (utf8 "encoding") setEncoding

/-- Brings a processor into use, if it is not yet. -/
def activate (options : ResolveOptions) (loading : Loading σ) (processor : Text) (d : Directive)
    (r : Resolving σ) : Resolving σ × Except ResolveError (Processor σ) :=
  match r.settings.processors.find? processor with
  | some p => (r, .ok p)
  | none =>
    match r.registry.create loading processor r.world with
    | (.error e, registry, world) =>
      ({ r with registry := registry, world := world }, .error (.registry d.name e))
    | (.ok p, registry, world) =>
      let world := match p.takeParameters, options.parameters with
        | some take, some _ => take world
        | _, _ => world
      ({ r with
          registry := registry
          world := world
          settings := { r.settings with processors := r.settings.processors ++ [(processor, p)] } },
        .ok p)

/-- Queues a directive for its processor. -/
def enqueue (options : ResolveOptions) (loading : Loading σ) (processor : Text) (d : Directive)
    (r : Resolving σ) : Resolving σ × Option ResolveError :=
  match r.activate options loading processor d with
  | (r, .error e) => (r, some e)
  | (r, .ok p) =>
    if p.supports d.name then
      ({ r with settings := { r.settings with custom := r.settings.custom ++ [⟨processor, d⟩] } },
        none)
    else (r, some (.unsupportedDirective processor d.name))

/-- Takes up one directive. -/
def step (options : ResolveOptions) (loading : Loading σ) (root : Text) (d : Directive)
    (r : Resolving σ) : Resolving σ × Option ResolveError :=
  match DirectiveKind.ofName d.name with
  | .template => (complain root (r.template root d), none)
  | .className =>
    (complain root (r.named root d (utf8 "name")
      (utf8 "Missing name attribute in class directive")
      fun name r => { r with settings := { r.settings with name := name } }), none)
  | .namespaceName =>
    (complain root (r.named root d (utf8 "name")
      (utf8 "Missing name attribute in namespace directive")
      fun name r => { r with settings := { r.settings with namespaceName := name } }), none)
  | .importName =>
    match (d.attributes.get? (utf8 "namespace")).getD [] with
    | [] => (r.note root d (utf8 "Missing namespace attribute in import directive") false, none)
    | name =>
      (complain root
        ({ r with settings := { r.settings with imports := r.settings.imports.insert name } },
          { d with attributes := d.attributes.erase (utf8 "namespace") }), none)
  | .output => (complain root (r.output root d), none)
  | .includeFile => (r, some .includeDirective)
  | .parameter => r.enqueue options loading ParameterProcessor.name d
  | .custom =>
    let (processor, rest) := d.attributes.extract? (utf8 "Processor")
    match processor.getD [] with
    | [] => (r, some (.noProcessor d.name))
    | name => r.enqueue options loading name { d with attributes := rest }

/-- Takes up directives one after the other until one fails. -/
def steps (options : ResolveOptions) (loading : Loading σ) (root : Text) :
    List Directive → Resolving σ → Resolving σ × Option ResolveError
  | [], r => (r, none)
  | d :: ds, r =>
    match r.step options loading root d with
    | (r, none) => steps options loading root ds r
    | failed => failed

end Resolving

namespace Settings

variable {σ : Type}

def defaultClassName : Text := utf8 "GeneratedTextTransformation"

def defaultNamespace : Text := utf8 "N42"

/-- The settings before any directive. -/
def initial (options : ResolveOptions) (encoding : Encoding) : Settings σ where
  language := utf8 "C#"
  langVersion := []
  debug := false
  inherits := []
  isInternal := false
  linePragmas := true
  relative := hostFlag options.host useRelativeLinePragmas
  baseDir := options.baseDir
  fallback := options.fallback
  name := []
  namespaceName := []
  extension := options.defaultExtension
  encodingName := options.defaultEncoding
  encoding := encoding
  imports := (NameSet.empty.insert (utf8 "System")).add options.imports
  references := .empty
  custom := []
  processors := []

/-- The settings with names for what was not named. -/
def named (s : Settings σ) : Settings σ :=
  { s with
    name := if s.name.isEmpty then defaultClassName else s.name
    namespaceName := if s.namespaceName.isEmpty then defaultNamespace else s.namespaceName }

/-- A finished resolution: the settings or the failure, all diagnostics of the template so far, and
the registry and world afterwards. -/
structure Resolved (σ : Type) where
  result : Except ResolveError (Settings σ)
  diagnostics : Diagnostics
  registry : Registry σ
  world : σ

/-- Resolves the settings of a template. -/
def resolve (template : Template) (options : ResolveOptions) (loading : Loading σ)
    (registry : Registry σ) (world : σ) : Resolved σ :=
  match findEncoding options.defaultEncoding with
  | .error e => ⟨.error e, template.diagnostics, registry, world⟩
  | .ok encoding =>
    let start : Resolving σ := ⟨initial options encoding, template.diagnostics, registry, world⟩
    match start.steps options loading template.root template.directives with
    | (r, some e) => ⟨.error e, r.diagnostics, r.registry, r.world⟩
    | (r, none) => ⟨.ok r.settings.named, r.diagnostics, r.registry, r.world⟩

end Settings
end TextTemplate
