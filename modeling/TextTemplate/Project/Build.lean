/-
Building a project: its templates are found, run one after the other in the order of their paths, and
what they make is written next to them or under an output directory. A template that fails does not
keep the others from being built. One registry serves the whole build, so an external processor is
loaded once.
-/
import TextTemplate.Config.Load
import TextTemplate.Console.Style
import TextTemplate.EditorConfig.Definition
import TextTemplate.Host.Run

namespace TextTemplate

/-- What a build is asked to do beside its configuration. -/
structure BuildOptions where
  /-- Where the configuration is looked for. -/
  root : Text
  /-- The configuration file, when it is not to be looked for. -/
  configFile : Text
  /-- Where files are written, when not next to their templates. -/
  outDir : Text
  includePaths : List Text
  referencePaths : List Text
  parameters : List Text
  relative : Bool
  extension : Text
  encoding : Text
  /-- Whether layouts come from the layout files of editors. -/
  editorLayout : Bool
  /-- The globs of the templates, when not those of the configuration. -/
  globs : List Text
  deriving DecidableEq, Repr

/-- Why a host cannot be set up for a project. -/
inductive SetUpError where
  | applying (error : ApplyError)
  | invalidParameter (written : Text)
  deriving DecidableEq, Repr

def SetUpError.message : SetUpError → Text
  | applying error => utf8 "applying config: " ++ error.message
  | invalidParameter written => (ApplyError.invalidParameter written).message

/-- Why one template was not built. -/
inductive TemplateError where
  | setUp (error : SetUpError)
  | run (rel : Text) (error : RunError)
  | encoding (rel : Text)
  | makingDirectory (rel : Text) (error : FileError)
  | writing (rel : Text) (error : FileError)
  deriving DecidableEq, Repr

def TemplateError.message : TemplateError → Text
  | setUp error => error.message
  | run rel error => rel ++ utf8 ": " ++ error.message
  | encoding rel => rel ++ utf8 ": encoding output: " ++ Encoding.notSupported
  | makingDirectory rel error => rel ++ utf8 ": creating output directory: " ++ error.message
  | writing rel error => rel ++ utf8 ": writing output: " ++ error.message

/-- Why a build failed. -/
inductive BuildError where
  | loading (path : Text) (error : ConfigError)
  | finding (error : FindError)
  | setUp (error : SetUpError)
  /-- Some of so many templates failed. -/
  | templates (total : Nat) (errors : List TemplateError)
  deriving DecidableEq, Repr

/-- Messages one below the other, after their number. -/
def countedMessages (messages : List Text) : Text :=
  (if messages.length = 1 then utf8 "1 error occurred:\n\t"
    else Text.ofNat messages.length ++ utf8 " errors occurred:\n\t")
    ++ Text.join (utf8 "\n\t") (messages.map (utf8 "* " ++ ·)) ++ utf8 "\n\n"

def BuildError.message : BuildError → Text
  | loading path error => utf8 "loading config '" ++ path ++ utf8 "': " ++ error.message
  | finding error => utf8 "finding templates: " ++ error.message
  | setUp error => error.message
  | templates total errors =>
    Text.ofNat errors.length ++ utf8 " of " ++ Text.ofNat total ++ utf8 " templates failed: "
      ++ countedMessages (errors.map TemplateError.message)

/-- The state of a build: the files as they are by now, the registry, and what was printed. -/
structure Build where
  files : Files
  registry : Registry Unit
  printed : Text

namespace Files

/-- Where relative names start. -/
def startDir (fs : Files) : Text := fs.workDir.getD (utf8 "/")

end Files

namespace BuildOptions

/-- The configuration of the project: the one given, or that of the root, or an empty one. -/
def config (o : BuildOptions) (files : Files) (env : List (Text × Text)) :
    Except BuildError Config :=
  let root := Path.abs files.startDir (if o.root.isEmpty then utf8 "." else o.root)
  let path? := if o.configFile.isEmpty then Config.find? files root else some o.configFile
  match path? with
  | none => .ok (Config.empty root)
  | some path => (Config.load files env path).mapError (.loading path)

/-- A host as configuration and options want it. -/
def setUp (o : BuildOptions) (c : Config) (h : Host Unit) : Except SetUpError (Host Unit) :=
  match c.apply h with
  | (_, some e) => .error (.applying e)
  | (h, none) =>
    let h := { h with
      includePaths := h.includePaths ++ o.includePaths
      referencePaths := h.referencePaths ++ o.referencePaths
      relative := h.relative || o.relative
      defaultExtension := if o.extension.isEmpty then h.defaultExtension else o.extension
      defaultEncoding := if o.encoding.isEmpty then h.defaultEncoding else o.encoding }
    match h.addParameters o.parameters with
    | (_, some (.invalidParameter written)) => .error (.invalidParameter written)
    | (_, some e) => .error (.applying e)
    | (h, none) => .ok h

/-- The layout of what a template makes. -/
def layout (o : BuildOptions) (files : Files) (template : Text) : Layout :=
  let start := { Layout.standard with workDir := files.startDir }
  if o.editorLayout then
    (EditorConfig.layout? files files.startDir (Host.defaultOutput template) start).getD start
  else start

/-- Where the output of a template goes. -/
def outputPath (o : BuildOptions) (rel output : Text) : Text :=
  if o.outDir.isEmpty then output else Path.join [o.outDir, Path.dir rel, Path.base output]

/-- Writes what a template made. A directory that was made for it stays, whatever comes after. -/
def writeOutput (o : BuildOptions) (files : Files) (rel : Text) (p : Product Unit) :
    Files × Option TemplateError :=
  let output := o.outputPath rel p.outputFile
  match p.settings.encoding.encode? p.text with
  | none => (files, some (.encoding rel))
  | some bytes =>
    match files.makeDirectory (Path.dir output) with
    | (files, some e) => (files, some (.makingDirectory rel e))
    | (files, none) =>
      match files.write output bytes with
      | .error e => (files, some (.writing rel e))
      | .ok files => (files, none)

/-- Builds one template on a host whose registry loads processors as `owner` does. -/
def buildOne (o : BuildOptions) (c : Config) (owner : Host Unit) (b : Build) (t : TemplateFile) :
    Build × Option TemplateError :=
  let supply := .shared (owner.loading b.files)
  match o.setUp c (.standard b.registry supply (o.layout b.files t.path)) with
  | .error e => (b, some (.setUp e))
  | .ok h =>
    let r := h.process b.files t.path t.content ()
    let lines := r.host.diagnostics.flatMap fun d => Console.diagnostic d false ++ utf8 "\n"
    let b := { b with registry := r.host.registry, printed := b.printed ++ lines }
    match r.error, r.product with
    | some e, _ => (b, some (.run t.rel e))
    | none, none => (b, none)
    | none, some p =>
      let (files, e) := o.writeOutput b.files t.rel p
      ({ b with files := files }, e)

/-- Builds templates one after the other and gathers what went wrong. -/
def buildAll (o : BuildOptions) (c : Config) (owner : Host Unit) (b : Build) :
    List TemplateFile → Build × List TemplateError
  | [] => (b, [])
  | t :: ts =>
    let (b, e) := o.buildOne c owner b t
    let (b, es) := o.buildAll c owner b ts
    (b, e.toList ++ es)

/-- Builds a project. Without templates there is nothing to do. -/
def build (o : BuildOptions) (files : Files) (env : List (Text × Text)) : Build × Option BuildError :=
  let untouched : Build := ⟨files, .standard, []⟩
  match o.config files env with
  | .error e => (untouched, some e)
  | .ok c =>
    match findTemplates files c.dir (if o.globs.isEmpty then c.templateGlobs else o.globs) false with
    | .error e => (untouched, some (.finding e))
    | .ok [] => (untouched, none)
    | .ok templates =>
      match o.setUp c (.standard .standard (.own []) .standard) with
      | .error e => (untouched, some (.setUp e))
      | .ok owner =>
        match o.buildAll c owner ⟨files, owner.registry, []⟩ templates with
        | (b, []) => (b, none)
        | (b, errors) => (b, some (.templates templates.length errors))

end BuildOptions
end TextTemplate
