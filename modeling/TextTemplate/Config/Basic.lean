/-
Project configurations: which templates there are, where their includes and assemblies are, and what
they are run with. A configuration is applied to a host; its relative paths are taken from the
directory it was loaded from.
-/
import TextTemplate.Files.Find
import TextTemplate.Host.Basic

namespace TextTemplate

/-- How `#line` directives name files. -/
structure LinePragmas where
  relative : Bool
  baseDirectory : Text
  /-- The name of a `LineBase`. -/
  fallback : Text
  deriving DecidableEq, Repr

/-- An external processor. -/
structure ProcessorEntry where
  name : Text
  type : Text
  assembly : Text
  deriving DecidableEq, Repr

/-- A project configuration. -/
structure Config where
  templates : List Text
  includePaths : List Text
  referencePaths : List Text
  linePragmas : Option LinePragmas
  outputExtension : Text
  outputEncoding : Text
  /-- Parameter values as they are written. -/
  parameters : List Text
  processors : List ProcessorEntry
  /-- Where it was loaded from. -/
  dir : Text
  deriving DecidableEq, Repr

/-- Why a configuration cannot be applied. -/
inductive ApplyError where
  | invalidFallback (name : Text)
  | invalidParameter (written : Text)
  deriving DecidableEq, Repr

def ApplyError.message : ApplyError → Text
  | invalidFallback name => utf8 "invalid pragma base fallback: '" ++ name ++ utf8 "'"
  | invalidParameter written => utf8 "invalid parameter: '" ++ written ++ utf8 "'"

/-- Adds written parameter values to a host, up to one that cannot be read. -/
def Host.addParameters {σ : Type} (h : Host σ) : List Text → Host σ × Option ApplyError
  | [] => (h, none)
  | written :: rest =>
    match h.addParameter? written with
    | none => (h, some (.invalidParameter written))
    | some h => h.addParameters rest

namespace Config

/-- The configuration that says nothing, of a directory. -/
def empty (dir : Text) : Config := ⟨[], [], [], none, [], [], [], [], dir⟩

/-- A path of the configuration, seen from its directory. -/
def place (c : Config) (p : Text) : Text :=
  if p.isEmpty || Path.isAbs p || c.dir.isEmpty then p else Path.join [c.dir, p]

/-- The globs of the templates, the default ones when none are given. -/
def templateGlobs (c : Config) : List Text := if c.templates.isEmpty then defaultGlobs else c.templates

variable {σ : Type}

/-- Applies what is said about `#line` directives. -/
def applyLinePragmas (c : Config) (h : Host σ) : Host σ × Option ApplyError :=
  match c.linePragmas with
  | none => (h, none)
  | some p =>
    let h := { h with relative := p.relative, baseDir := c.place p.baseDirectory }
    match LineBase.ofName? p.fallback with
    | none => (h, some (.invalidFallback p.fallback))
    | some base => ({ h with fallback := base }, none)

/-- Applies a configuration to a host. What comes before an error stays applied. -/
def apply (c : Config) (h : Host σ) : Host σ × Option ApplyError :=
  let h := { h with
    includePaths := h.includePaths ++ c.includePaths.map c.place
    referencePaths := h.referencePaths ++ c.referencePaths.map c.place }
  match c.applyLinePragmas h with
  | (h, some e) => (h, some e)
  | (h, none) =>
    let h := { h with
      defaultExtension := if c.outputExtension.isEmpty then h.defaultExtension else c.outputExtension
      defaultEncoding := if c.outputEncoding.isEmpty then h.defaultEncoding else c.outputEncoding }
    match h.addParameters c.parameters with
    | (h, some e) => (h, some e)
    | (h, none) =>
      let registry := c.processors.foldl (fun r p => r.addExternal p.name p.type p.assembly) h.registry
      ({ h with registry := registry }, none)

/-! ## Configuration files -/

/-- The names of configuration files, in the order they are looked for. -/
def fileNames : List Text := [utf8 "t4gen.yaml", utf8 "t4gen.yml", utf8 "t4gen.hcl"]

/-- The configuration file of a directory. -/
def find? (files : Files) (dir : Text) : Option Text :=
  (fileNames.map fun name => Path.join [dir, name]).find? files.has

def notFound : Text := utf8 "no t4gen config file found"

end Config
end TextTemplate
