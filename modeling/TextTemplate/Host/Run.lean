/-
Running a template: it is parsed, its settings are resolved, and its class is generated. What is
wrong with the template is left in the host's diagnostics. A failed run has no text, and it leaves an
error there unless it is a processor that cannot be started or finished.
-/
import TextTemplate.Host.Basic
import TextTemplate.Output.Unit

namespace TextTemplate

/-- What a run made of a template. -/
structure Product (σ : Type) where
  /-- Empty when the template has errors. -/
  text : Text
  outputFile : Text
  settings : Settings σ
  template : Template

/-- Why a run failed. -/
inductive RunError where
  | resolving (file : Text) (error : ResolveError)
  | templateHasErrors (diagnostics : Diagnostics)
  | generating (file : Text) (error : GenerateError)
  deriving DecidableEq, Repr

def RunError.message : RunError → Text
  | resolving file error =>
    utf8 "resolving settings of '" ++ file ++ utf8 "': " ++ error.message
  | templateHasErrors diagnostics => (GenerateError.templateHasErrors diagnostics).message
  | generating file error => utf8 "generating '" ++ file ++ utf8 "': " ++ error.message

/-- A finished run: the host it leaves, what it made, and why it failed. -/
structure Run (σ : Type) where
  host : Host σ
  product : Option (Product σ)
  error : Option RunError
  world : σ

namespace Host

variable {σ : Type}

/-- Parses a template with the host's includes. -/
def parse (h : Host σ) (files : Files) (file content : Text) : Template :=
  let h := { h with templateFile := file }
  Template.parse file content (some (h.includes files))

/-- The host at the start of a run. -/
def start (h : Host σ) (file : Text) : Host σ :=
  { h with diagnostics := [], templateFile := file, outputFile := defaultOutput file }

/-- What the settings are resolved from. -/
def resolveOptions (h : Host σ) : ResolveOptions where
  host := h.option?
  parameters := some h.parameters.lookup
  imports := h.imports
  baseDir := h.baseDir
  fallback := h.fallback
  defaultExtension := h.defaultExtension
  defaultEncoding := h.defaultEncoding

/-- Generates the class of a template whose settings are resolved. -/
def finish (h : Host σ) (template : Template) (settings : Settings σ) (diagnostics : Diagnostics)
    (world : σ) : Run σ :=
  let h := if settings.extension.isEmpty then h else h.setExtension settings.extension
  let g := generate h.layout template settings (some h.parameters.lookup) diagnostics world
  let h := { h with diagnostics := h.diagnostics ++ g.diagnostics }
  let settings := { settings with imports := g.imports, references := g.references }
  match g.result with
  | .ok text => ⟨h, some ⟨text, h.outputFile, settings, template⟩, none, g.world⟩
  | .error (.templateHasErrors ds) =>
    ⟨h, some ⟨[], h.outputFile, settings, template⟩, some (.templateHasErrors ds), g.world⟩
  | .error e => ⟨h, none, some (.generating template.root e), g.world⟩

/-- Runs a template. -/
def process (h : Host σ) (files : Files) (file content : Text) (world : σ) : Run σ :=
  let h := h.start file
  let template := h.parse files file content
  let r := Settings.resolve template h.resolveOptions (h.loading files) h.registry world
  let h := { h with registry := r.registry }
  match r.result with
  | .error e =>
    let fault := Diagnostic.atLocation .empty file e.message false
    ⟨{ h with diagnostics := h.diagnostics ++ r.diagnostics ++ [fault] }, none,
      some (.resolving file e), r.world⟩
  | .ok settings => h.finish template settings r.diagnostics r.world

end Host
end TextTemplate
