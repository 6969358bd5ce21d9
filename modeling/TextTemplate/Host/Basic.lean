/-
The host of a template: where its includes and assemblies are looked for, the parameter values and
options it supplies, and how the file it makes is named. An included file is looked for next to the
file that asks for it, then in the include paths, then under the name it was asked for by; an
assembly in the reference paths.
-/
import TextTemplate.Files
import TextTemplate.Host.Parameters
import TextTemplate.Settings.Resolve

namespace TextTemplate

/-- How a host comes by external processors. -/
inductive Supply (σ : Type) where
  /-- The host finds the assemblies itself; the types they provide are given. -/
  | own (types : NameMap (Factory σ))
  /-- They are loaded as the registry's owner loads them. -/
  | shared (loading : Loading σ)

/-- A host: its configuration, and what its last run left. -/
structure Host (σ : Type) where
  imports : List Text
  includePaths : List Text
  referencePaths : List Text
  /-- The default of relative `#line` directives. -/
  relative : Bool
  baseDir : Text
  fallback : LineBase
  defaultExtension : Text
  defaultEncoding : Text
  templateFile : Text
  outputFile : Text
  parameters : ParameterTable
  registry : Registry σ
  supply : Supply σ
  layout : Layout
  diagnostics : Diagnostics

/-- Why an included file cannot be had. -/
inductive IncludeError where
  | notFound (requested : Text)
  | unreadable (name : Text) (error : FileError)
  deriving DecidableEq, Repr

def IncludeError.message : IncludeError → Text
  | notFound requested => utf8 "include file not found: '" ++ requested ++ utf8 "'"
  | unreadable name error => utf8 "reading include '" ++ name ++ utf8 "': " ++ error.message

namespace Host

variable {σ : Type}

/-- A host that imports `System` and has nothing else set. -/
def standard (registry : Registry σ) (supply : Supply σ) (layout : Layout) : Host σ where
  imports := [utf8 "System"]
  includePaths := []
  referencePaths := []
  relative := false
  baseDir := []
  fallback := .root
  defaultExtension := []
  defaultEncoding := []
  templateFile := []
  outputFile := []
  parameters := []
  registry := registry
  supply := supply
  layout := layout
  diagnostics := []

/-! ## Parameters and options -/

def addParameter (h : Host σ) (key : ParameterKey) (value : Text) : Host σ :=
  { h with parameters := h.parameters.insert key value }

/-- Adds a written parameter value, unless it cannot be read. -/
def addParameter? (h : Host σ) (written : Text) : Option (Host σ) :=
  (ParameterKey.read? written).map fun (key, value) => h.addParameter key value

/-- The options the host answers for. -/
def option? (h : Host σ) (name : Text) : Option HostValue :=
  if name = useRelativeLinePragmas then some (.flag h.relative) else none

/-! ## Includes -/

/-- The names under which an included file is looked for, in order. -/
def includeCandidates (h : Host σ) (requested from_ : Text) : List Text :=
  if Path.isAbs requested then [requested]
  else
    let from_ := if from_.isEmpty then h.templateFile else from_
    let beside := if from_.isEmpty then [] else [Path.join [Path.dir from_, requested]]
    beside ++ h.includePaths.map (fun dir => Path.join [dir, requested]) ++ [requested]

/-- The text of an included file and the name it was found under. -/
def loadInclude (h : Host σ) (files : Files) (requested from_ : Text) :
    Except IncludeError (Text × Text) :=
  match (h.includeCandidates requested from_).findSome? files.locate? with
  | none => .error (.notFound requested)
  | some (name, _) =>
    match files.read name with
    | .error e => .error (.unreadable name e)
    | .ok content => .ok (content, name)

/-- The host as a source of includes. -/
def includes (h : Host σ) (files : Files) : Includes where
  load requested from_ := (h.loadInclude files requested from_).toOption
  finite := by
    obtain ⟨names, hnames⟩ := files.locate?_finite
    refine ⟨names.map Text.lower, ?_⟩
    intro requested from_ content resolved hl
    simp only [loadInclude] at hl
    split at hl
    · simp [Except.toOption] at hl
    · rename_i name e hf
      split at hl
      · simp [Except.toOption] at hl
      · simp only [Except.toOption, Option.some.injEq, Prod.mk.injEq] at hl
        obtain ⟨c, _, hc⟩ := List.exists_of_findSome?_eq_some hf
        exact List.mem_map.2 ⟨name, hnames hc, by rw [hl.2]⟩

/-! ## Assemblies -/

/-- The names an assembly reference stands for. -/
def assemblyNames (reference : Text) : List Text :=
  let word := reference.lower
  if (utf8 ".dll").isSuffixOf word || (utf8 ".exe").isSuffixOf word then [reference]
  else [reference, reference ++ utf8 ".dll"]

/-- The place of an assembly, empty when it is not found. -/
def locateAssembly (h : Host σ) (files : Files) (reference : Text) : Text :=
  let places := (assemblyNames reference).flatMap fun name =>
    if Path.isAbs name then [name] else h.referencePaths.map fun dir => Path.join [dir, name]
  (places.find? files.has).getD []

/-- How external processors are loaded. -/
def loading (h : Host σ) (files : Files) : Loading σ :=
  match h.supply with
  | .shared loading => loading
  | .own types =>
    ⟨some fun reference => .ok (h.locateAssembly files reference),
      some fun location type s => (loadFrom types location type, s)⟩

/-! ## The output file -/

/-- A file name with another extension, put in the place of the one it has. -/
def withExtension (file extension : Text) : Text :=
  if file.isEmpty then file
  else
    Text.dropEnd (Path.ext file) file ++ utf8 "." ++ extension.dropWhile (· == 0x2E)

/-- The name of the output file of a template that sets no extension. -/
def defaultOutput (file : Text) : Text := Text.dropEnd (Path.ext file) file ++ utf8 ".cs"

def setExtension (h : Host σ) (extension : Text) : Host σ :=
  { h with outputFile := withExtension h.outputFile extension }

end Host
end TextTemplate
