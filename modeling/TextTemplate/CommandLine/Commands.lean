/-
The commands: `generate` builds the templates of a project, `parse` prints the outline of one
template. A command takes its arguments, the files and the environment, and leaves the files as they
are then, what it printed, and why it failed.
-/
import TextTemplate.CommandLine.Usage
import TextTemplate.Project.Build
import TextTemplate.Template.Outline

namespace TextTemplate.CommandLine

/-- Why a command failed. -/
inductive CommandError where
  | flags (error : FlagError)
  | operandCount (wanted got : Nat)
  | build (error : BuildError)
  | reading (error : FileError)
  /-- A piece of the template has bytes that are not UTF-8. -/
  | invalidText
  deriving DecidableEq, Repr

def CommandError.message : CommandError → Text
  | flags error => error.message
  | operandCount wanted got =>
    utf8 "accepts " ++ Text.ofNat wanted ++ utf8 " arg(s), received " ++ Text.ofNat got
  | build error => error.message
  | reading error => utf8 "reading template: " ++ error.message
  | invalidText => utf8 "encoding segments: yaml: cannot marshal invalid UTF-8 data as !!str"

/-- What a command leaves. -/
structure Outcome where
  files : Files
  printed : Text
  error : Option CommandError

/-! ## Flags -/

def textFlag (name : String) (letter : Option UInt8) (default usage : String) : Flag :=
  ⟨utf8 name, letter, .text, utf8 default, utf8 usage⟩

def textsFlag (name : String) (letter : UInt8) (usage : String) : Flag :=
  ⟨utf8 name, some letter, .texts, [], utf8 usage⟩

def switchFlag (name : String) (default : String) (usage : String) : Flag :=
  ⟨utf8 name, none, .switch, utf8 default, utf8 usage⟩

def rootFlag : Flag := textFlag "root" none "." "directory templates and the config file are found in"

def configFlag : Flag :=
  textFlag "config" (some 0x63) ""
    "config file (default: t4gen.yaml, t4gen.yml or t4gen.hcl in the root)"

def outFlag : Flag :=
  textFlag "out" (some 0x6F) ""
    "write generated files under this directory instead of next to each template"

def includeFlag : Flag := textsFlag "include" 0x49 "additional include search path"

def referenceFlag : Flag :=
  textsFlag "reference-path" 0x50 "additional assembly reference search path"

def parameterFlag : Flag :=
  textsFlag "parameter" 0x61 "parameter value as name=value or processor!directive!name!value"

def relativeFlag : Flag :=
  switchFlag "relative-line-pragmas" "false" "write line pragmas relative to the template root"

def extensionFlag : Flag := textFlag "extension" none "" "default output extension"

def encodingFlag : Flag := textFlag "encoding" none "" "default output encoding"

def jobsFlag : Flag :=
  ⟨utf8 "jobs", some 0x6A, .integer, utf8 "0",
    utf8 "templates processed at once (default: number of CPUs)"⟩

def editorconfigFlag : Flag :=
  switchFlag "editorconfig" "true" "take indentation and line endings from .editorconfig"

def debugFlag : Flag := switchFlag "debug" "false" "enable debug logging"

/-! ## Commands -/

/-- Builds the templates of a project. -/
def generateCommand : Command where
  name := utf8 "generate"
  operands := utf8 "[globs...]"
  summary := utf8 "preprocess templates into C# source files"
  flags := [rootFlag, configFlag, outFlag, includeFlag, referenceFlag, parameterFlag, relativeFlag,
    extensionFlag, encodingFlag, jobsFlag, editorconfigFlag, debugFlag]

/-- Prints the outline of a template. -/
def parseCommand : Command where
  name := utf8 "parse"
  operands := utf8 "<file>"
  summary := utf8 "print the segments of a template as YAML"
  flags := [includeFlag, debugFlag]

/-- The options of a build on a command line. -/
def buildOptions (l : Line) : BuildOptions where
  root := l.value rootFlag
  configFile := l.value configFlag
  outDir := l.value outFlag
  includePaths := l.values includeFlag
  referencePaths := l.values referenceFlag
  parameters := l.values parameterFlag
  relative := l.isOn relativeFlag
  extension := l.value extensionFlag
  encoding := l.value encodingFlag
  editorLayout := l.isOn editorconfigFlag
  globs := l.arguments

/-- Reads the arguments of a command and runs it, or prints its help. -/
def Command.run (c : Command) (arguments : List Text) (files : Files) (body : Line → Outcome) :
    Outcome :=
  match read c.allFlags arguments with
  | .error e => ⟨files, [], some (.flags e)⟩
  | .ok l => if l.isOn c.helpFlag then ⟨files, c.help, none⟩ else body l

def generate (arguments : List Text) (files : Files) (env : List (Text × Text)) : Outcome :=
  generateCommand.run arguments files fun l =>
    let (b, e) := (buildOptions l).build files env
    ⟨b.files, b.printed, e.map .build⟩

/-- The outline of a template file. -/
def outlineFile (includePaths : List Text) (files : Files) (file : Text) : Outcome :=
  let path := Path.abs files.startDir file
  match files.read path with
  | .error e => ⟨files, [], some (.reading e)⟩
  | .ok content =>
    let h : Host Unit :=
      { Host.standard .standard (.own []) .standard with includePaths := includePaths }
    match (h.parse files path content).outline? with
    | none => ⟨files, [], some .invalidText⟩
    | some outline => ⟨files, outline, none⟩

def parse (arguments : List Text) (files : Files) : Outcome :=
  parseCommand.run arguments files fun l =>
    match l.arguments with
    | [file] => outlineFile (l.values includeFlag) files file
    | others => ⟨files, [], some (.operandCount 1 others.length)⟩

end TextTemplate.CommandLine
