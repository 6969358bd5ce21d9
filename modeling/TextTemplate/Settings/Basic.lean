/-
Settings: what the directives of a template ask of the generated class.
-/
import TextTemplate.Template.Parsed
import TextTemplate.Processor.Registry
import TextTemplate.Encoding.Names
import TextTemplate.Settings.Version

namespace TextTemplate

/-- Names without repeats, in the order they came, with an index to look them up. -/
structure NameSet where
  values : List Text
  index : NameMap Unit
  deriving DecidableEq, Repr

namespace NameSet

def empty : NameSet := ⟨[], []⟩

def contains (s : NameSet) (name : Text) : Bool := (s.index.find? name).isSome

/-- Adds a name unless it is empty or there already. -/
def insert (s : NameSet) (name : Text) : NameSet :=
  if name.isEmpty || s.contains name then s
  else ⟨s.values ++ [name], s.index.insert name ()⟩

/-- Adds names one after the other. -/
def add (s : NameSet) (names : List Text) : NameSet := names.foldl insert s

def size (s : NameSet) : Nat := s.values.length

end NameSet

/-- Where relative `#line` paths start when no directory is given: at the root template's directory
or at that of the segment's own file. -/
inductive LineBase where
  | root
  | segment
  | unknown (number : Int)
  deriving DecidableEq, Repr

namespace LineBase

def ofNumber : Int → LineBase
  | 0 => root
  | 1 => segment
  | n => unknown n

def name : LineBase → Text
  | root => utf8 "root"
  | segment => utf8 "segment"
  | unknown _ => utf8 "unknown"

/-- Reads a name; no name means the root template. -/
def ofName? (s : Text) : Option LineBase :=
  let word := s.trim.lower
  if word.isEmpty || word = utf8 "root" then some root
  else if word = utf8 "segment" then some segment
  else none

end LineBase

/-- How `#line` directives are written. -/
inductive LineMode where
  | off
  | absolute
  | relative
  deriving DecidableEq, Repr

def LineMode.number : LineMode → Nat
  | off => 0
  | absolute => 1
  | relative => 2

/-- A directive queued for a processor. -/
structure CustomDirective where
  processor : Text
  directive : Directive
  deriving DecidableEq, Repr

/-- The settings of one run. -/
structure Settings (σ : Type) where
  language : Text
  langVersion : Text
  debug : Bool
  inherits : Text
  isInternal : Bool
  linePragmas : Bool
  relative : Bool
  baseDir : Text
  fallback : LineBase
  name : Text
  namespaceName : Text
  extension : Text
  encodingName : Text
  encoding : Encoding
  imports : NameSet
  references : NameSet
  custom : List CustomDirective
  /-- The processors in use, in the order of first use. -/
  processors : NameMap (Processor σ)

/-- The name of the class, with its namespace. -/
def fullName (namespaceName name : Text) : Text :=
  if namespaceName.isEmpty then name else namespaceName ++ utf8 "." ++ name

/-- How `#line` directives are written under two switches. -/
def LineMode.ofSwitches (linePragmas isRelative : Bool) : LineMode :=
  if !linePragmas then off else if isRelative then relative else absolute

/-- Whether a version of the language has namespaces for a whole file. -/
def isFileScoped (langVersion : Text) : Bool :=
  let v := langVersion.trim
  v.isEmpty || (Numeral.read v).isAtLeastTen

namespace Settings

variable {σ : Type}

def fullName (s : Settings σ) : Text := TextTemplate.fullName s.namespaceName s.name

def lineMode (s : Settings σ) : LineMode := .ofSwitches s.linePragmas s.relative

def fileScoped (s : Settings σ) : Bool := isFileScoped s.langVersion

end Settings

/-- Whether a language is the generated one. -/
def isSupportedLanguage (language : Text) : Bool :=
  let l := language.trim.lower
  (utf8 "c#").isPrefixOf l || l = utf8 "csharp" || l = utf8 "cs"

end TextTemplate
