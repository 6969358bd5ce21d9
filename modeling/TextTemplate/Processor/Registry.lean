/-
The registry of processors. A name stands for a processor given as such, or for an external one,
declared by its type and the assembly that provides it. An external processor is loaded when it is
first asked for and remembered until its declaration changes.
-/
import TextTemplate.NameMap
import TextTemplate.Processor.Parameter

namespace TextTemplate

/-- A processor supplied from outside: its type, and the assembly that provides it. -/
structure External where
  type : Text
  assembly : Text
  deriving DecidableEq, Repr

/-- Why a loader gives no factory. -/
inductive LoadError where
  /-- The place has no such type. -/
  | typeNotFound (type location : Text)
  /-- A failure in the loader's own words. -/
  | failed (text : Text)
  deriving DecidableEq, Repr

def LoadError.message : LoadError → Text
  | typeNotFound type location =>
    utf8 "directive processor type not found: '" ++ type ++ utf8 "' in '" ++ location ++ utf8 "'"
  | failed text => text

/-- Why no processor was given for a name. -/
inductive RegistryError where
  | notRegistered (name : Text)
  /-- The assembly could not be found; a failure says why. -/
  | assemblyNotResolved (assembly name : Text) (failure : Option Text)
  /-- There is nothing to load the type with. -/
  | noLoader (type : Text)
  /-- The type could not be loaded from the place found. -/
  | loading (name : Text) (error : LoadError)
  /-- The processor failed when it was set up. -/
  | setUpFailed (name : Text) (error : ProcessorError)
  deriving DecidableEq, Repr

def RegistryError.message : RegistryError → Text
  | notRegistered name => utf8 "no directive processor registered as '" ++ name ++ utf8 "'"
  | assemblyNotResolved assembly name failure =>
    utf8 "could not resolve assembly '" ++ assembly ++ utf8 "' for directive processor '" ++ name
      ++ utf8 "'" ++ match failure with | some text => utf8 ": " ++ text | none => []
  | noLoader type => utf8 "directive processor type not found: no loader for '" ++ type ++ utf8 "'"
  | loading name error =>
    utf8 "loading directive processor '" ++ name ++ utf8 "': " ++ error.message
  | setUpFailed name error =>
    utf8 "initializing directive processor '" ++ name ++ utf8 "': " ++ error.message

/-- What external processors are loaded with. -/
structure Loading (σ : Type) where
  /-- The place of an assembly, empty when it is not found; or why it cannot be found. -/
  assemblies : Option (Text → Except Text Text)
  /-- The type's factory at a place, or why it cannot be loaded. -/
  loader : Option ((location type : Text) → σ → Except LoadError (Factory σ) × σ)

/-- Loads a type from a table of factories, wherever it is said to be. -/
def loadFrom {σ : Type} (types : NameMap (Factory σ)) (location type : Text) :
    Except LoadError (Factory σ) :=
  match types.find? type with
  | some f => .ok f
  | none => .error (.typeNotFound type location)

/-- The processors at hand. -/
structure Registry (σ : Type) where
  builtins : NameMap (Factory σ)
  external : NameMap External
  /-- The external processors loaded so far. -/
  loaded : NameMap (Factory σ)

namespace Registry

variable {σ : Type}

/-- The registry that knows the parameter processor. -/
def standard : Registry σ :=
  ⟨[(ParameterProcessor.name, fun s => (ParameterProcessor.processor, s))], [], []⟩

/-- Registers a processor, over an earlier one of the name. -/
def register (r : Registry σ) (name : Text) (f : Factory σ) : Registry σ :=
  { r with builtins := r.builtins.insert name f, loaded := r.loaded.erase name }

/-- Declares an external processor. Declaring it again as it is changes nothing. -/
def addExternal (r : Registry σ) (name type assembly : Text) : Registry σ :=
  if r.external.find? name = some ⟨type, assembly⟩ then r
  else
    { r with external := r.external.insert name ⟨type, assembly⟩, loaded := r.loaded.erase name }

/-- All names, in increasing order. -/
def names (r : Registry σ) : List Text :=
  sortTexts (r.builtins.names ++ r.external.names.filter (!r.builtins.names.contains ·))

/-- The place of an external processor's assembly. -/
def locate (l : Loading σ) (name : Text) (e : External) : Except RegistryError Text :=
  match l.assemblies with
  | none => .error (.assemblyNotResolved e.assembly name none)
  | some resolve =>
    match resolve e.assembly with
    | .error failure => .error (.assemblyNotResolved e.assembly name (some failure))
    | .ok location =>
      if location.isEmpty then .error (.assemblyNotResolved e.assembly name none) else .ok location

/-- Loads an external processor. -/
def load (l : Loading σ) (name : Text) (e : External) (s : σ) :
    Except RegistryError (Factory σ) × σ :=
  match locate l name e with
  | .error err => (.error err, s)
  | .ok location =>
    match l.loader with
    | none => (.error (.noLoader e.type), s)
    | some loader =>
      match loader location e.type s with
      | (.error err, s) => (.error (.loading name err), s)
      | (.ok f, s) => (.ok f, s)

/-- The factory of a name, and the registry that remembers it. -/
def resolve (r : Registry σ) (l : Loading σ) (name : Text) (s : σ) :
    Except RegistryError (Factory σ) × Registry σ × σ :=
  match r.builtins.find? name with
  | some f => (.ok f, r, s)
  | none =>
    match r.loaded.find? name with
    | some f => (.ok f, r, s)
    | none =>
      match r.external.find? name with
      | none => (.error (.notRegistered name), r, s)
      | some e =>
        match load l name e s with
        | (.error err, s) => (.error err, r, s)
        | (.ok f, s) => (.ok f, { r with loaded := r.loaded.insert name f }, s)

/-- A processor of a name, set up for a run. -/
def create (r : Registry σ) (l : Loading σ) (name : Text) (s : σ) :
    Except RegistryError (Processor σ) × Registry σ × σ :=
  match r.resolve l name s with
  | (.error err, r, s) => (.error err, r, s)
  | (.ok f, r, s) =>
    let (p, s) := f s
    match p.setUp s with
    | (some err, s) => (.error (.setUpFailed name err), r, s)
    | (none, s) => (.ok p, r, s)

end Registry
end TextTemplate
