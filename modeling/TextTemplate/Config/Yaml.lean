/-
Configurations out of YAML documents. A field that is not known, a key given twice and a value of
the wrong kind are refused; a field without a value is as if it were not there. The key `<<` takes
over the fields of other mappings where they are not given.
-/
import TextTemplate.Config.Basic
import TextTemplate.Yaml.Reader

namespace TextTemplate.Config

open Yaml (Node)

/-! ## Values -/

/-- A value that may be left out. -/
inductive Given (α : Type) where
  | absent
  | value (a : α)

/-- A text; a scalar of any meaning is taken as it is written. -/
def text? (n : Node) : Option (Given Text) :=
  match n.scalar? with
  | none => none
  | some (.null, _) => some .absent
  | some (_, value) => some (.value value)

/-- A truth value; some words count beside the usual ones. -/
def bool? (n : Node) : Option (Given Bool) :=
  match n.scalar? with
  | some (.null, _) => some .absent
  | some (.bool b, _) => some (.value b)
  | some (.text, value) =>
    if (["y", "Y", "yes", "on"].map utf8).contains value then some (.value true)
    else if (["n", "N", "no", "off"].map utf8).contains value then some (.value false)
    else none
  | _ => none

def Given.getD {α : Type} (default : α) : Given α → α
  | absent => default
  | value a => a

/-- The texts of a sequence; those without a value are left out. -/
def texts? (n : Node) : Option (List Text) :=
  match n.target with
  | .sequence items => do
    let given ← items.mapM text?
    return given.filterMap fun
      | .absent => none
      | .value t => some t
  | n => match n.scalar? with
    | some (.null, _) => some []
    | _ => none

/-! ## Fields -/

/-- Whether two keys are scalars of one text, aliases of one name, or collections of one kind. -/
def sameKey : Node → Node → Bool
  | .scalar _ _ a, .scalar _ _ b => a == b
  | .sequence _, .sequence _ => true
  | .mapping _ _, .mapping _ _ => true
  | .alias a _, .alias b _ => a == b
  | _, _ => false

/-- Whether some key is given twice. -/
def hasTwins : List (Node × Node) → Bool
  | [] => false
  | (k, _) :: es => es.any (fun e => sameKey k e.1) || hasTwins es

def isMerge : Node → Bool
  | .scalar tag plain value =>
    value == utf8 "<<" && (((tag.isEmpty || tag == utf8 "!") && plain) || tag == utf8 "!!merge")
  | _ => false

def isMapping (n : Node) : Bool := n.target matches .mapping _ _

/-- The mappings a merge key takes over: one, or those of a sequence that stands there itself. -/
def mergedMappings (n : Node) : Option (List Node) :=
  match n with
  | .sequence items => if items.all isMapping then some items else none
  | n => if isMapping n then some [n] else none

/-- Adds fields that are not yet given. -/
def addFields (own more : List (Text × Node)) : List (Text × Node) :=
  more.foldl (fun fs f => if fs.any (·.1 == f.1) then fs else fs ++ [f]) own

/-- The fields of a mapping by name, merged ones behind its own, to at most `fuel` levels; none when
a key is given twice or is no text, or when a name is not known. -/
def fields (known : List Text) : (fuel : Nat) → Node → Option (List (Text × Node))
  | 0, _ => none
  | fuel + 1, n =>
    match n.target with
    | .mapping _ entries =>
      if hasTwins entries then none
      else do
        let own ← (entries.filter fun e => !isMerge e.1).mapM fun (k, v) => do
          match ← text? k with
          | .absent => some none
          | .value name => if known.contains name then some (some (name, v)) else none
        let own := own.filterMap id
        if (own.map Prod.fst).eraseDups.length != own.length then none
        match entries.find? fun e => isMerge e.1 with
        | none => return own
        | some (_, n) =>
          let others ← mergedMappings n
          let merged ← others.mapM (fields known fuel)
          return addFields own merged.flatten
    | _ => none

/-- The deepest nesting of merge keys that is followed. -/
def mergeDepth : Nat := 64

/-- A field read with `read`, or the default when it is not there. -/
def field {α : Type} (fs : List (Text × Node)) (name : String) (default : α)
    (read : Node → Option α) : Option α :=
  match fs.find? (·.1 == utf8 name) with
  | none => some default
  | some (_, n) => read n

def textField (fs : List (Text × Node)) (name : String) : Option Text :=
  field fs name [] fun n => (text? n).map (Given.getD [])

/-- Whether a node has no value. -/
def isNull (n : Node) : Bool :=
  match n.scalar? with
  | some (.null, _) => true
  | _ => false

/-- The fields of a mapping that a tag does not declare to be nothing. -/
def recordFields (known : List String) (n : Node) : Option (List (Text × Node)) :=
  match n.target with
  | .mapping tag _ => if tag = Node.nullTag then none else fields (known.map utf8) mergeDepth n
  | _ => none

def linePragmas? (n : Node) : Option (Option LinePragmas) :=
  if isNull n then some none
  else do
    let fs ← recordFields ["relative", "base_directory", "fallback"] n
    return some {
      relative := ← field fs "relative" false fun n => (bool? n).map (Given.getD false)
      baseDirectory := ← textField fs "base_directory"
      fallback := ← textField fs "fallback" }

def processor? (n : Node) : Option ProcessorEntry := do
  let fs ← recordFields ["name", "type", "assembly"] n
  return ⟨← textField fs "name", ← textField fs "type", ← textField fs "assembly"⟩

def processors? (n : Node) : Option (List ProcessorEntry) :=
  match n.target with
  | .sequence items => items.mapM processor?
  | n => if isNull n then some [] else none

def fieldNames : List Text :=
  ["templates", "include_paths", "reference_paths", "line_pragmas", "output_extension",
    "output_encoding", "parameters", "processors"].map utf8

/-- The configuration of a document. -/
def ofNode? (n : Node) : Option Config :=
  if isNull n then some (empty [])
  else do
    let fs ← fields fieldNames mergeDepth n
    return {
      templates := ← field fs "templates" [] texts?
      includePaths := ← field fs "include_paths" [] texts?
      referencePaths := ← field fs "reference_paths" [] texts?
      linePragmas := ← field fs "line_pragmas" none linePragmas?
      outputExtension := ← textField fs "output_extension"
      outputEncoding := ← textField fs "output_encoding"
      parameters := ← field fs "parameters" [] texts?
      processors := ← field fs "processors" [] processors?
      dir := [] }

/-- The configuration written in YAML. -/
def ofYaml? (content : Text) : Option Config := (Yaml.readDocument content).bind ofNode?

end TextTemplate.Config
