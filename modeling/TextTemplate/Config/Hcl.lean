/-
Configurations out of HCL files. Expressions see the environment as `env`. An attribute or block that
is not known, a block with too few or too many labels, a missing attribute of a processor and a value
that cannot be converted are refused. Only a list may be null, and then it is empty.
-/
import TextTemplate.Config.Basic
import TextTemplate.Hcl.Eval
import TextTemplate.Hcl.Reader

namespace TextTemplate.Config

open Hcl (Value Body Block)

/-- Names as they see the environment. -/
def environmentScope (env : List (Text × Text)) : Hcl.Scope :=
  .ofVariables [(utf8 "env", .ofEntries (env.map fun (name, value) => (name, .ofText value)))]

/-- What is read out of a value of some type. -/
structure Conversion (α : Type) where
  type : Hcl.Ty
  read? : Value → Option α

def toText : Conversion Text where
  type := .text
  read?
    | .text s => some s
    | _ => none

def toBool : Conversion Bool where
  type := .bool
  read?
    | .bool b => some b
    | _ => none

def toTextList : Conversion (List Text) where
  type := .list .text
  read?
    | .null _ => some []
    | .list _ items => items.mapM toText.read?
    | _ => none

/-- The value of an attribute, converted, or the default when it is not there. -/
def attributeOr {α : Type} (scope : Hcl.Scope) (b : Body) (name : String) (default : Option α)
    (conversion : Conversion α) : Option α :=
  match b.attributes.find? (·.1 == utf8 name) with
  | none => default
  | some (_, e) => (e.evalAs? scope conversion.type).bind conversion.read?

/-- Whether a body has only these attributes and these blocks. -/
def hasOnly (b : Body) (attributes blocks : List String) : Bool :=
  b.attributes.all (fun a => (attributes.map utf8).contains a.1)
    && b.blocks.all fun c => (blocks.map utf8).contains c.type

def linePragmasOf? (scope : Hcl.Scope) (b : Block) : Option LinePragmas :=
  if b.labels.isEmpty && hasOnly b.body ["relative", "base_directory", "fallback"] [] then do
    return {
      relative := ← attributeOr scope b.body "relative" (some false) toBool
      baseDirectory := ← attributeOr scope b.body "base_directory" (some []) toText
      fallback := ← attributeOr scope b.body "fallback" (some []) toText }
  else none

/-- A processor; its name is the label of the block. -/
def processorOf? (scope : Hcl.Scope) (b : Block) : Option ProcessorEntry :=
  match b.labels with
  | [name] =>
    if hasOnly b.body ["type", "assembly"] [] then do
      return {
        name
        type := ← attributeOr scope b.body "type" none toText
        assembly := ← attributeOr scope b.body "assembly" none toText }
    else none
  | _ => none

/-- At most one of some blocks. -/
def atMostOne? : List Block → Option (Option Block)
  | [] => some none
  | [b] => some (some b)
  | _ => none

/-- The configuration of a file. -/
def ofBody? (scope : Hcl.Scope) (b : Body) : Option Config := do
  if !hasOnly b ["templates", "include_paths", "reference_paths", "output_extension",
      "output_encoding", "parameters"] ["line_pragmas", "processor"] then
    none
  let blocks (type : String) : List Block := b.blocks.filter (·.type == utf8 type)
  let pragmas ← atMostOne? (blocks "line_pragmas")
  return {
    templates := ← attributeOr scope b "templates" (some []) toTextList
    includePaths := ← attributeOr scope b "include_paths" (some []) toTextList
    referencePaths := ← attributeOr scope b "reference_paths" (some []) toTextList
    linePragmas := ← pragmas.mapM (linePragmasOf? scope)
    outputExtension := ← attributeOr scope b "output_extension" (some []) toText
    outputEncoding := ← attributeOr scope b "output_encoding" (some []) toText
    parameters := ← attributeOr scope b "parameters" (some []) toTextList
    processors := ← (blocks "processor").mapM (processorOf? scope)
    dir := [] }

end TextTemplate.Config
