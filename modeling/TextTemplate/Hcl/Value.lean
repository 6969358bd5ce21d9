/-
Values of expressions, and the conversions between them: a number or a truth value becomes a text
where a text is wanted, a text becomes a number or a truth value where it spells one, and tuples and
objects become lists and maps. A value may be unknown, which comes of an expression that has none;
then only its type is known. Texts and names are in normal form.
-/
import TextTemplate.Hcl.Numeral
import TextTemplate.Hcl.Ty
import TextTemplate.Text.Normal

namespace TextTemplate.Hcl

/-- The value of an expression. -/
inductive Value where
  | unknown (type : Ty)
  | null (type : Ty)
  | bool (b : Bool)
  | number (n : Number)
  | text (s : Text)
  | list (item : Ty) (items : List Value)
  /-- Entries in the order of their names. -/
  | map (item : Ty) (entries : List (Text × Value))
  | tuple (items : List Value)
  /-- Entries in the order of their names. -/
  | object (entries : List (Text × Value))

/-- Puts a value under a name, in the place of one that is there, keeping the order of names. -/
def Entries.insert {α : Type} (name : Text) (v : α) : List (Text × α) → List (Text × α)
  | [] => [(name, v)]
  | (k, w) :: es =>
    if k == name then (k, v) :: es
    else if name.blt k then (name, v) :: (k, w) :: es
    else (k, w) :: insert name v es

namespace Value

/-- A text in normal form. -/
def ofText (s : Text) : Value := .text s.normal

/-- An object of entries, of which the last one of a name counts. -/
def ofEntries (entries : List (Text × Value)) : Value :=
  .object (entries.foldl (fun es (name, v) => Entries.insert name.normal v es) [])

mutual

/-- The type of a value. -/
def type : Value → Ty
  | unknown t => t
  | null t => t
  | bool _ => .bool
  | number _ => .number
  | text _ => .text
  | list t _ => .list t
  | map t _ => .map t
  | tuple items => .tuple (typeAll items)
  | object entries => .object (typeFields entries)

def typeAll : List Value → List Ty
  | [] => []
  | v :: vs => v.type :: typeAll vs

def typeFields : List (Text × Value) → List (Text × Ty)
  | [] => []
  | (name, v) :: es => (name, v.type) :: typeFields es

end

def isNull : Value → Bool
  | null _ => true
  | _ => false

def isUnknown : Value → Bool
  | unknown _ => true
  | _ => false

/-! ## Conversion -/

/-- The value of a text that spells a truth value. -/
def boolOf? (s : Text) : Option Value :=
  if s = utf8 "true" || s = utf8 "1" then some (.bool true)
  else if s = utf8 "false" || s = utf8 "0" then some (.bool false)
  else none

/-- The type of the items of a list or a map that is made of a tuple or an object. -/
def itemType (wanted : Ty) (items : List Ty) : Ty :=
  if wanted.isAny then (Ty.unify? items).getD .any else wanted

/-- Whether an object has all the names that are wanted. -/
def hasNames (wanted : List (Text × Ty)) (entries : List (Text × Value)) : Bool :=
  wanted.all fun (name, _) => entries.any (·.1 == name)

mutual

/-- The value as one of another type. -/
def convert? (wanted : Ty) : Value → Option Value
  | unknown t =>
    if wanted.isAny then some (unknown t)
    else if t.same wanted || t.convertsTo wanted then some (unknown wanted) else none
  | null t =>
    if wanted.isAny then some (null t)
    else if t.same wanted || t.convertsTo wanted then some (null wanted) else none
  | bool b =>
    match wanted with
    | .any | .bool => some (bool b)
    | .text => some (text (if b then utf8 "true" else utf8 "false"))
    | _ => none
  | number n =>
    match wanted with
    | .any | .number => some (number n)
    | .text => some (text n.render)
    | _ => none
  | text s =>
    match wanted with
    | .any | .text => some (text s)
    | .number => (Number.read? s).map number
    | .bool => boolOf? s
    | _ => none
  | list t items =>
    match wanted with
    | .any => some (list t items)
    | .list u =>
      if t.same u then some (list t items)
      else if t.convertsTo u then (convertAll? (items.map fun _ => u) items).map (list u)
      else none
    | _ => none
  | map t entries =>
    match wanted with
    | .any => some (map t entries)
    | .map u =>
      if t.same u then some (map t entries)
      else if t.convertsTo u then (convertFields? (fun _ => some u) entries).map (map u)
      else none
    | .object fields =>
      if (Ty.map t).convertsTo wanted && hasNames fields entries then
        (convertFields? (Ty.field? · fields) entries).map object
      else none
    | _ => none
  | tuple items =>
    let types := typeAll items
    match wanted with
    | .any => some (tuple items)
    | .tuple us =>
      if Ty.sameAll types us then some (tuple items)
      else if (Ty.tuple types).convertsTo wanted then (convertAll? us items).map tuple
      else none
    | .list u =>
      if (Ty.tuple types).convertsTo wanted then
        let u := itemType u types
        (convertAll? (items.map fun _ => u) items).map (list u)
      else none
    | _ => none
  | object entries =>
    let types := typeFields entries
    match wanted with
    | .any => some (object entries)
    | .object fields =>
      if Ty.sameFields types fields then some (object entries)
      else if (Ty.object types).convertsTo wanted then
        (convertFields? (Ty.field? · fields) entries).map object
      else none
    | .map u =>
      if (Ty.object types).convertsTo wanted then
        let u := itemType u (types.map Prod.snd)
        (convertFields? (fun _ => some u) entries).map (map u)
      else none
    | _ => none

/-- Values as ones of the types that stand beside them. -/
def convertAll? : List Ty → List Value → Option (List Value)
  | t :: ts, v :: vs => do
    let here ← v.convert? t
    let rest ← convertAll? ts vs
    return here :: rest
  | _, _ => some []

/-- Entries as ones of the types of their names; a name without a type is left out. -/
def convertFields? (wanted : Text → Option Ty) :
    List (Text × Value) → Option (List (Text × Value))
  | [] => some []
  | (name, v) :: es => do
    let here ← match wanted name with
      | some t => (v.convert? t).map fun v => [(name, v)]
      | none => some []
    let rest ← convertFields? wanted es
    return here ++ rest

end

/-! ## Equality -/

mutual

/-- Whether a value holds one of which nothing is known. -/
def holdsUnknown : Value → Bool
  | unknown t => t.hasAny
  | list _ items => holdsUnknownAll items
  | map _ entries => holdsUnknownFields entries
  | tuple items => holdsUnknownAll items
  | object entries => holdsUnknownFields entries
  | _ => false

def holdsUnknownAll : List Value → Bool
  | [] => false
  | v :: vs => v.holdsUnknown || holdsUnknownAll vs

def holdsUnknownFields : List (Text × Value) → Bool
  | [] => false
  | (_, v) :: es => v.holdsUnknown || holdsUnknownFields es

end

mutual

/-- Whether two values are the same, if that is known. Two null values are, and values of
different types are not. -/
def same? : Value → Value → Option Bool
  | unknown _, unknown _ => none
  | unknown t, v => if v.isNull || t.hasAny || t.same v.type then none else some false
  | v, unknown t => if v.isNull || t.hasAny || t.same v.type then none else some false
  | null _, v => some v.isNull
  | v, null _ => some v.isNull
  | v, w =>
    if v.holdsUnknown || w.holdsUnknown then none
    else if !v.type.same w.type then some false
    else match v, w with
      | bool a, bool b => some (a == b)
      | number a, number b => some (a.same b)
      | text a, text b => some (a == b)
      | list _ as, list _ bs => sameAll? as bs
      | map _ as, map _ bs => sameFields? as bs
      | tuple as, tuple bs => sameAll? as bs
      | object as, object bs => sameFields? as bs
      | _, _ => some false

def sameAll? : List Value → List Value → Option Bool
  | [], [] => some true
  | a :: as, b :: bs =>
    match same? a b with
    | some true => sameAll? as bs
    | other => other
  | _, _ => some false

def sameFields? : List (Text × Value) → List (Text × Value) → Option Bool
  | [], [] => some true
  | (j, a) :: as, (k, b) :: bs =>
    if j != k then some false
    else match same? a b with
      | some true => sameFields? as bs
      | other => other
  | _, _ => some false

end

/-! ## Items -/

/-- The value of an attribute. -/
def attribute? (name : Text) : Value → Option Value
  | unknown .any => some (unknown .any)
  | unknown (.object fields) => (Ty.field? name.normal fields).map unknown
  | unknown (.map t) => some (unknown t)
  | object entries => (entries.find? (·.1 == name.normal)).map Prod.snd
  | map _ entries => (entries.find? (·.1 == name.normal)).map Prod.snd
  | _ => none

/-- The item of a tuple or a list with some type, at a number. -/
def itemAt? (items : List Value) (otherwise : Ty) (key : Value) : Option Value :=
  match key.convert? .number with
  | some (number n) => n.toNat?.bind fun i => items[i]?
  | some (unknown _) => some (unknown otherwise)
  | _ => none

/-- The value at an index or key. -/
def index? (v key : Value) : Option Value :=
  if v.isNull || key.isNull then none
  else match v, key with
    | unknown .any, _ => some (unknown .any)
    | _, unknown .any => some (unknown .any)
    | tuple items, key => itemAt? items .any key
    | list t items, key => itemAt? items t key
    | unknown (.tuple types), key => itemAt? (types.map unknown) .any key
    | unknown (.list t), key => (key.convert? .number).map fun _ => unknown t
    | map t entries, key =>
      match key.convert? .text with
      | some (text name) => (entries.find? (·.1 == name)).map Prod.snd
      | some _ => some (unknown t)
      | none => none
    | unknown (.map t), key => (key.convert? .text).map fun _ => unknown t
    | object entries, key =>
      match key.convert? .text with
      | some (text name) => (entries.find? (·.1 == name)).map Prod.snd
      | some _ => some (unknown .any)
      | none => none
    | unknown (.object _), key => (key.convert? .text).map fun _ => unknown .any
    | _, _ => none

/-- The items of a collection with their keys. -/
def keyed? : Value → Option (List (Value × Value))
  | list _ items => some (items.zipIdx.map fun (v, i) => (.number (.ofNat i), v))
  | tuple items => some (items.zipIdx.map fun (v, i) => (.number (.ofNat i), v))
  | map _ entries => some (entries.map fun (name, v) => (.text name, v))
  | object entries => some (entries.map fun (name, v) => (.text name, v))
  | _ => none

end Value
end TextTemplate.Hcl
