/-
Types of values. A tuple and an object know each of their items; a list and a map have items of one
type. The type `any` is that of a value of which nothing is known, such as one that could not be
computed.

Some types convert into others, though a value may still refuse: a text becomes a number only if it
spells one. Types are unified by finding one that all of them convert into: a text is preferred to
other simple types and `any` comes last, tuples of one length are unified item by item, others into
lists, and so are objects with the same names, others into maps.
-/
import TextTemplate.Text.Basic

namespace TextTemplate.Hcl

/-- The type of a value. -/
inductive Ty where
  | any
  | bool
  | number
  | text
  | list (item : Ty)
  | map (item : Ty)
  | tuple (items : List Ty)
  /-- Names with their types, in the order of the names. -/
  | object (fields : List (Text × Ty))

namespace Ty

mutual

/-- Whether two types are the same. -/
def same : Ty → Ty → Bool
  | any, any => true
  | bool, bool => true
  | number, number => true
  | text, text => true
  | list a, list b => same a b
  | map a, map b => same a b
  | tuple as, tuple bs => sameAll as bs
  | object as, object bs => sameFields as bs
  | _, _ => false

def sameAll : List Ty → List Ty → Bool
  | [], [] => true
  | a :: as, b :: bs => same a b && sameAll as bs
  | _, _ => false

def sameFields : List (Text × Ty) → List (Text × Ty) → Bool
  | [], [] => true
  | (j, a) :: as, (k, b) :: bs => j == k && same a b && sameFields as bs
  | _, _ => false

end

mutual

/-- How deep a type is nested. -/
def depth : Ty → Nat
  | list a => a.depth + 1
  | map a => a.depth + 1
  | tuple as => depthAll as + 1
  | object as => depthFields as + 1
  | _ => 1

def depthAll : List Ty → Nat
  | [] => 0
  | a :: as => max a.depth (depthAll as)

def depthFields : List (Text × Ty) → Nat
  | [] => 0
  | (_, a) :: as => max a.depth (depthFields as)

end

mutual

/-- Whether `any` stands anywhere in a type. -/
def hasAny : Ty → Bool
  | any => true
  | list a => a.hasAny
  | map a => a.hasAny
  | tuple as => hasAnyAll as
  | object as => hasAnyFields as
  | _ => false

def hasAnyAll : List Ty → Bool
  | [] => false
  | a :: as => a.hasAny || hasAnyAll as

def hasAnyFields : List (Text × Ty) → Bool
  | [] => false
  | (_, a) :: as => a.hasAny || hasAnyFields as

end

def isAny : Ty → Bool
  | any => true
  | _ => false

def isList : Ty → Bool
  | list _ => true
  | _ => false

def isMap : Ty → Bool
  | map _ => true
  | _ => false

def isTuple : Ty → Bool
  | tuple _ => true
  | _ => false

def isObject : Ty → Bool
  | object _ => true
  | _ => false

/-- Whether values of a type have items. -/
def isCompound (t : Ty) : Bool := t.isList || t.isMap || t.isTuple || t.isObject

def isSimple (t : Ty) : Bool := !t.isAny && !t.isCompound

/-- The type of a name. -/
def field? (name : Text) (fields : List (Text × Ty)) : Option Ty :=
  (fields.find? (·.1 == name)).map Prod.snd

/-- The type of the items of a list or a map. -/
def item : Ty → Ty
  | list a => a
  | map a => a
  | _ => any

/-- The types of the items of a tuple or an object. -/
def items : Ty → List Ty
  | tuple as => as
  | object as => as.map Prod.snd
  | _ => []

/-- Whether the first of two types is preferred when types are unified. -/
def preferred : Ty → Ty → Bool
  | any, _ => false
  | _, any => true
  | text, text => false
  | text, b => b.isSimple
  | list a, list b => preferred a b
  | map a, map b => preferred a b
  | list _, tuple _ => true
  | map _, object _ => true
  | _, _ => false

/-- The types of a list in the order in which they are tried: one comes behind all that are
preferred to it. -/
def byPreference : (fuel : Nat) → List Ty → List Ty
  | 0, ts => ts
  | _ + 1, [] => []
  | fuel + 1, ts =>
    let (first, rest) := ts.partition fun t => !ts.any fun u => preferred u t
    first ++ byPreference fuel rest

def fields : Ty → List (Text × Ty)
  | object as => as
  | _ => []

mutual

/-- Whether values of a type convert into another type. -/
def converts : (fuel : Nat) → Ty → Ty → Bool
  | 0, _, _ => false
  | fuel + 1, a, b =>
    match a, b with
    | _, any => true
    | any, _ => true
    | number, text => true
    | bool, text => true
    | text, number => true
    | text, bool => true
    | object as, object bs =>
      bs.all fun (name, b) => (field? name as).any fun a => fits fuel a b
    | tuple as, tuple bs => as.length == bs.length && (as.zip bs).all fun (a, b) => fits fuel a b
    | list a, list b => fits fuel a b
    | map a, map b => fits fuel a b
    | tuple as, list b => allFit fuel as b
    | object as, map b => allFit fuel (as.map Prod.snd) b
    | map a, object bs => bs.all fun (_, b) => fits fuel a b
    | _, _ => false

/-- Whether values of a type have another type already or convert into it. -/
def fits : (fuel : Nat) → Ty → Ty → Bool
  | 0, _, _ => false
  | fuel + 1, a, b => same a b || converts fuel a b

/-- Whether items of some types convert into items of one type; for `any` they are unified. -/
def allFit : (fuel : Nat) → List Ty → Ty → Bool
  | 0, _, _ => false
  | fuel + 1, as, b =>
    as.isEmpty || match if b.isAny then unifyIn fuel as else some b with
      | some b => as.all fun a => fits fuel a b
      | none => false

/-- The type that types are unified into. -/
def unifyIn : (fuel : Nat) → List Ty → Option Ty
  | 0, _ => none
  | fuel + 1, ts =>
    let any? := ts.any isAny
    let only (p : Ty → Bool) : Bool := ts.any p && ts.all fun t => p t || t.isAny
    let both (p q : Ty → Bool) : Bool := ts.any p && ts.all fun t => p t || q t || t.isAny
    if ts.isEmpty then none
    else if (only isMap || only isList || only isObject || only isTuple) && any? then some .any
    else if only isMap then (unifyIn fuel (ts.map item)).map .map
    else if only isList then (unifyIn fuel (ts.map item)).map .list
    else if only isObject then unifyObjects fuel ts
    else if only isTuple then unifyTuples fuel ts
    else if both isMap isObject then
      match unifyAsItems fuel isObject .map ts with
      | some t => some t
      | none => firstFit fuel ts
    else if both isList isTuple then
      match unifyAsItems fuel isTuple .list ts with
      | some t => some t
      | none => firstFit fuel ts
    else if ts.any isObject && ts.any isTuple then none
    else firstFit fuel ts

/-- Unifies objects. -/
def unifyObjects : (fuel : Nat) → List Ty → Option Ty
  | 0, _ => none
  | fuel + 1, ts =>
    let names := (ts.headD .any).fields.map Prod.fst
    if ts.all fun t => t.fields.map Prod.fst == names then
      (names.mapM fun name => (unifyIn fuel (ts.filterMap fun t => field? name t.fields)).map
        fun t => (name, t)).map .object
    else unifyItems fuel .map ts

/-- Unifies tuples. -/
def unifyTuples : (fuel : Nat) → List Ty → Option Ty
  | 0, _ => none
  | fuel + 1, ts =>
    let length := (ts.headD .any).items.length
    if ts.all fun t => t.items.length == length then
      ((List.range length).mapM fun i => unifyIn fuel (ts.filterMap fun t => t.items[i]?)).map .tuple
    else unifyItems fuel .list ts

/-- Unifies tuples or objects into a list or a map by unifying all of their items. -/
def unifyItems : (fuel : Nat) → (Ty → Ty) → List Ty → Option Ty
  | 0, _, _ => none
  | fuel + 1, collection, ts =>
    match unifyIn fuel (ts.flatMap items) with
    | some t => if ts.all fun u => fits fuel u (collection t) then some (collection t) else none
    | none => none

/-- Unifies lists with tuples, or maps with objects, by making lists of the tuples first. -/
def unifyAsItems : (fuel : Nat) → (Ty → Bool) → (Ty → Ty) → List Ty → Option Ty
  | 0, _, _, _ => none
  | fuel + 1, known, collection, ts =>
    match unifyItems fuel collection (ts.filter known) with
    | some t =>
      let unified := unifyIn fuel (ts.map fun u => if known u then t else u)
      unified.filter fun u => u.isList || u.isMap
    | none => none

/-- The first type, in the order of preference, into which all convert. -/
def firstFit : (fuel : Nat) → List Ty → Option Ty
  | 0, _ => none
  | fuel + 1, ts => (byPreference ts.length ts).find? fun t => ts.all fun u => fits fuel u t

end

/-- Steps enough to unify types or to convert them; each level of nesting takes a few. -/
def fuel (ts : List Ty) : Nat := 8 * (depthAll ts + 2)

/-- Whether values of a type convert into another type. -/
def convertsTo (a b : Ty) : Bool := converts (fuel [a, b]) a b

/-- The type that types are unified into, if there is one. -/
def unify? (ts : List Ty) : Option Ty := unifyIn (fuel ts) ts

end Ty
end TextTemplate.Hcl
