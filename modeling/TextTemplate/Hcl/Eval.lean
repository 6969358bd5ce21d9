/-
What expressions stand for. An expression that fails still has a value, if only an unknown one, for
two reasons: the type of the choice that is not taken counts for the one that is, while its failure
does not, and the condition of a comprehension is tried out before its items are known.
-/
import TextTemplate.Hcl.Syntax

namespace TextTemplate.Hcl

/-- The value of an expression, and whether something failed on the way to it. -/
structure Outcome where
  value : Value
  failed : Bool

namespace Outcome

def ok (v : Value) : Outcome := ⟨v, false⟩

/-- A failure after which only a type is known. -/
def failure (t : Ty) : Outcome := ⟨.unknown t, true⟩

/-- The value, or the failure that there is none. -/
def ofOption (t : Ty) : Option Value → Outcome
  | some v => ok v
  | none => failure t

/-- Fails if something failed before. -/
def after (failedBefore : Bool) (o : Outcome) : Outcome := ⟨o.value, failedBefore || o.failed⟩

end Outcome

/-- What names stand for, the innermost first. -/
structure Scope where
  names : List (Text × Value)
  /-- The item a splat is at. -/
  item : Value

namespace Scope

def ofVariables (names : List (Text × Value)) : Scope := ⟨names, .unknown .any⟩

def find? (scope : Scope) (name : Text) : Option Value :=
  (scope.names.find? (·.1 == name)).map Prod.snd

/-- The scope in which a comprehension is at an item. -/
def atItem (scope : Scope) (key : Option Text) (value : Text) (item : Value × Value) : Scope :=
  { scope with
    names := (value, item.2) :: ((key.map (·, item.1)).toList ++ scope.names) }

/-- The scope in which a splat is at an item. -/
def atSplat (scope : Scope) (item : Value) : Scope := { scope with item }

end Scope

/-! ## Operators -/

/-- The type an operator asks for and the one it gives. -/
def BinaryOp.types : BinaryOp → Ty × Ty
  | or | and => (.bool, .bool)
  | eq | ne => (.any, .bool)
  | lt | le | gt | ge => (.number, .bool)
  | add | sub | mul | div | mod => (.number, .number)

def UnaryOp.type : UnaryOp → Ty
  | neg => .number
  | not => .bool

/-- The value of an operation on two numbers. -/
def BinaryOp.onNumbers (op : BinaryOp) (a b : Number) : Option Value :=
  match op with
  | lt => some (.bool (a.lt b))
  | le => some (.bool (a.lt b || a.same b))
  | gt => some (.bool (b.lt a))
  | ge => some (.bool (b.lt a || a.same b))
  | add => (a.add? b).map .number
  | sub => (a.sub? b).map .number
  | mul => (a.mul? b).map .number
  | div => (a.div? b).map .number
  | mod => (a.mod? b).map .number
  | _ => none

/-- The value of an operation on values of the type it asks for. -/
def BinaryOp.apply (op : BinaryOp) (a b : Value) : Option Value :=
  let equality (wanted : Bool) : Value := match a.same? b with
    | some r => .bool (r == wanted)
    | none => .unknown .bool
  match op, a, b with
  | eq, _, _ => some (equality true)
  | ne, _, _ => some (equality false)
  | or, .bool a, .bool b => some (.bool (a || b))
  | and, .bool a, .bool b => some (.bool (a && b))
  | op, .number a, .number b => op.onNumbers a b
  | op, a, b => if a.isNull || b.isNull then none else some (.unknown op.types.2)

/-- The value of an operation on two values. -/
def BinaryOp.eval (op : BinaryOp) (a b : Outcome) : Outcome :=
  let (wanted, given) := op.types
  match a.value.convert? wanted, b.value.convert? wanted with
  | some x, some y =>
    if a.failed || b.failed then .failure given else .ofOption given (op.apply x y)
  | _, _ => .failure given

def UnaryOp.eval (op : UnaryOp) (o : Outcome) : Outcome :=
  match op, o.failed, o.value.convert? op.type with
  | neg, false, some (.number n) => .ok (.number n.neg)
  | not, false, some (.bool b) => .ok (.bool (!b))
  | op, false, some (.unknown _) => .ok (.unknown op.type)
  | op, _, _ => .failure op.type

/-! ## Choices -/

/-- The type of a choice between two values, and how the one that is taken becomes it. A null that
is written down takes the type of the other. -/
def choice? (a b : Value) : Option (Ty × (Value → Option Value)) :=
  match a, b with
  | .null .any, b => some (b.type, Value.convert? b.type)
  | a, .null .any => some (a.type, Value.convert? a.type)
  | a, b =>
    (Ty.unify? [a.type, b.type]).map fun t =>
      if t.isAny && (a.type.isCompound || b.type.isCompound) then
        (t, fun _ => some (.unknown .any))
      else (t, Value.convert? t)

/-- The value of a choice. Only a failure of what is taken counts. -/
def choose (condition a b : Outcome) : Outcome :=
  match choice? a.value b.value with
  | none => .failure .any
  | some (t, convert) =>
    if condition.value.isNull then .failure t
    else if condition.value.isUnknown then ⟨.unknown t, condition.failed⟩
    else match condition.value.convert? .bool with
      | some (.bool first) =>
        let taken := if first then a else b
        (Outcome.ofOption t (convert taken.value)).after (condition.failed || taken.failed)
      | _ => .failure t

/-! ## Gathering -/

/-- The values of outcomes, and whether one of them failed. -/
def gather (os : List Outcome) : List Value × Bool := (os.map Outcome.value, os.any Outcome.failed)

/-- The state of a template that is put together. -/
structure Joining where
  text : Text
  known : Bool
  failed : Bool

/-- Adds a part to a template. -/
def Joining.add (j : Joining) (part : Outcome) : Joining :=
  let failed := j.failed || part.failed
  if part.value.isNull then { j with failed := true }
  else if part.value.isUnknown then { j with known := false, failed }
  else match part.value.convert? .text with
    | some (.text s) => { j with text := if j.known && !failed then j.text ++ s else j.text, failed }
    | _ => { j with failed := true }

/-- The text of parts one after the other. -/
def joinParts (parts : List Outcome) : Outcome :=
  let j := parts.foldl Joining.add ⟨[], true, false⟩
  ⟨if j.known then .ofText j.text else .unknown .text, j.failed⟩

/-- An entry of an object: its key as a text, none when that is not known. -/
def entryKey (key : Outcome) : Option Text × Bool :=
  if key.failed || key.value.isNull then (none, true)
  else match key.value.convert? .text with
    | some (.text s) => (some s, false)
    | some _ => (none, false)
    | none => (none, true)

/-- The object of some entries; when a key is not known nothing of it is. -/
def makeObject (entries : List (Outcome × Outcome)) : Outcome :=
  let keys := entries.map fun (key, _) => entryKey key
  let failed := keys.any Prod.snd || entries.any fun (_, v) => v.failed
  match keys.mapM Prod.fst with
  | some names => ⟨.ofEntries (names.zip (entries.map fun (_, v) => v.value)), failed⟩
  | none => ⟨.unknown .any, failed⟩

/-- An item of a comprehension: left out, not known, or a value, which has a key in an object. -/
inductive Gathered where
  | skipped (failed : Bool)
  | unclear (failed : Bool)
  | value (key : Text) (o : Outcome) (failed : Bool)

namespace Gathered

def failed : Gathered → Bool
  | skipped f => f
  | unclear f => f
  | value _ o f => f || o.failed

def isUnclear : Gathered → Bool
  | unclear _ => true
  | _ => false

def entry? : Gathered → Option (Text × Value)
  | value key o _ => some (key, o.value)
  | _ => none

/-- What the condition of a comprehension says of an item. -/
def ofCondition (condition : Outcome) (taken : Bool → Gathered) : Gathered :=
  if condition.value.isNull then unclear true
  else match condition.value.convert? .bool with
    | some (.bool true) => taken condition.failed
    | some (.bool false) => skipped condition.failed
    | some _ => unclear condition.failed
    | none => unclear true

/-- The tuple of what items give. -/
def tuple (gs : List Gathered) : Outcome :=
  let failed := gs.any Gathered.failed
  if gs.any isUnclear then ⟨.unknown .any, failed⟩
  else ⟨.tuple (gs.filterMap fun g => g.entry?.map Prod.snd), failed⟩

/-- The values of one key, for each key. -/
def groups (entries : List (Text × Value)) : List (Text × Value) :=
  let names := (entries.map Prod.fst).eraseDups
  names.map fun name =>
    (name, .tuple ((entries.filter (·.1 == name)).map Prod.snd))

/-- The object of what items give. No key may come twice unless values are grouped. -/
def object (group : Bool) (gs : List Gathered) : Outcome :=
  let failed := gs.any Gathered.failed
  let entries := gs.filterMap entry?
  let names := entries.map Prod.fst
  if gs.any isUnclear then ⟨.unknown .any, failed⟩
  else if group then ⟨.ofEntries (groups entries), failed⟩
  else ⟨.ofEntries entries.reverse, failed || names.eraseDups.length != names.length⟩

end Gathered

/-- What a splat goes through: the items of a tuple or a list, nothing for null, and otherwise the
value alone. -/
inductive Splat where
  | items (vs : List Value)
  | list (item : Ty) (vs : List Value)
  | unknownItems (types : List Ty)
  | unknownList (item : Ty)
  | alone (v : Value)
  | nothing
  | unclear
  | bad

def Splat.ofValue : Value → Splat
  | .tuple vs => items vs
  | .list t vs => list t vs
  | .null (.tuple _) => bad
  | .null (.list _) => bad
  | .null _ => nothing
  | .unknown .any => unclear
  | .unknown (.tuple ts) => unknownItems ts
  | .unknown (.list t) => unknownList t
  | v => alone v

/-- The value of a splat, given what it does with an item. -/
def Splat.eval (each : Value → Outcome) : Splat → Outcome
  | items vs =>
    let (results, failed) := gather (vs.map each)
    if failed then ⟨.unknown (.tuple (vs.map fun v => (each (.unknown v.type)).value.type)), true⟩
    else .ok (.tuple results)
  | list t vs =>
    let (results, failed) := gather (vs.map each)
    let one := each (.unknown t)
    if failed then ⟨.unknown (.list one.value.type), true⟩
    else match results with
      | [] => ⟨.list one.value.type [], one.failed⟩
      | v :: _ => .ok (.list v.type results)
  | unknownItems ts =>
    let os := ts.map fun t => each (.unknown t)
    ⟨.unknown (.tuple (os.map fun o => o.value.type)), os.any Outcome.failed⟩
  | unknownList t =>
    let o := each (.unknown t)
    ⟨.unknown (.list o.value.type), o.failed⟩
  | alone v =>
    let o := each v
    if v.isUnknown then ⟨.unknown .any, o.failed⟩
    else if o.failed then ⟨.unknown (.tuple [(each (.unknown v.type)).value.type]), true⟩
    else .ok (.tuple [o.value])
  | nothing => .ok (.tuple [])
  | unclear => .ok (.unknown .any)
  | bad => .failure .any

/-! ## Expressions -/

mutual

/-- The value of an expression. -/
def Expr.eval (scope : Scope) : Expr → Outcome
  | .literal v => .ok v
  | .template parts => joinParts (evalAll scope parts)
  | .wrapped e => e.eval scope
  | .tuple items =>
    let (vs, failed) := gather (evalAll scope items)
    ⟨.tuple vs, failed⟩
  | .object entries => makeObject (evalEntries scope entries)
  | .variableRef name => .ofOption .any (scope.find? name)
  | .item => .ok scope.item
  | .attribute e name =>
    let o := e.eval scope
    (Outcome.ofOption .any (o.value.attribute? name)).after o.failed
  | .index e key =>
    let o := e.eval scope
    let k := key.eval scope
    (Outcome.ofOption .any (o.value.index? k.value)).after (o.failed || k.failed)
  | .splat e each =>
    let o := e.eval scope
    if o.failed then .failure .any
    else (Splat.ofValue o.value).eval fun item => each.eval (scope.atSplat item)
  | .unary op e => op.eval (e.eval scope)
  | .binary op a b => op.eval (a.eval scope) (b.eval scope)
  | .conditional c a b => choose (c.eval scope) (a.eval scope) (b.eval scope)
  | .forEach key value items keyExpr valueExpr group condition =>
    let o := items.eval scope
    let inner := scope.atItem key value
    let nothing := inner (.unknown .any, .unknown .any)
    if o.value.isUnknown && (o.value.type.isAny || o.value.type.isCompound) then
      ⟨.unknown .any, o.failed⟩
    else match o.value.keyed? with
      | none => .failure .any
      | some items =>
        let trial := match condition with
          | none => Outcome.ok (.bool true)
          | some c => c.eval nothing
        if trial.value.isNull || trial.failed || (trial.value.convert? .bool).isNone then
          .failure .any
        else
          let gathered := items.map fun item =>
            let taken (failed : Bool) : Gathered :=
              match keyExpr with
              | none => .value [] (valueExpr.eval (inner item)) failed
              | some k =>
                let k := k.eval (inner item)
                if k.value.isUnknown then .unclear (failed || k.failed)
                else match k.value.isNull, k.value.convert? .text with
                  | false, some (.text name) =>
                    .value name (valueExpr.eval (inner item)) (failed || k.failed)
                  | _, _ => .unclear true
            match condition with
            | none => taken false
            | some c => .ofCondition (c.eval (inner item)) taken
          let made := if keyExpr.isSome then Gathered.object group gathered
            else Gathered.tuple gathered
          made.after o.failed
  | .joined items =>
    let o := items.eval scope
    match o.value with
    | .tuple vs => (joinParts (vs.map Outcome.ok)).after o.failed
    | _ => ⟨.unknown .text, o.failed⟩
  | .invalid => .failure .any

def evalAll (scope : Scope) : List Expr → List Outcome
  | [] => []
  | e :: es => e.eval scope :: evalAll scope es

def evalEntries (scope : Scope) : List (Expr × Expr) → List (Outcome × Outcome)
  | [] => []
  | (k, v) :: es => (k.eval scope, v.eval scope) :: evalEntries scope es

end

/-- The value of an expression as one of a type, none when something failed. -/
def Expr.evalAs? (scope : Scope) (wanted : Ty) (e : Expr) : Option Value :=
  let o := e.eval scope
  if o.failed then none else o.value.convert? wanted

end TextTemplate.Hcl
