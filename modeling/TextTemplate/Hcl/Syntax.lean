/-
Expressions, and the attributes and blocks they stand in. A template is the list of its parts. There
are no functions, so a call is an expression without a value.
-/
import TextTemplate.Hcl.Value

namespace TextTemplate.Hcl

inductive UnaryOp where
  | neg
  | not
  deriving DecidableEq, Repr

inductive BinaryOp where
  | or
  | and
  | eq
  | ne
  | lt
  | le
  | gt
  | ge
  | add
  | sub
  | mul
  | div
  | mod
  deriving DecidableEq, Repr

/-- An expression. -/
inductive Expr where
  | literal (v : Value)
  /-- Texts and values one after the other. -/
  | template (parts : List Expr)
  /-- An expression in parentheses, or the only part of a template. -/
  | wrapped (e : Expr)
  | tuple (items : List Expr)
  | object (entries : List (Expr × Expr))
  | variableRef (name : Text)
  /-- The item a splat is at. -/
  | item
  | attribute (e : Expr) (name : Text)
  | index (e key : Expr)
  /-- What `each` gives for each item of `e`. -/
  | splat (e each : Expr)
  | unary (op : UnaryOp) (e : Expr)
  | binary (op : BinaryOp) (a b : Expr)
  | conditional (condition a b : Expr)
  /-- What `valueExpr` gives for each item for which the condition holds. With a key expression it
  makes an object, in which `group` gathers the values of one key. -/
  | forEach (key : Option Text) (value : Text) (items : Expr) (keyExpr : Option Expr)
      (valueExpr : Expr) (group : Bool) (condition : Option Expr)
  /-- The texts of the items of a tuple, one after the other. -/
  | joined (items : Expr)
  /-- An expression that has no value. -/
  | invalid

namespace Expr

/-- Whether an expression is written down as a value. -/
def isConstant : Expr → Bool
  | .literal _ => true
  | .template [.literal _] => true
  | _ => false

/-- Whether an expression is a variable with attributes and constant indexes behind it. -/
def isPath : Expr → Bool
  | .variableRef _ => true
  | .attribute e _ => e.isPath
  | .index e key => e.isPath && key.isConstant
  | _ => false

/-- What an expression means as a key of an object: a word stands for itself, and a longer path has
no value, since it may mean either. -/
def asKey : Expr → Expr
  | .variableRef name => .literal (.ofText name)
  | .literal (.bool b) => .literal (.text (utf8 (if b then "true" else "false")))
  | .literal (.null _) => .literal (.text (utf8 "null"))
  | e => if e.isPath then .invalid else e

end Expr

/-! ## Bodies -/

mutual

/-- What a file or a block holds. -/
inductive Body where
  | mk (attributes : List (Text × Expr)) (blocks : List Block)

inductive Block where
  | mk (type : Text) (labels : List Text) (body : Body)

end

namespace Body

def empty : Body := ⟨[], []⟩

def attributes : Body → List (Text × Expr)
  | mk attributes _ => attributes

def blocks : Body → List Block
  | mk _ blocks => blocks

/-- Adds an attribute, which must not be there yet. -/
def addAttribute? (b : Body) (name : Text) (e : Expr) : Option Body :=
  if b.attributes.any (·.1 == name) then none else some ⟨b.attributes ++ [(name, e)], b.blocks⟩

def addBlock (b : Body) (block : Block) : Body := ⟨b.attributes, b.blocks ++ [block]⟩

end Body

namespace Block

def type : Block → Text
  | mk type _ _ => type

def labels : Block → List Text
  | mk _ labels _ => labels

def body : Block → Body
  | mk _ _ body => body

end Block
end TextTemplate.Hcl
