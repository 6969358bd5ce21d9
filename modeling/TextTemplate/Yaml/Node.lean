/-
Documents as trees of scalars, sequences, mappings and aliases. An alias stands for a node that was
named before it.
-/
import TextTemplate.Text.Base64
import TextTemplate.Yaml.Scalar

namespace TextTemplate.Yaml

/-- A node of a document. -/
inductive Node where
  /-- A scalar with its tag, empty when it has none, and whether it stands without quotes. -/
  | scalar (tag : Text) (plain : Bool) (value : Text)
  | sequence (items : List Node)
  | mapping (tag : Text) (entries : List (Node × Node))
  | alias (name : Text) (target : Node)

namespace Node

/-- The empty node. -/
def null : Node := .scalar [] true []

def nullTag : Text := utf8 "!!null"

/-- The node that is meant. -/
def target : Node → Node
  | .alias _ n => n.target
  | n => n

/-- What a scalar stands for, and its text; none for other nodes and for a scalar whose tag says
what it is not. Under a tag of no standard type it is a text. -/
def scalar? (n : Node) : Option (Meaning × Text) :=
  match n.target with
  | .scalar tag plain value =>
    let found := meaning value
    let given (fits : Bool) : Option (Meaning × Text) := if fits then some (found, value) else none
    if tag.isEmpty || tag = utf8 "!" then some (if plain then found else .text, value)
    else if tag = utf8 "!!str" then some (.text, value)
    else if tag = nullTag then given (found = .null)
    else if tag = utf8 "!!bool" then given (found matches .bool _)
    else if tag = utf8 "!!int" then given (found matches .integer _)
    else if tag = utf8 "!!float" then given (found = .real || found = .integer false)
    else if tag = utf8 "!!timestamp" then given (found = .time)
    else if tag = utf8 "!!binary" then (Text.ofBase64? value).map (.text, ·)
    else some (.text, value)
  | _ => none

end Node
end TextTemplate.Yaml
