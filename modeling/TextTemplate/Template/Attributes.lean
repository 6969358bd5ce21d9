/-
Attributes of a directive: names with values. A name is found whatever its letter case, the last
setting of a name gives its value and its spelling, and the listing is ordered by the lower-cased
names, so it does not depend on the order of the settings.
-/
import TextTemplate.Text.Case
import TextTemplate.Text.Blank

namespace TextTemplate

/-- A name as it was written, and its value. -/
structure Attribute where
  name : Text
  value : Text
  deriving DecidableEq, Repr

/-- What an attribute is found by. -/
def Attribute.key (a : Attribute) : Text := a.name.lower

/-- The attributes of a directive, increasing by key. -/
structure Attributes where
  entries : List Attribute
  deriving DecidableEq, Repr

namespace Attributes

def empty : Attributes := ⟨[]⟩

/-- The value of a name. -/
def get? (as : Attributes) (name : Text) : Option Text :=
  (as.entries.find? (·.key == name.lower)).map Attribute.value

/-- Puts an attribute at its place, over one of the same key. -/
def insert (a : Attribute) : List Attribute → List Attribute
  | [] => [a]
  | b :: bs =>
    if a.key = b.key then a :: bs
    else if a.key.blt b.key then a :: b :: bs
    else b :: insert a bs

/-- Gives a name a value, and this spelling. -/
def set (as : Attributes) (name value : Text) : Attributes := ⟨insert ⟨name, value⟩ as.entries⟩

def erase (as : Attributes) (name : Text) : Attributes :=
  ⟨as.entries.filter (·.key != name.lower)⟩

/-- The names as they were written, increasing by their lower-cased form. -/
def names (as : Attributes) : List Text := as.entries.map Attribute.name

/-- The attributes set one after the other. -/
def ofList (pairs : List (Text × Text)) : Attributes :=
  pairs.foldl (fun as (name, value) => as.set name value) empty

def toList (as : Attributes) : List (Text × Text) := as.entries.map fun a => (a.name, a.value)

/-- Takes an attribute out and gives its value, if it was there. -/
def extract? (as : Attributes) (name : Text) : Option Text × Attributes :=
  match as.get? name with
  | some value => (some value, as.erase name)
  | none => (none, as)

/-- Takes an attribute out; `default` stands for its value when it was not there. -/
def extractOr (as : Attributes) (name default : Text) : Text × Attributes :=
  let (value, rest) := as.extract? name
  (value.getD default, rest)

end Attributes

/-- Reads `true` or `false` in any letter case, with blanks around it. -/
def readBool? (s : Text) : Option Bool :=
  let word := s.trim.lower
  if word = utf8 "true" then some true
  else if word = utf8 "false" then some false
  else none

/-- What is said of a text that is neither true nor false. -/
def invalidBool : Text := utf8 "invalid boolean value"

end TextTemplate
