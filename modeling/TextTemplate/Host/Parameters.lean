/-
Parameter values from outside. A value belongs to a key of processor, directive and name; it is
written `name=value`, `name!value`, `directive!name!value` or `processor!directive!name!value`, and
what is left out of the key is empty. A lookup takes the value of its exact key, then that of the
name alone.
-/
import TextTemplate.Text.Basic

namespace TextTemplate

/-- What a parameter value belongs to. -/
structure ParameterKey where
  processor : Text
  directive : Text
  name : Text
  deriving DecidableEq, Repr

namespace ParameterKey

/-- The key of a name alone. -/
def ofName (name : Text) : ParameterKey := ⟨[], [], name⟩

/-- Reads the part of a written value behind its first `!`, which stands behind `first`. -/
def readParts (first rest : Text) : ParameterKey × Text :=
  match Text.cut? 0x21 rest with
  | none => (ofName first, rest)
  | some (second, rest) =>
    match Text.cut? 0x21 rest with
    | none => (⟨[], first, second⟩, rest)
    | some (third, value) => (⟨first, second, third⟩, value)

/-- The key and value of a written value, as far as they can be told. -/
def read (s : Text) : ParameterKey × Text :=
  let first := s.takeWhile fun b => b != 0x3D && b != 0x21
  match s.drop first.length with
  | [] => (ofName [], [])
  | 0x3D :: value => (ofName first, value)
  | _ :: rest => readParts first rest

/-- The key and value of a written value; the name must not be empty. -/
def read? (s : Text) : Option (ParameterKey × Text) :=
  if (read s).1.name.isEmpty then none else some (read s)

end ParameterKey

/-- Parameter values by key. -/
abbrev ParameterTable := List (ParameterKey × Text)

namespace ParameterTable

def find? (t : ParameterTable) (key : ParameterKey) : Option Text :=
  (List.find? (·.1 = key) t).map Prod.snd

/-- Gives a key a value, over the one it had. -/
def insert (t : ParameterTable) (key : ParameterKey) (value : Text) : ParameterTable :=
  (key, value) :: t.filter (·.1 ≠ key)

/-- The value for a processor, directive and name. -/
def lookup (t : ParameterTable) (processor directive name : Text) : Option Text :=
  match t.find? ⟨processor, directive, name⟩ with
  | some value => some value
  | none => t.find? (.ofName name)

theorem lookup_eq (t : ParameterTable) (processor directive name : Text) :
    t.lookup processor directive name =
      (t.find? ⟨processor, directive, name⟩).or (t.find? (.ofName name)) := by
  rw [lookup]
  cases t.find? ⟨processor, directive, name⟩ with
  | none => rfl
  | some value => rfl

@[simp]
theorem find?_insert_self (t : ParameterTable) (key : ParameterKey) (value : Text) :
    (t.insert key value).find? key = some value := by
  simp [find?, insert]

theorem find?_insert_other {t : ParameterTable} {key other : ParameterKey} {value : Text}
    (h : other ≠ key) : (t.insert key value).find? other = t.find? other := by
  simp only [find?, insert]
  rw [List.find?_cons_of_neg (by simpa using Ne.symm h), List.find?_filter]
  congr 2
  funext e
  by_cases he : e.1 = other
  · simp [he, h]
  · simp [he]

end ParameterTable
end TextTemplate
