/-
Associations by name. A name map keeps its names in the order they came up; giving a name a new
value leaves it where it is.
-/
import TextTemplate.Text.Basic

namespace TextTemplate

/-- Associations by name, in the order the names came up. -/
abbrev NameMap (α : Type) := List (Text × α)

namespace NameMap

variable {α : Type}

def find? (m : NameMap α) (name : Text) : Option α := (List.find? (·.1 == name) m).map Prod.snd

/-- Gives a name a value, over the one it had. -/
def insert (m : NameMap α) (name : Text) (value : α) : NameMap α :=
  if m.any (·.1 == name) then m.map fun e => if e.1 == name then (name, value) else e
  else m ++ [(name, value)]

def erase (m : NameMap α) (name : Text) : NameMap α := m.filter (·.1 != name)

def names (m : NameMap α) : List Text := m.map Prod.fst

/-- A name with a value is one of the names. -/
theorem mem_names_of_find? {m : NameMap α} {name : Text} {value : α}
    (h : m.find? name = some value) : name ∈ m.names := by
  simp only [find?, Option.map_eq_some_iff] at h
  obtain ⟨e, he, _⟩ := h
  have hp := List.find?_some he
  simp only [beq_iff_eq] at hp
  exact List.mem_map.2 ⟨e, List.mem_of_find?_eq_some he, hp⟩

@[simp] theorem names_nil : names ([] : NameMap α) = [] := rfl

@[simp] theorem names_cons (e : Text × α) (m : NameMap α) : names (e :: m) = e.1 :: names m := rfl

@[simp] theorem names_append (m m' : NameMap α) : names (m ++ m') = names m ++ names m' :=
  List.map_append

theorem find?_eq_none_iff {m : NameMap α} {name : Text} : m.find? name = none ↔ name ∉ m.names := by
  simp only [find?, names, Option.map_eq_none_iff, List.find?_eq_none, List.mem_map, beq_iff_eq]
  constructor
  · rintro h ⟨e, he, hname⟩
    exact h e he hname
  · intro h e he hname
    exact h ⟨e, he, hname⟩

theorem find?_cons (e : Text × α) (m : NameMap α) (name : Text) :
    find? (e :: m) name = if e.1 = name then some e.2 else find? m name := by
  by_cases h : e.1 = name <;> simp [find?, h]

theorem find?_append (m m' : NameMap α) (name : Text) :
    find? (m ++ m') name = (find? m name).or (find? m' name) := by
  simp [find?, List.find?_append, Option.map_or]

theorem find?_concat {m : NameMap α} {name : Text} (h : name ∉ m.names) (value : α) :
    (m ++ [(name, value)]).find? name = some value := by
  rw [find?_append, find?_eq_none_iff.2 h]
  simp [find?_cons]

/-- Where no name comes twice, each entry is what its name stands for. -/
theorem find?_of_mem {m : NameMap α} {e : Text × α} (hnodup : m.names.Nodup) (he : e ∈ m) :
    m.find? e.1 = some e.2 := by
  induction m with
  | nil => cases he
  | cons f m ih =>
    obtain ⟨hf, hm⟩ := List.nodup_cons.1 hnodup
    rw [find?_cons]
    rcases List.mem_cons.1 he with rfl | he
    · simp
    · rw [if_neg, ih hm he]
      intro heq
      exact hf (heq ▸ List.mem_map_of_mem he)

/-! ## Giving a name a value, and taking it back -/

theorem any_iff_mem_names {m : NameMap α} {name : Text} :
    m.any (·.1 == name) = true ↔ name ∈ m.names := by
  simp [names]

/-- Replacing a value changes what its name stands for, and nothing else. -/
theorem find?_replace (m : NameMap α) (name other : Text) (value : α) :
    find? (m.map fun e => if e.1 == name then (name, value) else e) other =
      if other = name then (find? m other).map (fun _ => value) else find? m other := by
  induction m with
  | nil => simp [find?]
  | cons e m ih =>
    rw [List.map_cons, find?_cons, find?_cons, ih]
    by_cases he : e.1 = name
    · by_cases ho : other = name
      · simp [he, ho]
      · simp [he, ho, Ne.symm ho]
    · by_cases ho : other = name
      · simp [he, ho]
      · simp [he, ho]

@[simp] theorem find?_insert_self (m : NameMap α) (name : Text) (value : α) :
    (m.insert name value).find? name = some value := by
  unfold insert
  split
  · rename_i h
    rw [any_iff_mem_names] at h
    rw [find?_replace, if_pos rfl]
    cases hf : m.find? name with
    | none => exact absurd h (find?_eq_none_iff.1 hf)
    | some _ => rfl
  · rename_i h
    exact find?_concat (fun hm => h (any_iff_mem_names.2 hm)) value

theorem find?_insert_other {m : NameMap α} {name other : Text} {value : α} (h : other ≠ name) :
    (m.insert name value).find? other = m.find? other := by
  unfold insert
  split
  · rw [find?_replace, if_neg h]
  · rw [find?_append, find?_cons, if_neg (Ne.symm h)]
    cases m.find? other <;> rfl

@[simp] theorem find?_erase_self (m : NameMap α) (name : Text) :
    (m.erase name).find? name = none := by
  simp [find?, erase, List.find?_filter]

theorem find?_erase_other {m : NameMap α} {name other : Text} (h : other ≠ name) :
    (m.erase name).find? other = m.find? other := by
  simp only [find?, erase, List.find?_filter]
  congr 2
  funext e
  by_cases he : e.1 = other
  · simp [he, h]
  · simp [he]

/-- Giving a name another value puts it nowhere else. -/
theorem names_insert_of_mem {m : NameMap α} {name : Text} {value : α} (h : name ∈ m.names) :
    (m.insert name value).names = m.names := by
  rw [insert, if_pos (any_iff_mem_names.2 h), names, names, List.map_map]
  apply List.map_congr_left
  intro e _
  by_cases he : e.1 = name <;> simp [he]

theorem names_insert_of_not_mem {m : NameMap α} {name : Text} {value : α} (h : name ∉ m.names) :
    (m.insert name value).names = m.names ++ [name] := by
  rw [insert, if_neg (mt any_iff_mem_names.1 h)]
  simp

/-! ## Changing the values -/

section

variable {β : Type}

/-- The same names, each with its value changed. -/
def mapValues (g : α → β) (m : NameMap α) : NameMap β := m.map fun e => (e.1, g e.2)

variable (g : α → β) (m m' : NameMap α) (name : Text)

@[simp] theorem mapValues_nil : mapValues g ([] : NameMap α) = [] := rfl

@[simp] theorem mapValues_cons (e : Text × α) :
    mapValues g (e :: m) = (e.1, g e.2) :: m.mapValues g := rfl

@[simp] theorem mapValues_append : mapValues g (m ++ m') = m.mapValues g ++ m'.mapValues g :=
  List.map_append

@[simp] theorem names_mapValues : (m.mapValues g).names = m.names := by
  simp [mapValues, names]

@[simp] theorem find?_mapValues : (m.mapValues g).find? name = (m.find? name).map g := by
  induction m with
  | nil => rfl
  | cons e m ih =>
    rw [mapValues_cons, find?_cons, find?_cons]
    split
    · rfl
    · exact ih

theorem mapValues_insert (value : α) :
    (m.insert name value).mapValues g = (m.mapValues g).insert name (g value) := by
  have hany : (m.mapValues g).any (·.1 == name) = m.any (·.1 == name) := by
    simp [mapValues, Function.comp_def]
  unfold insert
  rw [hany]
  split
  · rw [mapValues, mapValues, List.map_map, List.map_map]
    apply List.map_congr_left
    intro e _
    by_cases he : e.1 = name <;> simp [he]
  · simp [mapValues]

theorem mapValues_erase : (m.erase name).mapValues g = (m.mapValues g).erase name := by
  simp [mapValues, erase, List.filter_map, Function.comp_def]

end

end NameMap

/-- The texts in increasing order. -/
def sortTexts (ts : List Text) : List Text := ts.mergeSort fun s t => !t.blt s

end TextTemplate
