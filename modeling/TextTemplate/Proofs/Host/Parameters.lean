/-
Parameter values: how written values are read, and which value a lookup finds.

A written value is read at its separators from the left: the first one decides between `=` and `!`,
and with `!` the number of further ones decides between the three forms that are left. `Spells` says
what the forms are without reading anything; reading is its inverse (`read?_eq_some_iff`), since
each form says at which separators it is cut (`Text.cut?_eq_some_iff`).

A table answers for a key with the value it was given last (`find?_foldl_run`), and a lookup takes
the answer for the exact key, then that for the name alone.
-/
import TextTemplate.Host.Basic
import TextTemplate.Proofs.Text.Basic

namespace TextTemplate

/-! ## Reading -/

namespace ParameterKey

/-- The written forms of a parameter value, with the key and the value that each stands for. -/
inductive Spells : Text → ParameterKey → Text → Prop where
  | full {p d n : Text} (hp : 0x3D ∉ p ∧ 0x21 ∉ p) (hd : 0x21 ∉ d) (hn : n ≠ [] ∧ 0x21 ∉ n)
    (v : Text) : Spells (p ++ 0x21 :: (d ++ 0x21 :: (n ++ 0x21 :: v))) ⟨p, d, n⟩ v
  | ofDirective {d n v : Text} (hd : 0x3D ∉ d ∧ 0x21 ∉ d) (hn : n ≠ [] ∧ 0x21 ∉ n)
    (hv : 0x21 ∉ v) : Spells (d ++ 0x21 :: (n ++ 0x21 :: v)) ⟨[], d, n⟩ v
  | ofName {n v : Text} (hn : n ≠ [] ∧ 0x3D ∉ n ∧ 0x21 ∉ n) (hv : 0x21 ∉ v) :
    Spells (n ++ 0x21 :: v) (ofName n) v
  | equated {n : Text} (hn : n ≠ [] ∧ 0x3D ∉ n ∧ 0x21 ∉ n) (v : Text) :
    Spells (n ++ 0x3D :: v) (ofName n) v

variable {s u value : Text} {key : ParameterKey}

/-- A text holds neither separator, or it is cut at the first of either. -/
theorem separators_cases (s : Text) : (0x3D ∉ s ∧ 0x21 ∉ s) ∨
    ∃ u v, (0x3D ∉ u ∧ 0x21 ∉ u) ∧ (s = u ++ 0x3D :: v ∨ s = u ++ 0x21 :: v) := by
  induction s with
  | nil => exact .inl ⟨List.not_mem_nil, List.not_mem_nil⟩
  | cons b s ih =>
    by_cases hequals : b = 0x3D
    · exact .inr ⟨[], s, ⟨List.not_mem_nil, List.not_mem_nil⟩, .inl (by rw [hequals]; rfl)⟩
    by_cases hmark : b = 0x21
    · exact .inr ⟨[], s, ⟨List.not_mem_nil, List.not_mem_nil⟩, .inr (by rw [hmark]; rfl)⟩
    have hcons {t : Text} (ht : 0x3D ∉ t ∧ 0x21 ∉ t) : 0x3D ∉ b :: t ∧ 0x21 ∉ b :: t := by
      simp [Ne.symm hequals, Ne.symm hmark, ht]
    rcases ih with hfree | ⟨u, v, hu, rfl | rfl⟩
    · exact .inl (hcons hfree)
    · exact .inr ⟨b :: u, v, hcons hu, .inl rfl⟩
    · exact .inr ⟨b :: u, v, hcons hu, .inr rfl⟩

theorem takeWhile_separators (hu : 0x3D ∉ u ∧ 0x21 ∉ u) (rest : Text) :
    (u ++ rest).takeWhile (fun b => b != 0x3D && b != 0x21) =
      u ++ rest.takeWhile (fun b => b != 0x3D && b != 0x21) := by
  apply List.takeWhile_append_of_pos
  intro b hb
  have hequals : b ≠ 0x3D := fun h => hu.1 (h ▸ hb)
  have hmark : b ≠ 0x21 := fun h => hu.2 (h ▸ hb)
  simp [hequals, hmark]

theorem read_of_not_mem (hs : 0x3D ∉ s ∧ 0x21 ∉ s) : read s = (ofName [], []) := by
  have hall := takeWhile_separators hs []
  rw [List.append_nil, List.takeWhile_nil, List.append_nil] at hall
  simp [read, hall]

theorem read_equals (hu : 0x3D ∉ u ∧ 0x21 ∉ u) (v : Text) :
    read (u ++ 0x3D :: v) = (ofName u, v) := by
  have hfirst := takeWhile_separators hu (0x3D :: v)
  simp [read, hfirst]

theorem read_mark (hu : 0x3D ∉ u ∧ 0x21 ∉ u) (v : Text) :
    read (u ++ 0x21 :: v) = readParts u v := by
  have hfirst := takeWhile_separators hu (0x21 :: v)
  simp [read, hfirst]

theorem read?_of_read (h : read s = (key, value)) (hname : key.name ≠ []) :
    read? s = some (key, value) := by
  simp [read?, h, hname]

/-- **The forms are what is read**: each with its parts, and nothing besides. -/
theorem read?_eq_some_iff : read? s = some (key, value) ↔ Spells s key value := by
  constructor
  · intro h
    obtain ⟨hname, hread⟩ : (read s).1.name ≠ [] ∧ read s = (key, value) := by
      simpa [read?] using h
    rcases separators_cases s with hfree | ⟨u, v, hu, rfl | rfl⟩
    · rw [read_of_not_mem hfree] at hname
      exact absurd rfl hname
    · rw [read_equals hu] at hname hread
      cases hread
      exact .equated ⟨hname, hu⟩ _
    rw [read_mark hu, readParts] at hname hread
    -- the marks behind the first one decide between the forms
    cases hsecond : Text.cut? 0x21 v with
    | none =>
      simp only [hsecond] at hname hread
      cases hread
      exact .ofName ⟨hname, hu⟩ (Text.cut?_eq_none_iff.1 hsecond)
    | some parts =>
      obtain ⟨second, rest⟩ := parts
      obtain ⟨hmark, rfl⟩ := Text.cut?_eq_some_iff.1 hsecond
      cases hthird : Text.cut? 0x21 rest with
      | none =>
        simp only [hsecond, hthird] at hname hread
        cases hread
        exact .ofDirective hu ⟨hname, hmark⟩ (Text.cut?_eq_none_iff.1 hthird)
      | some parts =>
        obtain ⟨third, value⟩ := parts
        obtain ⟨hmark', rfl⟩ := Text.cut?_eq_some_iff.1 hthird
        simp only [hsecond, hthird] at hname hread
        cases hread
        exact .full hu hmark ⟨hname, hmark'⟩ _
  · intro h
    cases h with
    | full hp hd hn =>
      refine read?_of_read ?_ hn.1
      simp [read_mark hp, readParts, Text.cut?_append_cons hd, Text.cut?_append_cons hn.2]
    | ofDirective hd hn hv =>
      refine read?_of_read ?_ hn.1
      simp [read_mark hd, readParts, Text.cut?_append_cons hn.2, Text.cut?_eq_none_iff.2 hv]
    | ofName hn hv =>
      refine read?_of_read ?_ hn.1
      simp [read_mark hn.2, readParts, Text.cut?_eq_none_iff.2 hv]
    | equated hn => exact read?_of_read (read_equals hn.2 value) hn.1

/-- **Written values are read unambiguously.** What is read of a text are the parts of a form it is
written in; it is written in at most one way, and refused exactly if it is written in none. -/
theorem read?_unambiguous :
    (∀ s key value, read? s = some (key, value) ↔ Spells s key value) ∧
      (∀ s key value key' value', Spells s key value → Spells s key' value' →
        key = key' ∧ value = value') ∧
      ∀ s, read? s = none ↔ ∀ key value, ¬Spells s key value := by
  refine ⟨fun s key value => read?_eq_some_iff, fun s key value key' value' h h' => ?_,
    fun s => ?_⟩
  · have hboth := (read?_eq_some_iff.2 h).symm.trans (read?_eq_some_iff.2 h')
    simpa using hboth
  · simp only [Option.eq_none_iff_forall_ne_some, Prod.forall, ne_eq, read?_eq_some_iff]

/-- A value may hold both separators, behind the form that takes all the rest. -/
example : read? (utf8 "p!d!n!v=w!x") = some (⟨utf8 "p", utf8 "d", utf8 "n"⟩, utf8 "v=w!x") := by
  decide +kernel

end ParameterKey

/-! ## Looking up -/

/-- A call that gives a host a parameter value, by its key or as it is written. -/
inductive ParameterCall where
  | add (key : ParameterKey) (value : Text)
  | tryAdd (written : Text)
  deriving DecidableEq, Repr

namespace ParameterCall

variable {σ : Type}

/-- The value that a call gives a key; a text that is no written value gives none. -/
def given? (key : ParameterKey) : ParameterCall → Option Text
  | add key' value => if key' = key then some value else none
  | tryAdd written =>
    (ParameterKey.read? written).bind fun (key', value) => if key' = key then some value else none

/-- The value that calls gave a key last. -/
def lastGiven? (calls : List ParameterCall) (key : ParameterKey) : Option Text :=
  calls.reverse.findSome? (given? key)

/-- The host after a call. -/
def run (h : Host σ) : ParameterCall → Host σ
  | add key value => h.addParameter key value
  | tryAdd written => (h.addParameter? written).getD h

theorem lastGiven?_cons (c : ParameterCall) (calls : List ParameterCall) (key : ParameterKey) :
    lastGiven? (c :: calls) key = (lastGiven? calls key).or (c.given? key) := by
  simp [lastGiven?, List.findSome?_append]

theorem find?_addParameter (h : Host σ) (key key' : ParameterKey) (value : Text) :
    (h.addParameter key' value).parameters.find? key =
      (if key' = key then some value else none).or (h.parameters.find? key) := by
  by_cases hkey : key' = key
  · rw [hkey, if_pos rfl]
    exact ParameterTable.find?_insert_self h.parameters key value
  · rw [if_neg hkey]
    exact ParameterTable.find?_insert_other (Ne.symm hkey)

/-- **One call**: the key that is given a value has it, all others keep theirs. -/
theorem find?_run (h : Host σ) (c : ParameterCall) (key : ParameterKey) :
    (c.run h).parameters.find? key = (c.given? key).or (h.parameters.find? key) := by
  cases c with
  | add key' value => exact find?_addParameter h key key' value
  | tryAdd written =>
    rw [run, Host.addParameter?, given?]
    cases ParameterKey.read? written with
    | none => rfl
    | some entry => exact find?_addParameter h key entry.1 entry.2

theorem find?_foldl_run (h : Host σ) (calls : List ParameterCall) (key : ParameterKey) :
    (calls.foldl run h).parameters.find? key =
      (lastGiven? calls key).or (h.parameters.find? key) := by
  induction calls generalizing h with
  | nil => rfl
  | cons c calls ih => rw [List.foldl_cons, ih, find?_run, lastGiven?_cons, Option.or_assoc]

/-- **Which value is found.** A host that starts without parameters holds for each key the value it
was given last. A lookup finds the value of its exact key, and where there is none that of the name
alone; nothing else is found. -/
theorem lookup_foldl_run (registry : Registry σ) (supply : Supply σ) (layout : Layout)
    (calls : List ParameterCall) :
    let table := (calls.foldl run (.standard registry supply layout)).parameters
    (∀ key, table.find? key = lastGiven? calls key) ∧
      ∀ processor directive name, table.lookup processor directive name =
        (lastGiven? calls ⟨processor, directive, name⟩).or (lastGiven? calls (.ofName name)) := by
  intro table
  have hheld (key : ParameterKey) : table.find? key = lastGiven? calls key :=
    (find?_foldl_run _ calls key).trans Option.or_none
  refine ⟨hheld, fun processor directive name => ?_⟩
  rw [ParameterTable.lookup_eq, hheld, hheld]

/-- A value for a directive is not found for a processor of that directive: of the parts of a key
one alone that is empty stands for itself. -/
theorem directive_value_not_found :
    let h : Host Unit := [tryAdd (utf8 "widget!Size!3")].foldl run
      (.standard .standard (.own []) .standard)
    h.parameters.find? ⟨[], utf8 "widget", utf8 "Size"⟩ = some (utf8 "3") ∧
      h.parameters.lookup (utf8 "P") (utf8 "widget") (utf8 "Size") = none := by
  decide +kernel

end ParameterCall
end TextTemplate
