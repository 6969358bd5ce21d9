/-
What a registry remembers is never seen. Resolving a name is a look at the tables (`look`) and, where
they hold no more than a declaration, a load whose factory is kept (`keep`). A registry is coherent
when each factory it keeps is what a load of the present declaration of its name gives; every call
leaves it so. `Declarations` is the registry that keeps nothing, and a coherent registry answers as it
does.

`resolve_eq_declared`: a coherent registry resolves a name as if it kept nothing.
-/
import TextTemplate.Processor.Registry

namespace TextTemplate

variable {σ : Type}

/-- The loader is a function of place and type: it neither reads the world nor changes it. -/
def Loading.Pure (l : Loading σ) : Prop :=
  ∀ load ∈ l.loader, ∃ given : Text → Text → Except LoadError (Factory σ),
    ∀ location type s, load location type s = (given location type, s)

namespace Registry

/-- With such a loader, what an external processor is loaded as hangs on its name and entry alone. -/
theorem exists_given {l : Loading σ} (hl : l.Pure) :
    ∃ given : Text → External → Except RegistryError (Factory σ),
      ∀ name e s, load l name e s = (given name e, s) := by
  cases hloader : l.loader with
  | none =>
    refine ⟨fun name e => (locate l name e).bind fun _ => .error (.noLoader e.type), ?_⟩
    intro name e s
    simp only [load]
    cases locate l name e with
    | error err => rfl
    | ok location => simp only [hloader, Except.bind]
  | some loader =>
    obtain ⟨given, hgiven⟩ := hl loader hloader
    refine ⟨fun name e => (locate l name e).bind fun location =>
      (given location e.type).mapError (.loading name), ?_⟩
    intro name e s
    simp only [load]
    cases locate l name e with
    | error err => rfl
    | ok location =>
      simp only [hloader, hgiven, Except.bind]
      cases given location e.type <;> rfl

/-! ## The two halves of a resolution -/

/-- What the tables tell about a name. -/
inductive Looked (σ : Type) where
  /-- There is an answer. -/
  | atHand (result : Except RegistryError (Factory σ))
  /-- There is no more than a declaration. -/
  | declared (e : External)

/-- Looks a name up in the tables. -/
def look (r : Registry σ) (name : Text) : Looked σ :=
  match r.builtins.find? name with
  | some f => .atHand (.ok f)
  | none =>
    match r.loaded.find? name with
    | some f => .atHand (.ok f)
    | none =>
      match r.external.find? name with
      | some e => .declared e
      | none => .atHand (.error (.notRegistered name))

/-- Keeps what was loaded for a name. -/
def keep (r : Registry σ) (name : Text) : Except RegistryError (Factory σ) → Registry σ
  | .ok f => { r with loaded := r.loaded.insert name f }
  | .error _ => r

theorem resolve_eq (r : Registry σ) (l : Loading σ) (name : Text) (s : σ) :
    r.resolve l name s =
      match r.look name with
      | .atHand result => (result, r, s)
      | .declared e =>
        ((load l name e s).1, r.keep name (load l name e s).1, (load l name e s).2) := by
  unfold resolve look
  cases r.builtins.find? name with
  | some f => rfl
  | none =>
    cases r.loaded.find? name with
    | some f => rfl
    | none =>
      cases r.external.find? name with
      | none => rfl
      | some e =>
        simp only
        rcases load l name e s with ⟨_ | f, s'⟩ <;> rfl

/-- Only a name that is declared and has no factory yet is loaded. -/
theorem look_eq_declared {r : Registry σ} {name : Text} {e : External}
    (h : r.look name = .declared e) :
    r.builtins.find? name = none ∧ r.loaded.find? name = none ∧ r.external.find? name = some e := by
  unfold look at h
  cases hb : r.builtins.find? name with
  | some f => simp [hb] at h
  | none =>
    cases hl : r.loaded.find? name with
    | some f => simp [hb, hl] at h
    | none =>
      cases he : r.external.find? name with
      | none => simp [hb, hl, he] at h
      | some e' =>
        simp only [hb, hl, he, Looked.declared.injEq] at h
        exact ⟨rfl, rfl, congrArg some h⟩

/-! ## Coherence -/

/-- Each factory that is kept, and that no other one of its name hides, is what a load of the present
declaration gives. -/
def Coherent (l : Loading σ) (r : Registry σ) : Prop :=
  ∀ name f, r.builtins.find? name = none → r.loaded.find? name = some f →
    ∃ e, r.external.find? name = some e ∧ ∀ s, (load l name e s).1 = .ok f

variable {l : Loading σ} {r : Registry σ}

theorem coherent_of_loaded_nil (h : r.loaded = []) : r.Coherent l := by
  intro name f _ hf
  rw [h] at hf
  cases hf

theorem Coherent.register (h : r.Coherent l) (name : Text) (f : Factory σ) :
    (r.register name f).Coherent l := by
  intro other g hb hg
  by_cases ho : other = name
  · subst ho
    simp [Registry.register] at hb
  · simp only [Registry.register, NameMap.find?_insert_other ho, NameMap.find?_erase_other ho]
      at hb hg ⊢
    exact h other g hb hg

theorem Coherent.addExternal (h : r.Coherent l) (name type assembly : Text) :
    (r.addExternal name type assembly).Coherent l := by
  unfold Registry.addExternal
  split
  · exact h
  · intro other g hb hg
    by_cases ho : other = name
    · subst ho
      simp at hg
    · simp only [NameMap.find?_insert_other ho, NameMap.find?_erase_other ho] at hb hg ⊢
      exact h other g hb hg

/-- Keeping what was loaded for the present declaration. -/
theorem Coherent.keep (h : r.Coherent l) {name : Text} {e : External}
    {loaded : Except RegistryError (Factory σ)} (he : r.external.find? name = some e)
    (hl : ∀ s, (load l name e s).1 = loaded) : (r.keep name loaded).Coherent l := by
  cases loaded with
  | error err => exact h
  | ok f =>
    intro other g hb hg
    by_cases ho : other = name
    · subst ho
      simp only [Registry.keep, NameMap.find?_insert_self, Option.some.injEq] at hg
      subst hg
      exact ⟨e, he, hl⟩
    · simp only [Registry.keep, NameMap.find?_insert_other ho] at hb hg ⊢
      exact h other g hb hg

theorem Coherent.resolve (h : r.Coherent l) (hl : l.Pure) (name : Text) (s : σ) :
    (r.resolve l name s).2.1.Coherent l := by
  obtain ⟨given, hgiven⟩ := exists_given hl
  rw [resolve_eq]
  cases hlook : r.look name with
  | atHand result => exact h
  | declared e =>
    refine h.keep (look_eq_declared hlook).2.2 fun s' => ?_
    rw [hgiven, hgiven]

/-! ## A registry that keeps nothing -/

end Registry

/-- What is registered and declared, and nothing besides. -/
structure Declarations (σ : Type) where
  builtins : NameMap (Factory σ)
  external : NameMap External

namespace Declarations

def standard : Declarations σ :=
  ⟨[(ParameterProcessor.name, fun s => (ParameterProcessor.processor, s))], []⟩

def register (d : Declarations σ) (name : Text) (f : Factory σ) : Declarations σ :=
  { d with builtins := d.builtins.insert name f }

def addExternal (d : Declarations σ) (name type assembly : Text) : Declarations σ :=
  { d with external := d.external.insert name ⟨type, assembly⟩ }

/-- All names, in increasing order. -/
def names (d : Declarations σ) : List Text :=
  sortTexts (d.builtins.names ++ d.external.names.filter (!d.builtins.names.contains ·))

/-- The factory of a name: a registered one, or else what a load of its declaration gives. -/
def resolve (d : Declarations σ) (l : Loading σ) (name : Text) (s : σ) :
    Except RegistryError (Factory σ) × σ :=
  match d.builtins.find? name, d.external.find? name with
  | some f, _ => (.ok f, s)
  | none, some e => Registry.load l name e s
  | none, none => (.error (.notRegistered name), s)

/-- A processor of a name, set up for a run. -/
def create (d : Declarations σ) (l : Loading σ) (name : Text) (s : σ) :
    Except RegistryError (Processor σ) × σ :=
  match d.resolve l name s with
  | (.error err, s) => (.error err, s)
  | (.ok f, s) =>
    match (f s).1.setUp (f s).2 with
    | (some err, s) => (.error (.setUpFailed name err), s)
    | (none, s') => (.ok (f s).1, s')

end Declarations

namespace Registry

/-- A registry holds these declarations. -/
structure Declares (r : Registry σ) (d : Declarations σ) : Prop where
  builtins : r.builtins = d.builtins
  names : r.external.names = d.external.names
  external : ∀ name, r.external.find? name = d.external.find? name

variable {l : Loading σ} {r : Registry σ} {d : Declarations σ}

theorem declares_standard : Declares (standard : Registry σ) .standard := ⟨rfl, rfl, fun _ => rfl⟩

theorem Declares.register (h : r.Declares d) (name : Text) (f : Factory σ) :
    (r.register name f).Declares (d.register name f) :=
  ⟨congrArg (·.insert name f) h.builtins, h.names, h.external⟩

theorem Declares.addExternal (h : r.Declares d) (name type assembly : Text) :
    (r.addExternal name type assembly).Declares (d.addExternal name type assembly) := by
  have hmem : name ∈ r.external.names ↔ name ∈ d.external.names := by rw [h.names]
  have hfind (m m' : NameMap External) (hm : ∀ n, m.find? n = m'.find? n) (n : Text) :
      (m.insert name ⟨type, assembly⟩).find? n = (m'.insert name ⟨type, assembly⟩).find? n := by
    by_cases hn : n = name
    · subst hn
      simp
    · rw [NameMap.find?_insert_other hn, NameMap.find?_insert_other hn, hm]
  unfold Registry.addExternal
  split
  · next hsame =>
    -- the reference gives the name the value it has
    refine ⟨h.builtins, ?_, fun n => ?_⟩
    · rw [Declarations.addExternal, NameMap.names_insert_of_mem
        (hmem.1 (NameMap.mem_names_of_find? hsame)), h.names]
    · rw [Declarations.addExternal, ← hfind r.external d.external h.external]
      by_cases hn : n = name
      · subst hn
        rw [hsame, NameMap.find?_insert_self]
      · rw [NameMap.find?_insert_other hn]
  · refine ⟨h.builtins, ?_, hfind _ _ h.external⟩
    by_cases hn : name ∈ r.external.names
    · rw [Declarations.addExternal, NameMap.names_insert_of_mem hn,
        NameMap.names_insert_of_mem (hmem.1 hn), h.names]
    · rw [Declarations.addExternal, NameMap.names_insert_of_not_mem hn,
        NameMap.names_insert_of_not_mem (mt hmem.2 hn), h.names]

theorem Declares.names_eq (h : r.Declares d) : r.names = d.names := by
  rw [Registry.names, Declarations.names, h.builtins, h.names]

theorem Declares.keep (h : r.Declares d) (name : Text)
    (loaded : Except RegistryError (Factory σ)) : (r.keep name loaded).Declares d := by
  cases loaded with
  | error err => exact h
  | ok f => exact ⟨h.builtins, h.names, h.external⟩

theorem Declares.resolve (h : r.Declares d) (l : Loading σ) (name : Text) (s : σ) :
    (r.resolve l name s).2.1.Declares d := by
  rw [resolve_eq]
  cases r.look name with
  | atHand result => exact h
  | declared e => exact h.keep name _

/-- **A coherent registry resolves as if it kept nothing.** -/
theorem resolve_eq_declared (h : r.Declares d) (hc : r.Coherent l) (hl : l.Pure) (name : Text)
    (s : σ) : (r.resolve l name s).1 = (d.resolve l name s).1 ∧
      (r.resolve l name s).2.2 = (d.resolve l name s).2 := by
  obtain ⟨given, hgiven⟩ := exists_given hl
  rw [resolve_eq, look, Declarations.resolve, ← h.builtins, ← h.external]
  cases hb : r.builtins.find? name with
  | some f => exact ⟨rfl, rfl⟩
  | none =>
    cases hk : r.loaded.find? name with
    | some f =>
      -- the kept factory is the one the declaration stands for
      obtain ⟨e, he, hload⟩ := hc name f hb hk
      have hf := hload s
      rw [hgiven] at hf
      simp only [he, hgiven, hf, and_self]
    | none =>
      cases r.external.find? name with
      | none => exact ⟨rfl, rfl⟩
      | some e => exact ⟨rfl, rfl⟩

theorem create_eq_declared (h : r.Declares d) (hc : r.Coherent l) (hl : l.Pure) (name : Text)
    (s : σ) : (r.create l name s).1 = (d.create l name s).1 ∧
      (r.create l name s).2.2 = (d.create l name s).2 := by
  obtain ⟨hfactory, hworld⟩ := resolve_eq_declared h hc hl name s
  unfold create Declarations.create
  rcases hr : r.resolve l name s with ⟨_ | f, r', s'⟩ <;>
    rcases hd : d.resolve l name s with ⟨_ | f', s''⟩ <;>
    simp only [hr, hd, reduceCtorEq, Except.error.injEq, Except.ok.injEq] at hfactory hworld
  · subst hfactory hworld
    exact ⟨rfl, rfl⟩
  · subst hfactory hworld
    simp only
    rcases (f s').1.setUp (f s').2 with ⟨_ | err, _⟩ <;> exact ⟨rfl, rfl⟩

/-- Making a processor leaves the registry as looking for its factory does. -/
theorem create_registry (r : Registry σ) (l : Loading σ) (name : Text) (s : σ) :
    (r.create l name s).2.1 = (r.resolve l name s).2.1 := by
  unfold create
  rcases r.resolve l name s with ⟨_ | f, r', s'⟩
  · rfl
  · simp only
    rcases (f s').1.setUp (f s').2 with ⟨_ | err, _⟩ <;> rfl

/-- A loader of two types, which make processors of different directives. -/
def sampleLoading : Loading Unit :=
  ⟨some fun _ => .ok (utf8 "lib.dll"), some fun location type s =>
    (loadFrom
      [(utf8 "T", fun s => ({ Processor.idle with supports := (· == utf8 "t") }, s)),
        (utf8 "U", fun s => ({ Processor.idle with supports := (· == utf8 "u") }, s))]
      location type, s)⟩

theorem sampleLoading_pure : sampleLoading.Pure := by
  rintro load ⟨⟩
  exact ⟨loadFrom _, fun location type s => rfl⟩

end Registry
end TextTemplate
