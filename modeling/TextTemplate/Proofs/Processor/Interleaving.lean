/-
Resolutions that overlap. On a registry that is shared, a resolution takes two steps: it looks at the
tables, and later it keeps what it has loaded for the entry it saw. Every other call is one step. The
entry may be replaced between the two steps; what is kept then is the factory of the replaced one, and
it answers for the name until a step touches it again.

`coherent_iff_overwritten`: after any schedule the registry is coherent exactly when every stale store
has been overwritten. `redeclared_while_loading` is a schedule that leaves one, with every resolution
at its end.
-/
import Mathlib.Data.List.Induction
import TextTemplate.Proofs.Processor.Cache

namespace TextTemplate.Registry

variable {σ : Type}

/-- A resolution between its two steps: the name it is for, and the entry it saw. -/
structure Pending where
  name : Text
  entry : External
  deriving DecidableEq, Repr

/-- A registry, and the resolutions that are between their steps. -/
structure Shared (σ : Type) where
  registry : Registry σ
  pending : List Pending

/-- One step of one of the calls. -/
inductive Action (σ : Type) where
  | register (name : Text) (f : Factory σ)
  | addExternal (name type assembly : Text)
  /-- A resolution looks at the tables. -/
  | look (name : Text)
  /-- The resolution at a place of the list keeps what it has loaded, in whatever world. -/
  | store (place : Nat) (world : σ)

namespace Shared

/-- Takes a step. A resolution that finds its answer in the tables is at its end; so is one whose load
fails. -/
def step (l : Loading σ) (c : Shared σ) : Action σ → Shared σ
  | .register name f => { c with registry := c.registry.register name f }
  | .addExternal name type assembly =>
    { c with registry := c.registry.addExternal name type assembly }
  | .look name =>
    match c.registry.look name with
    | .atHand _ => c
    | .declared e => { c with pending := c.pending ++ [⟨name, e⟩] }
  | .store place world =>
    match c.pending[place]? with
    | none => c
    | some p =>
      ⟨c.registry.keep p.name (load l p.name p.entry world).1, c.pending.eraseIdx place⟩

/-- Takes steps in the order of a schedule. -/
def run (l : Loading σ) (c : Shared σ) (actions : List (Action σ)) : Shared σ :=
  actions.foldl (step l) c

theorem run_append (l : Loading σ) (c : Shared σ) (actions actions' : List (Action σ)) :
    c.run l (actions ++ actions') = (c.run l actions).run l actions' := List.foldl_append

theorem run_concat (l : Loading σ) (c : Shared σ) (actions : List (Action σ)) (a : Action σ) :
    c.run l (actions ++ [a]) = (c.run l actions).step l a := by rw [run_append]; rfl

end Shared

/-- A resolution is its two steps with nothing between them. -/
theorem run_look_store (r : Registry σ) (l : Loading σ) (name : Text) (s : σ) :
    Shared.run l ⟨r, []⟩ [.look name, .store 0 s] = ⟨(r.resolve l name s).2.1, []⟩ := by
  rw [resolve_eq]
  simp only [Shared.run, List.foldl_cons, List.foldl_nil, Shared.step]
  cases r.look name with
  | atHand result => rfl
  | declared e => rfl

/-! ## Steps that touch what is kept -/

/-- A step takes away what is kept for a name, or puts something in its place. -/
def Touches (l : Loading σ) (c : Shared σ) (name : Text) : Action σ → Prop
  | .register other _ => other = name
  | .addExternal other type assembly =>
    other = name ∧ c.registry.external.find? name ≠ some ⟨type, assembly⟩
  | .look _ => False
  | .store place world =>
    ∃ p f, c.pending[place]? = some p ∧ p.name = name ∧ (load l name p.entry world).1 = .ok f

/-- A step keeps a factory for a name that has no other one, and the present entry of the name does
not stand for that factory. -/
def Stale (l : Loading σ) (c : Shared σ) (name : Text) (a : Action σ) : Prop :=
  ∃ place world p f, a = .store place world ∧ c.pending[place]? = some p ∧ p.name = name ∧
    (load l name p.entry world).1 = .ok f ∧ c.registry.builtins.find? name = none ∧
    ∀ e, c.registry.external.find? name = some e → (load l name e world).1 ≠ .ok f

/-- What is kept for a name is what its present entry stands for. -/
def CoherentAt (l : Loading σ) (r : Registry σ) (name : Text) : Prop :=
  ∀ f, r.builtins.find? name = none → r.loaded.find? name = some f →
    ∃ e, r.external.find? name = some e ∧ ∀ s, (load l name e s).1 = .ok f

theorem coherent_iff {l : Loading σ} {r : Registry σ} :
    r.Coherent l ↔ ∀ name, r.CoherentAt l name := Iff.rfl

/-- Coherence at a name is a matter of the three look-ups of the name. -/
theorem coherentAt_congr {l : Loading σ} {r r' : Registry σ} {name : Text}
    (hb : r'.builtins.find? name = r.builtins.find? name)
    (hk : r'.loaded.find? name = r.loaded.find? name)
    (he : r'.external.find? name = r.external.find? name) :
    r'.CoherentAt l name ↔ r.CoherentAt l name := by
  rw [CoherentAt, CoherentAt, hb, hk, he]

variable {l : Loading σ} {c : Shared σ} {name : Text} {a : Action σ}

/-- A step that does not touch what is kept for a name leaves it as coherent as it was. -/
theorem coherentAt_step_of_not_touches (h : ¬Touches l c name a) :
    (c.step l a).registry.CoherentAt l name ↔ c.registry.CoherentAt l name := by
  cases a with
  | register other f =>
    have ho : name ≠ other := fun ho => h ho.symm
    exact coherentAt_congr (NameMap.find?_insert_other ho) (NameMap.find?_erase_other ho) rfl
  | addExternal other type assembly =>
    simp only [Shared.step, addExternal]
    split
    · rfl
    · next hnew =>
      have ho : name ≠ other := by
        rintro rfl
        exact h ⟨rfl, hnew⟩
      exact coherentAt_congr rfl (NameMap.find?_erase_other ho) (NameMap.find?_insert_other ho)
  | look other =>
    simp only [Shared.step]
    split <;> rfl
  | store place world =>
    simp only [Shared.step]
    split
    · rfl
    · next p hp =>
      cases hload : (load l p.name p.entry world).1 with
      | error err => rfl
      | ok f =>
        have ho : name ≠ p.name := by
          rintro rfl
          exact h ⟨p, f, hp, rfl, hload⟩
        exact coherentAt_congr rfl (NameMap.find?_insert_other ho) rfl

/-- A step that touches what is kept for a name, and is not stale, leaves it coherent. -/
theorem coherentAt_step_of_touches (hl : l.Pure) (h : Touches l c name a)
    (hs : ¬Stale l c name a) : (c.step l a).registry.CoherentAt l name := by
  cases a with
  | register other f =>
    subst h
    intro g hb
    simp [Shared.step, register] at hb
  | addExternal other type assembly =>
    obtain ⟨rfl, hnew⟩ := h
    intro g _ hk
    simp [Shared.step, addExternal, hnew] at hk
  | look other => exact h.elim
  | store place world =>
    obtain ⟨given, hgiven⟩ := exists_given hl
    obtain ⟨p, f, hp, rfl, hload⟩ := h
    simp only [Shared.step, hp, hload, keep]
    intro g hb hk
    simp only [NameMap.find?_insert_self, Option.some.injEq] at hk
    subst hk
    -- otherwise the step is stale
    by_contra hnone
    refine hs ⟨place, world, p, f, rfl, hp, rfl, hload, hb, fun e he hload' => hnone ⟨e, he, ?_⟩⟩
    intro s
    rw [hgiven] at hload' ⊢
    exact hload'

theorem not_coherentAt_step_of_stale (h : Stale l c name a) :
    ¬(c.step l a).registry.CoherentAt l name := by
  obtain ⟨place, world, p, f, rfl, hp, rfl, hload, hb, hother⟩ := h
  intro hc
  simp only [Shared.step, hp, hload, keep] at hc
  obtain ⟨e, he, hgives⟩ := hc f hb (NameMap.find?_insert_self ..)
  exact hother e he (hgives world)

/-! ## Schedules -/

/-- A schedule has overwritten every stale store of a name. -/
def Overwritten (l : Loading σ) (c : Shared σ) (name : Text) (actions : List (Action σ)) : Prop :=
  ∀ before a after, actions = before ++ a :: after → Stale l (c.run l before) name a →
    ∃ mid b rest, after = mid ++ b :: rest ∧ Touches l (c.run l (before ++ a :: mid)) name b

/-- One step more: it is the last that touches the name, or it does not touch it. -/
theorem overwritten_concat {actions : List (Action σ)} :
    Overwritten l c name (actions ++ [a]) ↔
      ¬Stale l (c.run l actions) name a ∧
        (Touches l (c.run l actions) name a ∨ Overwritten l c name actions) := by
  constructor
  · intro h
    refine ⟨fun hs => ?_, ?_⟩
    · obtain ⟨mid, b, rest, hnil, -⟩ := h actions a [] rfl hs
      simp at hnil
    · by_cases ht : Touches l (c.run l actions) name a
      · exact .inl ht
      · refine .inr fun before b after hsplit hs => ?_
        obtain ⟨mid, b', rest, hafter, ht'⟩ :=
          h before b (after ++ [a]) (by rw [hsplit]; simp) hs
        rcases List.eq_nil_or_concat rest with rfl | ⟨rest, x, rfl⟩
        · -- the step that touches the name would be the last one
          obtain ⟨rfl, hb⟩ := List.append_inj' hafter rfl
          cases hb
          rw [← hsplit] at ht'
          exact absurd ht' ht
        · have hlast : after ++ [a] = (mid ++ b' :: rest) ++ [x] := by simpa using hafter
          exact ⟨mid, b', rest, (List.append_inj' hlast rfl).1, ht'⟩
  · rintro ⟨hfresh, hrest⟩ before b after hsplit hs
    rcases List.eq_nil_or_concat after with rfl | ⟨after, x, rfl⟩
    · obtain ⟨rfl, hb⟩ := List.append_inj' hsplit rfl
      cases hb
      exact absurd hs hfresh
    · have hlast : actions ++ [a] = (before ++ b :: after) ++ [x] := by simpa using hsplit
      obtain ⟨rfl, hx⟩ := List.append_inj' hlast rfl
      cases hx
      rcases hrest with ht | ho
      · exact ⟨after, a, [], by simp, ht⟩
      · obtain ⟨mid, b', rest, rfl, ht⟩ := ho before b after rfl hs
        exact ⟨mid, b', rest ++ [a], by simp, ht⟩

theorem coherentAt_run_iff (hl : l.Pure) (h : c.registry.CoherentAt l name)
    (actions : List (Action σ)) :
    (c.run l actions).registry.CoherentAt l name ↔ Overwritten l c name actions := by
  induction actions using List.reverseRecOn with
  | nil =>
    refine iff_of_true h fun before a after hsplit => ?_
    simp at hsplit
  | append_singleton actions a ih =>
    rw [overwritten_concat, Shared.run_concat]
    by_cases hs : Stale l (c.run l actions) name a
    · exact iff_of_false (not_coherentAt_step_of_stale hs) fun h => h.1 hs
    · by_cases ht : Touches l (c.run l actions) name a
      · exact iff_of_true (coherentAt_step_of_touches hl ht hs) ⟨hs, .inl ht⟩
      · rw [coherentAt_step_of_not_touches ht, ih]
        simp [hs, ht]

/-- **Where a shared registry is coherent.** Take any schedule of steps on a registry that has loaded
nothing. Where it ends, each factory that is kept for a name without a registered one is what the
present entry of the name stands for, exactly when after each stale store of a name some step has
touched what is kept for it; and then every name is resolved as it is declared. -/
theorem coherent_iff_overwritten (hl : l.Pure) {r : Registry σ} (hr : r.loaded = [])
    (actions : List (Action σ)) :
    let c := Shared.run l ⟨r, []⟩ actions
    (c.registry.Coherent l ↔ ∀ name, Overwritten l ⟨r, []⟩ name actions) ∧
      ((∀ name, Overwritten l ⟨r, []⟩ name actions) → ∀ name s,
        (c.registry.resolve l name s).1 =
          (Declarations.resolve ⟨c.registry.builtins, c.registry.external⟩ l name s).1) := by
  intro c
  have hcoherent : c.registry.Coherent l ↔ ∀ name, Overwritten l ⟨r, []⟩ name actions := by
    rw [coherent_iff]
    exact forall_congr' fun name =>
      coherentAt_run_iff (c := ⟨r, []⟩) hl (coherent_of_loaded_nil hr name) actions
  refine ⟨hcoherent, fun h name s => ?_⟩
  exact (resolve_eq_declared ⟨rfl, rfl, fun _ => rfl⟩ (hcoherent.2 h) hl name s).1

/-- A processor is declared; a resolution sees the declaration; it is declared otherwise; the
resolution keeps what it has loaded. -/
def replacedSchedule : List (Action Unit) :=
  [.addExternal (utf8 "P") (utf8 "T") (utf8 "lib"), .look (utf8 "P"),
    .addExternal (utf8 "P") (utf8 "U") (utf8 "lib"), .store 0 ()]

/-- Whether a directive is supported by what was resolved. -/
def supportsIn (directive : Text) : Except RegistryError (Factory Unit) → Bool
  | .ok f => (f ()).1.supports directive
  | .error _ => false

/-- **A replaced declaration answers.** When the schedule is at its end, no resolution is between its
steps; the processor is declared with the second type, for which the loader gives a factory, and yet a
resolution answers with the factory of the first. -/
theorem redeclared_while_loading :
    let c := Shared.run sampleLoading ⟨.standard, []⟩ replacedSchedule
    c.pending = [] ∧ c.registry.builtins.find? (utf8 "P") = none ∧
      c.registry.external.find? (utf8 "P") = some ⟨utf8 "U", utf8 "lib"⟩ ∧
      ¬c.registry.Coherent sampleLoading ∧
      (c.registry.resolve sampleLoading (utf8 "P") ()).1 =
        (load sampleLoading (utf8 "P") ⟨utf8 "T", utf8 "lib"⟩ ()).1 ∧
      (c.registry.resolve sampleLoading (utf8 "P") ()).1 ≠
        (load sampleLoading (utf8 "P") ⟨utf8 "U", utf8 "lib"⟩ ()).1 := by
  intro c
  have hfirst : (c.registry.resolve sampleLoading (utf8 "P") ()).1 =
      (load sampleLoading (utf8 "P") ⟨utf8 "T", utf8 "lib"⟩ ()).1 := by rfl
  have hsecond : (c.registry.resolve sampleLoading (utf8 "P") ()).1 ≠
      (load sampleLoading (utf8 "P") ⟨utf8 "U", utf8 "lib"⟩ ()).1 := by
    rw [hfirst]
    intro h
    have hsupports := congrArg (supportsIn (utf8 "t")) h
    revert hsupports
    decide +kernel
  refine ⟨by decide +kernel, by rfl, by decide +kernel, fun hc => hsecond ?_, hfirst, hsecond⟩
  have hdeclared := (resolve_eq_declared (d := ⟨c.registry.builtins, c.registry.external⟩)
    ⟨rfl, rfl, fun _ => rfl⟩ hc sampleLoading_pure (utf8 "P") ()).1
  exact hdeclared.trans (by rfl)

/-- In that schedule a stale store is the last step that touches a name. -/
theorem coherent_iff_overwritten_replaced :
    (standard : Registry Unit).loaded = [] ∧
      ¬∀ name, Overwritten sampleLoading ⟨.standard, []⟩ name replacedSchedule := by
  refine ⟨rfl, fun h => ?_⟩
  have hanswer :=
    (coherent_iff_overwritten sampleLoading_pure rfl replacedSchedule).2 h (utf8 "P") ()
  have hsupports := congrArg (supportsIn (utf8 "t")) hanswer
  revert hsupports
  decide +kernel

end TextTemplate.Registry
