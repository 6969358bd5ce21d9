/-
The processors of two runs, side by side. Each run makes its own processors, in its own world; that
they share nothing between runs is said by a relation between the worlds (`Isolation`): it holds of any
two worlds as long as nothing is made, the same factory makes processors that belong together, and such
processors answer every call alike and leave worlds that still correspond.

`generate_alike`: with processors that belong together, two generations end alike.
-/
import TextTemplate.Proofs.Processor.Lifecycle

namespace TextTemplate

variable {σ : Type}

/-! ## Isolation -/

/-- What a call gives in two runs: the same answer, and worlds that correspond. -/
structure Answers {α : Type} (R : σ → σ → Prop) (x x' : α × σ) : Prop where
  answer : x.1 = x'.1
  world : R x.2 x'.2

/-- Processors of two runs that answer every call alike in two worlds. -/
structure Processor.Alike (R : σ → σ → Prop) (p p' : Processor σ) (s s' : σ) : Prop where
  setUp : Answers R (p.setUp s) (p'.setUp s')
  takesParameters : p.takeParameters.isSome = p'.takeParameters.isSome
  takeParameters : ∀ take ∈ p.takeParameters, ∀ take' ∈ p'.takeParameters, R (take s) (take' s')
  supports : ∀ directive, p.supports directive = p'.supports directive
  start : ∀ w source, Answers R (p.start w source s) (p'.start w source s')
  process : ∀ values w directive attributes,
    Answers R (p.process values w directive attributes s) (p'.process values w directive attributes s')
  finish : Answers R (p.finish s) (p'.finish s')
  imports : Answers R (p.imports s) (p'.imports s')
  references : Answers R (p.references s) (p'.references s')
  classAttributes : Answers R (p.classAttributes s) (p'.classAttributes s')
  notes : ∀ call, p.notes call s = p'.notes call s'

/-- When the worlds of two runs correspond, given the processors made in both so far. -/
structure Isolation (made : Factory σ → Prop) where
  Corresponds : List (Processor σ × Processor σ) → σ → σ → Prop
  /-- A run that has made nothing may start in any world. -/
  start : ∀ s s', Corresponds [] s s'
  make : ∀ {ps s s'} {f : Factory σ}, made f → Corresponds ps s s' →
    Corresponds (ps ++ [((f s).1, (f s').1)]) (f s).2 (f s').2
  alike : ∀ {ps s s'}, Corresponds ps s s' → ∀ {p p'}, (p, p') ∈ ps →
    p.Alike (Corresponds ps) p' s s'

/-- Processors of these factories share nothing between runs. -/
def Isolated (made : Factory σ → Prop) : Prop := Nonempty (Isolation made)

/-- The processors in use in two runs, by name. -/
abbrev Pairs (σ : Type) := NameMap (Processor σ × Processor σ)

namespace Pairs

/-- Those of the one run. -/
def first (ps : Pairs σ) : NameMap (Processor σ) := ps.mapValues Prod.fst

/-- Those of the other run. -/
def second (ps : Pairs σ) : NameMap (Processor σ) := ps.mapValues Prod.snd

/-- Those that belong together. -/
def values (ps : Pairs σ) : List (Processor σ × Processor σ) := ps.map Prod.snd

theorem mem_values_of_find? {ps : Pairs σ} {name : Text} {pair : Processor σ × Processor σ}
    (h : ps.find? name = some pair) : pair ∈ ps.values := by
  obtain ⟨e, he, rfl⟩ := Option.map_eq_some_iff.1 h
  exact List.mem_map_of_mem (List.mem_of_find?_eq_some he)

end Pairs

/-! ## Two generations -/

namespace Output

/-- Generations of two runs that have come equally far. -/
structure State.Alike (R : σ → σ → Prop) (st st' : State σ) : Prop where
  members : st.members = st'.members
  diagnostics : st.diagnostics = st'.diagnostics
  imports : st.imports = st'.imports
  references : st.references = st'.references
  world : R st.world st'.world

/-- Parts of two generations that end equally far, and in the same way. -/
structure EndAlike (R : σ → σ → Prop) (x x' : State σ × Option GenerateError) : Prop where
  state : x.1.Alike R x'.1
  error : x.2 = x'.2

variable {made : Factory σ → Prop} (iso : Isolation made) {ps todo : Pairs σ} {st st' : State σ}

theorem startAll_alike (source : Text) (htodo : todo ⊆ ps)
    (h : st.Alike (iso.Corresponds ps.values) st') :
    EndAlike (iso.Corresponds ps.values) (startAll source todo.first st)
      (startAll source todo.second st') := by
  induction todo generalizing st st' with
  | nil => exact ⟨h, rfl⟩
  | cons e todo ih =>
    obtain ⟨hmem, htodo⟩ := List.cons_subset.1 htodo
    obtain ⟨members, ds, imports, references, s⟩ := st
    obtain ⟨_, _, _, _, s'⟩ := st'
    obtain ⟨rfl, rfl, rfl, rfl, hs⟩ := h
    have hcall := (iso.alike hs (List.mem_map_of_mem hmem)).start members.nested source
    simp only [Pairs.first, Pairs.second, NameMap.mapValues_cons, startAll, ← hcall.answer]
    cases (e.2.1.start members.nested source s).1.error with
    | some err => exact ⟨⟨rfl, rfl, rfl, rfl, hcall.world⟩, rfl⟩
    | none => exact ih htodo ⟨rfl, rfl, rfl, rfl, hcall.world⟩

theorem processAll_alike (root : Text) (parameters : Option ParameterValues)
    (queue : List CustomDirective) (h : st.Alike (iso.Corresponds ps.values) st') :
    EndAlike (iso.Corresponds ps.values) (processAll root parameters ps.first queue st)
      (processAll root parameters ps.second queue st') := by
  induction queue generalizing st st' with
  | nil => exact ⟨h, rfl⟩
  | cons d queue ih =>
    simp only [processAll, Pairs.first, Pairs.second, NameMap.find?_mapValues]
    cases hfind : ps.find? d.processor with
    | none => exact ⟨h, rfl⟩
    | some pair =>
      obtain ⟨members, ds, imports, references, s⟩ := st
      obtain ⟨_, _, _, _, s'⟩ := st'
      obtain ⟨rfl, rfl, rfl, rfl, hs⟩ := h
      have hcall := (iso.alike hs (Pairs.mem_values_of_find? hfind)).process parameters
        members.nested d.directive.name d.directive.attributes
      simp only [Option.map_some, ← hcall.answer]
      cases (pair.1.process parameters members.nested d.directive.name d.directive.attributes
        s).1.error with
      | some err => exact ih ⟨rfl, rfl, rfl, rfl, hcall.world⟩
      | none => exact ih ⟨rfl, rfl, rfl, rfl, hcall.world⟩

theorem finishAll_alike (htodo : todo ⊆ ps) (h : st.Alike (iso.Corresponds ps.values) st') :
    EndAlike (iso.Corresponds ps.values) (finishAll todo.first st) (finishAll todo.second st') := by
  induction todo generalizing st st' with
  | nil => exact ⟨h, rfl⟩
  | cons e todo ih =>
    obtain ⟨hmem, htodo⟩ := List.cons_subset.1 htodo
    have hmem := List.mem_map_of_mem (f := Prod.snd) hmem
    obtain ⟨members, ds, imports, references, s⟩ := st
    obtain ⟨_, _, _, _, s'⟩ := st'
    obtain ⟨rfl, rfl, rfl, rfl, hs⟩ := h
    have hfinish := (iso.alike hs hmem).finish
    have himports := (iso.alike hfinish.world hmem).imports
    have hreferences := (iso.alike himports.world hmem).references
    simp only [Pairs.first, Pairs.second, NameMap.mapValues_cons, finishAll, ← (iso.alike hs hmem).notes]
    rcases hone : e.2.1.finish s with ⟨error, t⟩
    rcases hother : e.2.2.finish s' with ⟨error', t'⟩
    simp only [hone, hother] at hfinish himports hreferences ⊢
    obtain rfl := hfinish.answer
    cases error with
    | some err => exact ⟨⟨rfl, rfl, rfl, rfl, hfinish.world⟩, rfl⟩
    | none =>
      simp only [← (iso.alike hfinish.world hmem).notes, ← (iso.alike himports.world hmem).notes,
        ← himports.answer, ← hreferences.answer]
      exact ih htodo ⟨rfl, rfl, rfl, rfl, hreferences.world⟩

theorem classAttributes_alike {s s' : σ} (htodo : todo ⊆ ps)
    (hs : iso.Corresponds ps.values s s') :
    Answers (iso.Corresponds ps.values) (classAttributes todo.first s)
        (classAttributes todo.second s') ∧
      attributeNotes todo.first s = attributeNotes todo.second s' := by
  induction todo generalizing s s' with
  | nil => exact ⟨⟨rfl, hs⟩, rfl⟩
  | cons e todo ih =>
    obtain ⟨hmem, htodo⟩ := List.cons_subset.1 htodo
    have hp := iso.alike hs (List.mem_map_of_mem hmem)
    obtain ⟨hrest, hnotes⟩ := ih htodo hp.classAttributes.world
    simp only [Pairs.first, Pairs.second] at hrest hnotes
    simp only [Pairs.first, Pairs.second, NameMap.mapValues_cons, classAttributes, attributeNotes]
    rw [hp.notes, hnotes, hp.classAttributes.answer, hrest.answer]
    exact ⟨⟨rfl, hrest.world⟩, rfl⟩

/-- A part of a generation, and then what follows unless it fails. -/
def andThen (x : State σ × Option GenerateError)
    (next : State σ → State σ × Option GenerateError) : State σ × Option GenerateError :=
  match x with
  | (st, some e) => (st, some e)
  | (st, none) => next st

theorem EndAlike.andThen {R : σ → σ → Prop} {x x' : State σ × Option GenerateError}
    {next next' : State σ → State σ × Option GenerateError} (h : EndAlike R x x')
    (hnext : ∀ {st st'}, st.Alike R st' → EndAlike R (next st) (next' st')) :
    EndAlike R (Output.andThen x next) (Output.andThen x' next') := by
  obtain ⟨st, error⟩ := x
  obtain ⟨st', error'⟩ := x'
  obtain ⟨hst, herror⟩ := h
  obtain rfl : error = error' := herror
  cases error with
  | some e => exact ⟨hst, rfl⟩
  | none => exact hnext hst

theorem processorMembers_andThen (template : Template) (settings : Settings σ)
    (parameters : Option ParameterValues) (st : State σ) :
    processorMembers template settings parameters st =
      andThen (startAll template.source settings.processors st) fun st =>
      andThen (processAll template.root parameters settings.processors settings.custom st) fun st =>
      andThen (finishAll settings.processors st) fun st =>
        if settings.custom.isEmpty then (st, none)
        else ({ st with members := st.members.ensureNewline.blankLine 1 }, none) := rfl

variable {settings : Settings σ}

theorem processorMembers_alike (template : Template) (parameters : Option ParameterValues)
    (hps : settings.processors = ps.first) (h : st.Alike (iso.Corresponds ps.values) st') :
    EndAlike (iso.Corresponds ps.values) (processorMembers template settings parameters st)
      (processorMembers template { settings with processors := ps.second } parameters st') := by
  rw [processorMembers_andThen, processorMembers_andThen, hps]
  refine (startAll_alike iso template.source (List.Subset.refl ps) h).andThen fun h => ?_
  refine (processAll_alike iso template.root parameters settings.custom h).andThen fun h => ?_
  refine (finishAll_alike iso (List.Subset.refl ps) h).andThen fun h => ?_
  split
  · exact ⟨h, rfl⟩
  · exact ⟨⟨by rw [h.members], h.diagnostics, h.imports, h.references, h.world⟩, rfl⟩

end Output

/-- Generations of two runs that end alike. -/
structure Generated.Alike (R : σ → σ → Prop) (g g' : Generated σ) : Prop where
  result : g.result = g'.result
  diagnostics : g.diagnostics = g'.diagnostics
  imports : g.imports = g'.imports
  references : g.references = g'.references
  world : R g.world g'.world

open Output in
/-- **Isolated processors make the same class.** Two generations from settings that differ in nothing
but processors that belong together, in worlds that correspond, end alike. -/
theorem generate_alike {made : Factory σ → Prop} (iso : Isolation made) {ps : Pairs σ}
    {settings : Settings σ} (hps : settings.processors = ps.first) {s s' : σ}
    (hs : iso.Corresponds ps.values s s') (layout : Layout) (template : Template)
    (parameters : Option ParameterValues) (diagnostics : Diagnostics) :
    Generated.Alike (iso.Corresponds ps.values)
      (generate layout template settings parameters diagnostics s)
      (generate layout template { settings with processors := ps.second } parameters diagnostics
        s') := by
  have hfirst : State.Alike (iso.Corresponds ps.values)
      (firstState (runLayout layout template.root settings) settings diagnostics s)
      (firstState (runLayout layout template.root settings) settings diagnostics s') :=
    ⟨rfl, rfl, rfl, rfl, hs⟩
  have hmembers := processorMembers_alike iso template parameters hps hfirst
  rcases hone : processorMembers template settings parameters
    (firstState (runLayout layout template.root settings) settings diagnostics s) with ⟨st, error⟩
  rcases hother : processorMembers template { settings with processors := ps.second } parameters
    (firstState (runLayout layout template.root settings) settings diagnostics s')
    with ⟨st', error'⟩
  rw [hone, hother] at hmembers
  obtain ⟨hst, herror⟩ := hmembers
  replace hst : st.Alike (iso.Corresponds ps.values) st' := hst
  obtain rfl : error = error' := herror
  cases error with
  | some e =>
    rw [generate_stopped hone, generate_stopped hother]
    exact ⟨rfl, hst.diagnostics, hst.imports, hst.references, hst.world⟩
  | none =>
    have hsame := congrArg (transformMethod settings.lineMode template.root template.pieces)
      hst.members
    cases hmethod : transformMethod settings.lineMode template.root template.pieces st.members with
    | none =>
      rw [generate_unknown hone hmethod, generate_unknown hother (hsame.symm.trans hmethod)]
      exact ⟨rfl, hst.diagnostics, hst.imports, hst.references, hst.world⟩
    | some w =>
      obtain ⟨hattributes, hnotes⟩ := classAttributes_alike iso (List.Subset.refl ps) hst.world
      rw [← hps] at hattributes hnotes
      rw [generate_composed hone hmethod, generate_composed hother (hsame.symm.trans hmethod)]
      simp only [hattributes.answer, hnotes, hst.diagnostics, hst.imports, hst.references]
      exact ⟨rfl, rfl, rfl, rfl, hattributes.world⟩

end TextTemplate
