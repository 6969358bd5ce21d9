/-
Runs of one host do not influence each other. What a run leaves in its host is written over by the next
run, but for what the registry has loaded, and that is never seen as long as the registry is coherent.
So a run of a host with a history and the same run of the host as it was built are followed side by
side, directive by directive: the processors they make belong together (`Pairs`), and all else is equal.

`runs_independent`: after any runs, a run comes out as it does on a host that is freshly built.
-/
import TextTemplate.Proofs.Host.Failure
import TextTemplate.Proofs.Processor.Cache
import TextTemplate.Proofs.Processor.Isolation

namespace TextTemplate

variable {σ : Type}

/-! ## Registries that answer for the same declarations -/

namespace Declarations

/-- A factory some name stands for. -/
def Supplies (d : Declarations σ) (l : Loading σ) (f : Factory σ) : Prop :=
  ∃ name s, (d.resolve l name s).1 = .ok f

/-- With a pure loader, what a name stands for does not hang on the world. -/
theorem resolve_pure {d : Declarations σ} {l : Loading σ} (hl : l.Pure) (name : Text) :
    ∃ given, ∀ s, d.resolve l name s = (given, s) := by
  obtain ⟨given, hgiven⟩ := Registry.exists_given hl
  unfold resolve
  cases d.builtins.find? name with
  | some f => exact ⟨_, fun _ => rfl⟩
  | none =>
    cases d.external.find? name with
    | some e => exact ⟨_, fun s => hgiven name e s⟩
    | none => exact ⟨_, fun _ => rfl⟩

end Declarations

namespace Registry

/-- What is registered and declared. -/
def declarations (r : Registry σ) : Declarations σ := ⟨r.builtins, r.external⟩

theorem declares_declarations (r : Registry σ) : r.Declares r.declarations :=
  ⟨rfl, rfl, fun _ => rfl⟩

theorem declarations_resolve (r : Registry σ) (l : Loading σ) (name : Text) (s : σ) :
    (r.resolve l name s).2.1.declarations = r.declarations := by
  rw [resolve_eq]
  cases r.look name with
  | atHand result => rfl
  | declared e =>
    dsimp only
    cases (load l name e s).1 <;> rfl

/-- A registry that answers as these declarations do. -/
structure Faithful (l : Loading σ) (d : Declarations σ) (r : Registry σ) : Prop where
  declarations : r.declarations = d
  coherent : r.Coherent l

variable {l : Loading σ} {d : Declarations σ} {r r' : Registry σ}

theorem Faithful.declares (h : r.Faithful l d) : r.Declares d :=
  h.declarations ▸ r.declares_declarations

theorem Faithful.create (h : r.Faithful l d) (hl : l.Pure) (name : Text) (s : σ) :
    (r.create l name s).2.1.Faithful l d := by
  rw [create_registry]
  exact ⟨(r.declarations_resolve l name s).trans h.declarations, h.coherent.resolve hl name s⟩

/-- Two registries make processors that belong together, or fail in the same way. -/
theorem create_alike (iso : Isolation (d.Supplies l)) (h : r.Faithful l d) (h' : r'.Faithful l d)
    (hl : l.Pure) (name : Text) {ps : List (Processor σ × Processor σ)} {s s' : σ}
    (hs : iso.Corresponds ps s s') :
    (∃ e, (r.create l name s).1 = .error e ∧ (r'.create l name s').1 = .error e) ∨
      ∃ p p', (r.create l name s).1 = .ok p ∧ (r'.create l name s').1 = .ok p' ∧
        iso.Corresponds (ps ++ [(p, p')]) (r.create l name s).2.2 (r'.create l name s').2.2 := by
  obtain ⟨hresult, hworld⟩ := create_eq_declared h.declares h.coherent hl name s
  obtain ⟨hresult', hworld'⟩ := create_eq_declared h'.declares h'.coherent hl name s'
  rw [hresult, hresult', hworld, hworld']
  obtain ⟨given, hgiven⟩ := d.resolve_pure hl name
  simp only [Declarations.create, hgiven]
  cases hfactory : given with
  | error e => exact .inl ⟨e, rfl, rfl⟩
  | ok f =>
    have hmade := iso.make ⟨name, s, by rw [hgiven, hfactory]⟩ hs
    have hsetUp := (iso.alike hmade List.mem_concat_self).setUp
    simp only
    rcases hone : (f s).1.setUp (f s).2 with ⟨error, t⟩
    rcases hother : (f s').1.setUp (f s').2 with ⟨error', t'⟩
    rw [hone, hother] at hsetUp
    obtain rfl : error = error' := hsetUp.answer
    cases error with
    | some e => exact .inl ⟨_, rfl, rfl⟩
    | none => exact .inr ⟨_, _, rfl, rfl, hsetUp.world⟩

end Registry

/-- Two processors that belong together are handed the values from outside, if there are any. -/
theorem Processor.Alike.handed {R : σ → σ → Prop} {p p' : Processor σ} {s s' : σ}
    (h : p.Alike R p' s s') (hs : R s s') (parameters : Option ParameterValues) :
    R (match p.takeParameters, parameters with
        | some take, some _ => take s
        | _, _ => s)
      (match p'.takeParameters, parameters with
        | some take, some _ => take s'
        | _, _ => s') := by
  have hsome := h.takesParameters
  cases htake : p.takeParameters with
  | none =>
    rw [htake, Option.isSome_none, eq_comm, Option.isSome_eq_false_iff, Option.isNone_iff_eq_none]
      at hsome
    rw [hsome]
    exact hs
  | some take =>
    rw [htake, Option.isSome_some, eq_comm, Option.isSome_iff_exists] at hsome
    obtain ⟨take', htake'⟩ := hsome
    rw [htake']
    cases parameters with
    | none => exact hs
    | some values => exact h.takeParameters take htake take' htake'

/-! ## Two resolutions -/

variable {l : Loading σ} {d : Declarations σ}

/-- Stages two runs have come to side by side. -/
structure Stage.Alike (iso : Isolation (d.Supplies l)) (st st' : Stage σ) : Prop where
  processors : ∃ ps : Pairs σ, st.processors = ps.first ∧ st'.processors = ps.second ∧
    iso.Corresponds ps.values st.world st'.world
  first : st.registry.Faithful l d
  second : st'.registry.Faithful l d

namespace Resolving

/-- The resolution, at the stage of another run. -/
def withStage (r : Resolving σ) (st : Stage σ) : Resolving σ :=
  { r with
    settings := { r.settings with processors := st.processors }
    registry := st.registry
    world := st.world }

/-- Resolutions of two runs that differ in nothing but their stages. -/
structure Alike (iso : Isolation (d.Supplies l)) (r r' : Resolving σ) : Prop where
  rest : r' = r.withStage r'.stage
  stage : r.stage.Alike iso r'.stage

/-- A change of a resolution that does not see the stage. -/
def Blind (change : Resolving σ → Resolving σ) : Prop :=
  ∀ r st, change (r.withStage st) = (change r).withStage st

theorem Blind.stage {change : Resolving σ → Resolving σ} (h : Blind change) (r : Resolving σ) :
    (change r).stage = r.stage := by
  have hown : change r = (change r).withStage r.stage := h r r.stage
  rw [hown]
  rfl

theorem Blind.alike {change : Resolving σ → Resolving σ} (h : Blind change)
    {iso : Isolation (d.Supplies l)} {r r' : Resolving σ} (hr : r.Alike iso r') :
    (change r).Alike iso (change r') where
  rest := by
    rw [h.stage r']
    exact (congrArg change hr.rest).trans (h r r'.stage)
  stage := by
    rw [h.stage r, h.stage r']
    exact hr.stage

namespace Blind

variable {root key : Text} {x x' : Resolving σ × Directive} {st : Stage σ}

/-- A directive half taken up, at the stage of another run. -/
def restage (st : Stage σ) (x : Resolving σ × Directive) : Resolving σ × Directive :=
  (x.1.withStage st, x.2)

theorem takeText {use : Text → Resolving σ → Resolving σ} (h : x' = restage st x)
    (huse : ∀ value, Blind (use value)) :
    Resolving.takeText key use x' = restage st (Resolving.takeText key use x) := by
  subst h
  simp only [Resolving.takeText, restage]
  split
  · rw [huse]
  · rfl

theorem takeBool {default : Resolving σ → Bool} {use : Bool → Resolving σ → Resolving σ}
    (h : x' = restage st x) (hdefault : ∀ r st, default (r.withStage st) = default r)
    (huse : ∀ value, Blind (use value)) :
    Resolving.takeBool root key default use x' =
      restage st (Resolving.takeBool root key default use x) := by
  subst h
  simp only [Resolving.takeBool, restage, hdefault]
  rw [← huse]
  split <;> rfl

theorem complain (h : x' = restage st x) :
    Resolving.complain root x' = (Resolving.complain root x).withStage st := by
  obtain ⟨r, d⟩ := x
  subst h
  change Resolving.complain root (r.withStage st, d) = (Resolving.complain root (r, d)).withStage st
  unfold Resolving.complain
  dsimp only
  split <;> rfl

theorem template (root : Text) (d : Directive) :
    Blind fun r : Resolving σ => Resolving.complain root (r.template root d) := by
  intro r st
  refine complain ?_
  unfold Resolving.template
  refine takeText (takeBool (takeBool (takeText (takeBool (takeText (takeText rfl ?_) ?_) ?_ ?_) ?_)
    ?_ ?_) ?_ ?_) ?_
  · intro value r st
    dsimp only
    split <;> rfl
  all_goals first | exact fun _ _ => rfl | exact fun _ _ _ => rfl

theorem named (root : Text) (d : Directive) (key missing : Text)
    {use : Text → Resolving σ → Resolving σ} (huse : ∀ value, Blind (use value)) :
    Blind fun r : Resolving σ => Resolving.complain root (r.named root d key missing use) := by
  intro r st
  refine complain ?_
  simp only [Resolving.named, restage]
  split
  · rfl
  · rw [huse]

theorem note (root : Text) (d : Directive) (text : Text) (isWarning : Bool) :
    Blind fun r : Resolving σ => r.note root d text isWarning := fun _ _ => rfl

theorem importing (root : Text) (d : Directive) (name : Text) :
    Blind fun r : Resolving σ => Resolving.complain root
      ({ r with settings := { r.settings with imports := r.settings.imports.insert name } }, d) :=
  fun _ _ => complain rfl

theorem queueing (q : CustomDirective) : Blind fun r : Resolving σ =>
    { r with settings := { r.settings with custom := r.settings.custom ++ [q] } } := fun _ _ => rfl

theorem output (root : Text) (d : Directive) :
    Blind fun r : Resolving σ => Resolving.complain root (r.output root d) := by
  intro r st
  refine complain ?_
  unfold Resolving.output
  refine takeText (takeText rfl ?_) ?_
  · exact fun _ _ _ => rfl
  · intro value r st
    dsimp only
    split <;> rfl

end Blind

/-- How two resolutions are followed side by side: what holds between them along the way, and what
holds of parts of them at their ends. -/
structure Lockstep (options : ResolveOptions) (l l' : Loading σ) where
  Along : Resolving σ → Resolving σ → Prop
  Ends : Resolving σ × Option ResolveError → Resolving σ × Option ResolveError → Prop
  change {change : Resolving σ → Resolving σ} :
    Blind change → ∀ {r r'}, Along r r' → Along (change r) (change r')
  stop {r r' : Resolving σ} : Along r r' → ∀ error, Ends (r, error) (r', error)
  enqueue {r r' : Resolving σ} : Along r r' → ∀ processor directive,
    Ends (r.enqueue options l processor directive) (r'.enqueue options l' processor directive)
  /-- Both fail, or both go on. -/
  next {x x' : Resolving σ × Option ResolveError} : Ends x x' →
    x.2.isSome ∧ x'.2.isSome ∨ x.2 = none ∧ x'.2 = none ∧ Along x.1 x'.1

namespace Lockstep

variable {options : ResolveOptions} {l l' : Loading σ} {r r' : Resolving σ}

theorem step (k : Lockstep options l l') (h : k.Along r r') (root : Text) (directive : Directive) :
    k.Ends (r.step options l root directive) (r'.step options l' root directive) := by
  unfold Resolving.step
  cases DirectiveKind.ofName directive.name with
  | template => exact k.stop (k.change (Blind.template root directive) h) none
  | className | namespaceName =>
    exact k.stop (k.change (Blind.named root directive _ _ fun _ _ _ => rfl) h) none
  | importName =>
    dsimp only
    split
    · exact k.stop (k.change (Blind.note root directive _ false) h) none
    · exact k.stop (k.change (Blind.importing root _ _) h) none
  | output => exact k.stop (k.change (Blind.output root directive) h) none
  | includeFile => exact k.stop h _
  | parameter => exact k.enqueue h _ _
  | custom =>
    dsimp only
    split
    · exact k.stop h _
    · exact k.enqueue h _ _

theorem steps (k : Lockstep options l l') (h : k.Along r r') (root : Text) (ds : List Directive) :
    k.Ends (Resolving.steps options l root ds r) (Resolving.steps options l' root ds r') := by
  induction ds generalizing r r' with
  | nil => exact k.stop h none
  | cons directive ds ih =>
    have hstep := k.step h root directive
    unfold Resolving.steps
    rcases hone : r.step options l root directive with ⟨r₁, error⟩
    rcases hother : r'.step options l' root directive with ⟨r₁', error'⟩
    rw [hone, hother] at hstep
    rcases k.next hstep with ⟨herror, herror'⟩ | ⟨herror, herror', halong⟩
    · obtain ⟨e, rfl⟩ := Option.isSome_iff_exists.1 herror
      obtain ⟨e', rfl⟩ := Option.isSome_iff_exists.1 herror'
      exact hstep
    · cases herror
      cases herror'
      exact ih halong

end Lockstep

/-- Parts of two resolutions that end in the same way; unless they fail, they may go on. -/
structure EndAlike (iso : Isolation (d.Supplies l)) (x x' : Resolving σ × Option ResolveError) :
    Prop where
  error : x.2 = x'.2
  diagnostics : x.1.diagnostics = x'.1.diagnostics
  first : x.1.registry.Faithful l d
  second : x'.1.registry.Faithful l d
  alike : x.2 = none → x.1.Alike iso x'.1

variable {iso : Isolation (d.Supplies l)} {r r' : Resolving σ}

theorem Alike.diagnostics (h : r.Alike iso r') : r.diagnostics = r'.diagnostics := by
  rw [h.rest]
  rfl

theorem Alike.ends (h : r.Alike iso r') (error : Option ResolveError) :
    EndAlike iso (r, error) (r', error) :=
  ⟨rfl, h.diagnostics, h.stage.first, h.stage.second, fun _ => h⟩

variable (options : ResolveOptions) (hl : l.Pure)

include hl in
/-- Two runs bring processors into use that belong together, or fail in the same way. -/
theorem activate_alike (h : r.Alike iso r') (processor : Text) (directive : Directive) :
    let x := r.activate options l processor directive
    let x' := r'.activate options l processor directive
    (∃ e, x.2 = .error e ∧ x'.2 = .error e ∧ EndAlike iso (x.1, some e) (x'.1, some e)) ∨
      ∃ p p', x.2 = .ok p ∧ x'.2 = .ok p' ∧ x.1.Alike iso x'.1 ∧
        ∀ name, p.supports name = p'.supports name := by
  intro x x'
  obtain ⟨ps, hps, hps', hs⟩ := h.stage.processors
  have hx : x = r.activate options l processor directive := rfl
  have hx' : x' = r'.activate options l processor directive := rfl
  unfold activate at hx hx'
  rw [show r.settings.processors = ps.first from hps, Pairs.first,
    NameMap.find?_mapValues] at hx
  rw [show r'.settings.processors = ps.second from hps', Pairs.second,
    NameMap.find?_mapValues] at hx'
  cases hfind : ps.find? processor with
  | some pair =>
    rw [hfind] at hx hx'
    rw [hx, hx']
    have hpair := iso.alike hs (Pairs.mem_values_of_find? hfind)
    exact .inr ⟨_, _, rfl, rfl, h, hpair.supports⟩
  | none =>
    rw [hfind] at hx hx'
    have hone := h.stage.first.create hl processor r.world
    have hother := h.stage.second.create hl processor r'.world
    have hcreate := Registry.create_alike iso h.stage.first h.stage.second hl processor hs
    simp only [stage] at hone hother hcreate hx hx'
    rcases hr : r.registry.create l processor r.world with ⟨result, registry, s⟩
    rcases hr' : r'.registry.create l processor r'.world with ⟨result', registry', s'⟩
    rw [hr] at hone hcreate hx
    rw [hr'] at hother hcreate hx'
    obtain ⟨e, he, he'⟩ | ⟨p, p', hp, hp', hmade⟩ := hcreate
    · obtain rfl : result = .error e := he
      obtain rfl : result' = .error e := he'
      rw [hx, hx']
      refine .inl ⟨_, rfl, rfl, rfl, h.diagnostics, hone, hother, fun hnone => ?_⟩
      exact absurd hnone (Option.some_ne_none _)
    · obtain rfl : result = .ok p := hp
      obtain rfl : result' = .ok p' := hp'
      rw [hx, hx']
      have hpair := iso.alike hmade List.mem_concat_self
      refine .inr ⟨p, p', rfl, rfl, ⟨?_, ⟨?_, hone, hother⟩⟩, hpair.supports⟩
      · rw [h.rest]
        rfl
      · refine ⟨ps ++ [(processor, (p, p'))], ?_, ?_, ?_⟩
        · simp [stage, Pairs.first]
        · simp [stage, Pairs.second]
        · rw [Pairs.values, List.map_append]
          exact hpair.handed hmade options.parameters

include hl in
theorem enqueue_alike (h : r.Alike iso r') (processor : Text) (directive : Directive) :
    EndAlike iso (r.enqueue options l processor directive)
      (r'.enqueue options l processor directive) := by
  have hactivate := activate_alike options hl h processor directive
  unfold enqueue
  rcases hone : r.activate options l processor directive with ⟨r₁, result⟩
  rcases hother : r'.activate options l processor directive with ⟨r₁', result'⟩
  simp only [hone, hother] at hactivate
  obtain ⟨e, he, he', hend⟩ | ⟨p, p', hp, hp', halike, hsupports⟩ := hactivate
  · obtain rfl : result = .error e := he
    obtain rfl : result' = .error e := he'
    exact hend
  · obtain rfl : result = .ok p := hp
    obtain rfl : result' = .ok p' := hp'
    simp only [hsupports]
    split
    · exact ((Blind.queueing ⟨processor, directive⟩).alike halike).ends none
    · exact halike.ends _

/-- Two runs of hosts with one loader, followed side by side. -/
def lockstep (iso : Isolation (d.Supplies l)) : Lockstep options l l where
  Along := Alike iso
  Ends := EndAlike iso
  change hchange _ _ h := hchange.alike h
  stop h error := h.ends error
  enqueue h := enqueue_alike options hl h
  next {x x'} h := by
    obtain ⟨r, error⟩ := x
    obtain ⟨r', error'⟩ := x'
    obtain rfl : error = error' := h.error
    cases error with
    | some e => exact .inl ⟨rfl, rfl⟩
    | none => exact .inr ⟨rfl, rfl, h.alike rfl⟩

end Resolving

/-- Settings two runs have come to: what differs is processors that belong together. -/
inductive Settings.ResultAlike (iso : Isolation (d.Supplies l)) (s s' : σ) :
    Except ResolveError (Settings σ) → Except ResolveError (Settings σ) → Prop where
  | error (e : ResolveError) : ResultAlike iso s s' (.error e) (.error e)
  | ok {settings : Settings σ} {ps : Pairs σ} (hps : settings.processors = ps.first)
      (hs : iso.Corresponds ps.values s s') :
    ResultAlike iso s s' (.ok settings) (.ok { settings with processors := ps.second })

/-- Resolutions of two runs that end alike. -/
structure Settings.Resolved.Alike (iso : Isolation (d.Supplies l)) (x x' : Settings.Resolved σ) :
    Prop where
  result : Settings.ResultAlike iso x.world x'.world x.result x'.result
  diagnostics : x.diagnostics = x'.diagnostics
  first : x.registry.Faithful l d
  second : x'.registry.Faithful l d

theorem Settings.resolve_alike (iso : Isolation (d.Supplies l)) (hl : l.Pure)
    {registry registry' : Registry σ} (h : registry.Faithful l d) (h' : registry'.Faithful l d)
    (template : Template) (options : ResolveOptions) (s s' : σ) :
    Settings.Resolved.Alike iso (Settings.resolve template options l registry s)
      (Settings.resolve template options l registry' s') := by
  unfold Settings.resolve
  split
  · exact ⟨.error _, rfl, h, h'⟩
  · next encoding _ =>
    have hstart : Resolving.Alike iso ⟨.initial options encoding, template.diagnostics, registry, s⟩
        ⟨.initial options encoding, template.diagnostics, registry', s'⟩ :=
      ⟨rfl, ⟨[], rfl, rfl, iso.start s s'⟩, h, h'⟩
    have hsteps := (Resolving.lockstep options hl iso).steps hstart template.root template.directives
    dsimp only
    rcases hone : Resolving.steps options l template.root template.directives
      ⟨.initial options encoding, template.diagnostics, registry, s⟩ with ⟨r, error⟩
    rcases hother : Resolving.steps options l template.root template.directives
      ⟨.initial options encoding, template.diagnostics, registry', s'⟩ with ⟨r', error'⟩
    rw [hone, hother] at hsteps
    obtain rfl : error = error' := hsteps.error
    cases error with
    | some e => exact ⟨.error e, hsteps.diagnostics, hsteps.first, hsteps.second⟩
    | none =>
      have halike : r.Alike iso r' := hsteps.alike rfl
      obtain ⟨hrest, ⟨ps, hps, hps', hs⟩, -, -⟩ := halike
      refine ⟨?_, hsteps.diagnostics, hsteps.first, hsteps.second⟩
      have hsettings : r'.settings = { r.settings with processors := ps.second } := by
        rw [← hps']
        exact congrArg Resolving.settings hrest
      simp only [hsettings]
      exact .ok (show r.settings.named.processors = ps.first from hps) hs

/-! ## Runs -/

/-- The product without the processors that worked on it. -/
def Product.bare (p : Product σ) : Product σ :=
  { p with settings := { p.settings with processors := [] } }

/-- What a run comes to for whoever asked for it. -/
structure Outcome (σ : Type) where
  product : Option (Product σ)
  outputFile : Text
  diagnostics : Diagnostics
  error : Option RunError

def Run.outcome (run : Run σ) : Outcome σ :=
  ⟨run.product.map Product.bare, run.host.outputFile, run.host.diagnostics, run.error⟩

namespace Host

/-- The host as it is built: configured as it is, and before any run. -/
def rebuilt (h : Host σ) : Host σ :=
  { h with
    templateFile := []
    outputFile := []
    diagnostics := []
    registry := { h.registry with loaded := [] } }

/-- Runs one after the other, each of a file with its content. -/
def processAll (h : Host σ) (files : Files) : List (Text × Text) → σ → Host σ × σ
  | [], s => (h, s)
  | (file, content) :: runs, s =>
    let run := h.process files file content s
    run.host.processAll files runs run.world

/-- The end of a run, given its generation. -/
def conclude (h : Host σ) (template : Template) (settings : Settings σ) (g : Generated σ) : Run σ :=
  let h := { h with diagnostics := h.diagnostics ++ g.diagnostics }
  let settings := { settings with imports := g.imports, references := g.references }
  match g.result with
  | .ok text => ⟨h, some ⟨text, h.outputFile, settings, template⟩, none, g.world⟩
  | .error (.templateHasErrors ds) =>
    ⟨h, some ⟨[], h.outputFile, settings, template⟩, some (.templateHasErrors ds), g.world⟩
  | .error e => ⟨h, none, some (.generating template.root e), g.world⟩

/-- The host with the extension a template asks for, if it does. -/
def named (h : Host σ) (extension : Text) : Host σ :=
  if extension.isEmpty then h else h.setExtension extension

theorem finish_eq (h : Host σ) (template : Template) (settings : Settings σ)
    (diagnostics : Diagnostics) (s : σ) :
    h.finish template settings diagnostics s =
      (h.named settings.extension).conclude template settings
        (generate h.layout template settings (some h.parameters.lookup) diagnostics s) := by
  unfold finish named
  split <;> rfl

theorem conclude_alike {R : σ → σ → Prop} {g g' : Generated σ} (hg : g.Alike R g') (h : Host σ)
    (template : Template) (settings : Settings σ) (registry : Registry σ)
    (processors : NameMap (Processor σ)) :
    (h.conclude template settings g).outcome =
      (conclude { h with registry := registry } template { settings with processors := processors }
        g').outcome := by
  obtain ⟨result, ds, imports, references, s⟩ := g
  obtain ⟨_, _, _, _, s'⟩ := g'
  obtain ⟨rfl, rfl, rfl, rfl, -⟩ := hg
  cases result with
  | ok text => rfl
  | error e => cases e <;> rfl

/-- A run whose resolution is known. -/
def conclusion (h : Host σ) (file : Text) (template : Template) (r : Settings.Resolved σ) : Run σ :=
  let h := { h.start file with registry := r.registry }
  match r.result with
  | .error e =>
    ⟨{ h with diagnostics := h.diagnostics ++ r.diagnostics ++
        [.atLocation .empty file e.message false] }, none, some (.resolving file e), r.world⟩
  | .ok settings => h.finish template settings r.diagnostics r.world

variable {h : Host σ} {files : Files}

theorem conclusion_alike {iso : Isolation (d.Supplies l)} {r r' : Settings.Resolved σ}
    (hr : r.Alike iso r') (file : Text) (template : Template) :
    (h.conclusion file template r).outcome = (h.rebuilt.conclusion file template r').outcome := by
  obtain ⟨result, ds, registry, s⟩ := r
  obtain ⟨result', _, registry', s'⟩ := r'
  obtain ⟨hresult, rfl, -, -⟩ := hr
  cases hresult with
  | error e => rfl
  | @ok settings ps hps hs =>
    simp only [conclusion, finish_eq]
    refine (conclude_alike (generate_alike iso hps hs _ _ _ _) _ template settings registry'
      ps.second).trans ?_
    congr 2
    unfold named
    split <;> rfl

/-- What a run leaves in its host, besides file names and diagnostics, is the registry. -/
theorem rebuilt_conclusion (h : Host σ) (file : Text) (template : Template)
    (r : Settings.Resolved σ) :
    (h.conclusion file template r).host.registry = r.registry ∧
      (h.conclusion file template r).host.rebuilt = rebuilt { h with registry := r.registry } := by
  obtain ⟨result, ds, registry, s⟩ := r
  cases result with
  | error e => exact ⟨rfl, rfl⟩
  | ok settings =>
    simp only [conclusion, finish_eq, conclude, named]
    split <;> split <;> exact ⟨rfl, rfl⟩

section Pure

variable (hl : (h.loading files).Pure) (hc : h.registry.Coherent (h.loading files))
  (iso : Isolation (h.registry.declarations.Supplies (h.loading files)))
include hl hc iso

/-- The resolutions of a run, on the host and on the host as it is built. -/
theorem runResolved_alike (file content : Text) (s s' : σ) :
    Settings.Resolved.Alike iso (h.runResolved files file content s)
      (h.rebuilt.runResolved files file content s') := by
  have hfresh : h.rebuilt.registry.Faithful (h.loading files) h.registry.declarations :=
    ⟨rfl, Registry.coherent_of_loaded_nil rfl⟩
  exact Settings.resolve_alike iso hl ⟨rfl, hc⟩ hfresh (h.runTemplate files file content)
    (h.start file).resolveOptions s s'

/-- A run comes out as it does on the host as it is built. -/
theorem outcome_process (file content : Text) (s s' : σ) :
    (h.process files file content s).outcome = (h.rebuilt.process files file content s').outcome :=
  conclusion_alike (runResolved_alike hl hc iso file content s s') file
    (h.runTemplate files file content)

/-- A run leaves the configuration of its host as it is, and the registry coherent. -/
theorem rebuilt_process (file content : Text) (s : σ) :
    let run := h.process files file content s
    run.host.rebuilt = h.rebuilt ∧ run.host.registry.Coherent (h.loading files) := by
  intro run
  have hfaithful := (runResolved_alike hl hc iso file content s s).first
  obtain ⟨hregistry, hrebuilt⟩ := h.rebuilt_conclusion file (h.runTemplate files file content)
    (h.runResolved files file content s)
  constructor
  · refine hrebuilt.trans ?_
    exact congrArg (fun d : Declarations σ =>
      { h.rebuilt with registry := ⟨d.builtins, d.external, []⟩ }) hfaithful.declarations
  · exact hregistry ▸ hfaithful.coherent

end Pure

variable {h' : Host σ}

theorem loading_of_rebuilt (files : Files) (he : h'.rebuilt = h.rebuilt) :
    h'.loading files = h.loading files := by
  calc h'.loading files = h'.rebuilt.loading files := rfl
    _ = h.rebuilt.loading files := by rw [he]
    _ = h.loading files := rfl

theorem declarations_of_rebuilt (he : h'.rebuilt = h.rebuilt) :
    h'.registry.declarations = h.registry.declarations := by
  calc h'.registry.declarations = h'.rebuilt.registry.declarations := rfl
    _ = h.rebuilt.registry.declarations := by rw [he]
    _ = h.registry.declarations := rfl

/-- A host that finds assemblies itself loads from a table. -/
theorem loading_pure_of_own (h : Host σ) {types : NameMap (Factory σ)} (hown : h.supply = .own types)
    (files : Files) : (h.loading files).Pure := by
  intro load hload
  rw [loading, hown] at hload
  cases hload
  exact ⟨loadFrom types, fun _ _ _ => rfl⟩

/-- Runs leave the configuration of their host as it is, and the registry coherent. -/
theorem rebuilt_processAll (hl : (h.loading files).Pure)
    (hc : h.registry.Coherent (h.loading files))
    (hiso : Isolated (h.registry.declarations.Supplies (h.loading files)))
    (runs : List (Text × Text)) (s : σ) :
    (h.processAll files runs s).1.rebuilt = h.rebuilt ∧
      (h.processAll files runs s).1.registry.Coherent (h.loading files) := by
  induction runs generalizing h s with
  | nil => exact ⟨rfl, hc⟩
  | cons run runs ih =>
    obtain ⟨iso⟩ := hiso
    obtain ⟨hrebuilt, hcoherent⟩ := rebuilt_process hl hc iso run.1 run.2 s
    have hloading := loading_of_rebuilt files hrebuilt
    have hdeclarations := declarations_of_rebuilt hrebuilt
    rw [← hloading] at hl hcoherent
    obtain ⟨hrest, hlast⟩ := ih hl hcoherent (by rw [hloading, hdeclarations]; exact ⟨iso⟩)
      (h.process files run.1 run.2 s).world
    rw [hloading] at hlast
    exact ⟨hrest.trans hrebuilt, hlast⟩

end Host

/-- **Runs do not influence each other.** Take a host with a coherent registry and a pure loader, whose
processors share nothing between runs. After any runs, whatever became of them, a run makes the same
product under the same file name, with the same diagnostics and the same error, as on a host that is
freshly built and configured alike; in whatever worlds the two hosts began. -/
theorem runs_independent {h : Host σ} {files : Files} (hl : (h.loading files).Pure)
    (hc : h.registry.Coherent (h.loading files))
    (hiso : Isolated (h.registry.declarations.Supplies (h.loading files)))
    (runs : List (Text × Text)) (file content : Text) (s s' : σ) :
    let used := h.processAll files runs s
    (used.1.process files file content used.2).outcome =
      (h.rebuilt.process files file content s').outcome := by
  intro used
  obtain ⟨hrebuilt, hcoherent⟩ := Host.rebuilt_processAll hl hc hiso runs s
  have hloading := Host.loading_of_rebuilt files hrebuilt
  rw [← hloading, ← Host.declarations_of_rebuilt hrebuilt] at hiso
  rw [← hloading] at hl hcoherent
  obtain ⟨iso⟩ := hiso
  rw [← hrebuilt]
  exact Host.outcome_process hl hcoherent iso file content used.2 s'

/-- A processor that writes a longer line for each directive. -/
def counter : Processor Nat where
  __ := Processor.idle
  supports _ := true
  process _ w _ _ s := (⟨w.writeLine (utf8 "//" ++ List.replicate s 0x2B), [], none⟩, s + 1)

/-- It starts to count when it is made. -/
def makeCounter : Factory Nat := fun _ => (counter, 0)

def countingHost : Host Nat :=
  .standard (Registry.standard.register (utf8 "C") makeCounter) (.own []) .standard

def countingSource : Text := utf8 "<#@ widget processor=\"C\" #>"

theorem countingHost_supplies {files : Files} {f : Factory Nat}
    (h : countingHost.registry.declarations.Supplies (countingHost.loading files) f) :
    f = (fun s => (ParameterProcessor.processor, s)) ∨ f = makeCounter := by
  obtain ⟨name, s, hname⟩ := h
  have hbuiltins : countingHost.registry.declarations.builtins =
      [(ParameterProcessor.name, fun s => (ParameterProcessor.processor, s)),
        (utf8 "C", makeCounter)] := by rfl
  have hexternal : countingHost.registry.declarations.external = [] := rfl
  rw [Declarations.resolve, hbuiltins, hexternal, NameMap.find?_cons, NameMap.find?_cons] at hname
  by_cases hparameter : ParameterProcessor.name = name
  · simp only [hparameter, if_true, Except.ok.injEq] at hname
    exact .inl hname.symm
  · by_cases hcounter : utf8 "C" = name
    · simp only [hparameter, hcounter, if_true, if_false, Except.ok.injEq] at hname
      exact .inr hname.symm
    · simp [hparameter, hcounter, NameMap.find?] at hname

/-- Whatever it does, a processor does the same in the same world. -/
theorem Processor.Alike.refl {R : σ → σ → Prop} (hR : ∀ s, R s s) (p : Processor σ) (s : σ) :
    p.Alike R p s s where
  setUp := ⟨rfl, hR _⟩
  takesParameters := rfl
  takeParameters := by
    intro take htake take' htake'
    rw [Option.mem_unique htake htake']
    exact hR _
  supports _ := rfl
  start _ _ := ⟨rfl, hR _⟩
  process _ _ _ _ := ⟨rfl, hR _⟩
  finish := ⟨rfl, hR _⟩
  imports := ⟨rfl, hR _⟩
  references := ⟨rfl, hR _⟩
  classAttributes := ⟨rfl, hR _⟩
  notes _ := rfl

/-- The parameter processor neither reads the world nor changes it. -/
theorem ParameterProcessor.alike {R : σ → σ → Prop} {s s' : σ} (hs : R s s') :
    (processor : Processor σ).Alike R processor s s' where
  setUp := ⟨rfl, hs⟩
  takesParameters := rfl
  takeParameters := by
    rintro _ ⟨⟩ _ ⟨⟩
    exact hs
  supports _ := rfl
  start _ _ := ⟨rfl, hs⟩
  process _ _ _ _ := ⟨rfl, hs⟩
  finish := ⟨rfl, hs⟩
  imports := ⟨rfl, hs⟩
  references := ⟨rfl, hs⟩
  classAttributes := ⟨rfl, hs⟩
  notes _ := rfl

/-- Until a counter is made the worlds do not matter; from then on they are equal. -/
def countingIsolation (files : Files) :
    Isolation (countingHost.registry.declarations.Supplies (countingHost.loading files)) where
  Corresponds ps s s' :=
    (∀ pair ∈ ps, pair = (ParameterProcessor.processor, ParameterProcessor.processor)) ∨
      s = s' ∧ ∀ pair ∈ ps, pair.1 = pair.2
  start s s' := .inl (by simp)
  make {ps s s' f} hf h := by
    obtain rfl | rfl := countingHost_supplies hf
    · rcases h with h | ⟨rfl, h⟩
      · exact .inl (by simpa [or_imp, forall_and] using h)
      · exact .inr ⟨rfl, by simpa [or_imp, forall_and] using h⟩
    · have hsame : ∀ pair ∈ ps, pair.1 = pair.2 := by
        rcases h with h | ⟨-, h⟩
        · exact fun pair hpair => by rw [h pair hpair]
        · exact h
      exact .inr ⟨rfl, by simpa [or_imp, forall_and, makeCounter] using hsame⟩
  alike {ps s s'} h {p p'} hp := by
    rcases h with h | ⟨rfl, h⟩
    · obtain ⟨rfl, rfl⟩ := Prod.mk.injEq .. ▸ h _ hp
      exact ParameterProcessor.alike (.inl h)
    · obtain rfl : p = p' := h _ hp
      exact .refl (fun _ => .inr ⟨rfl, h⟩) p s

/-- The counter starts anew in each run, and so a template comes out the same the third time. -/
theorem runs_independent_counting :
    let files : Files := ⟨none, []⟩
    let used := countingHost.processAll files
      [(utf8 "t.tt", countingSource), (utf8 "t.tt", utf8 "<#@ widget #>")] 7
    (used.1.process files (utf8 "t.tt") countingSource used.2).outcome =
      (countingHost.rebuilt.process files (utf8 "t.tt") countingSource 0).outcome := by
  intro files
  exact runs_independent (countingHost.loading_pure_of_own rfl files)
    (Registry.coherent_of_loaded_nil rfl) ⟨countingIsolation files⟩ _ _ _ 7 0

end TextTemplate
