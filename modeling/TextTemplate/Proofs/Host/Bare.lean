/-
Hosts that have nothing to load. Where no external processor can be loaded, a name stands for a
registered processor or for nothing. So what such a host makes of a template hangs on its registered
processors; what is declared besides, and how it would be loaded, only shows in what a failing run says
(`made?_process`).
-/
import TextTemplate.Proofs.Host.Independence

namespace TextTemplate

variable {σ : Type} {l l' : Loading σ}

namespace Registry

/-- Nothing is loaded, and nothing can be. -/
structure Bare (l : Loading σ) (r : Registry σ) : Prop where
  loaded : r.loaded = []
  fails : ∀ name e s, ∃ error, (load l name e s).1 = .error error

/-- A registered processor, set up for a run. -/
def createRegistered (r : Registry σ) (name : Text) (s : σ) : Option (Processor σ × σ) :=
  (r.builtins.find? name).bind fun f =>
    match (f s).1.setUp (f s).2 with
    | (some _, _) => none
    | (none, s') => some ((f s).1, s')

/-- A bare registry makes its registered processors and no others, and stays as it is. -/
theorem Bare.create {r : Registry σ} (h : r.Bare l) (name : Text) (s : σ) :
    match r.createRegistered name s with
    | none => ∃ error t, r.create l name s = (.error error, r, t)
    | some (p, t) => r.create l name s = (.ok p, r, t) := by
  unfold createRegistered Registry.create resolve
  cases r.builtins.find? name with
  | some f =>
    simp only [Option.bind_some]
    rcases (f s).1.setUp (f s).2 with ⟨_ | error, t⟩
    · rfl
    · exact ⟨_, t, rfl⟩
  | none =>
    simp only [Option.bind_none, h.loaded, show NameMap.find? ([] : NameMap (Factory σ)) name = none
      from rfl]
    cases r.external.find? name with
    | none => exact ⟨_, s, rfl⟩
    | some e =>
      obtain ⟨error, hload⟩ := h.fails name e s
      dsimp only
      rcases hresult : load l name e s with ⟨result, t⟩
      rw [hresult] at hload
      cases hload
      exact ⟨_, t, rfl⟩

end Registry

/-! ## Two resolutions -/

namespace Resolving

/-- Resolutions that differ in nothing but their registries. -/
structure SameBut (q q' : Registry σ) (r r' : Resolving σ) : Prop where
  rest : r' = { r with registry := r'.registry }
  first : r.registry = q
  second : r'.registry = q'

/-- Parts of two such resolutions: both fail, or both go on. Their registries stay as they are. -/
structure EndBut (q q' : Registry σ) (x x' : Resolving σ × Option ResolveError) : Prop where
  first : x.1.registry = q
  second : x'.1.registry = q'
  next : x.2.isSome ∧ x'.2.isSome ∨ x.2 = none ∧ x'.2 = none ∧ SameBut q q' x.1 x'.1

variable {q q' : Registry σ} {r r' : Resolving σ}

theorem SameBut.stop (h : SameBut q q' r r') (error : Option ResolveError) :
    EndBut q q' (r, error) (r', error) := by
  cases error with
  | some e => exact ⟨h.first, h.second, .inl ⟨rfl, rfl⟩⟩
  | none => exact ⟨h.first, h.second, .inr ⟨rfl, rfl, h⟩⟩

theorem Blind.sameBut {change : Resolving σ → Resolving σ} (hchange : Blind change)
    (h : SameBut q q' r r') : SameBut q q' (change r) (change r') := by
  have hfirst : (change r).registry = r.registry := congrArg Stage.registry (hchange.stage r)
  have hsecond : (change r').registry = r'.registry := congrArg Stage.registry (hchange.stage r')
  refine ⟨?_, hfirst.trans h.first, hsecond.trans h.second⟩
  have hown : change r = (change r).withStage r.stage := hchange r r.stage
  calc change r' = change (r.withStage { r.stage with registry := r'.registry }) :=
        congrArg change h.rest
    _ = (change r).withStage { r.stage with registry := r'.registry } := hchange r _
    _ = { change r with registry := (change r').registry } := by
      rw [hsecond, hown]
      rfl

variable (options : ResolveOptions) (hq : q.Bare l) (hq' : q'.Bare l')
  (hbuiltins : q'.builtins = q.builtins)
include hq hq' hbuiltins

theorem SameBut.enqueue (h : SameBut q q' r r') (processor : Text) (directive : Directive) :
    EndBut q q' (r.enqueue options l processor directive)
      (r'.enqueue options l' processor directive) := by
  have hone := hq.create processor r.world
  have hother := hq'.create processor r.world
  have hregistered : q'.createRegistered processor r.world =
      q.createRegistered processor r.world := by
    rw [Registry.createRegistered, hbuiltins]
    rfl
  rw [hregistered] at hother
  obtain ⟨settings, ds, registry, s⟩ := r
  obtain ⟨settings', ds', registry', s'⟩ := r'
  obtain ⟨hrest, rfl, rfl⟩ := h
  obtain ⟨rfl, rfl, -, rfl⟩ := Resolving.mk.inj hrest
  have h : SameBut registry registry' ⟨settings', ds', registry, s'⟩
      ⟨settings', ds', registry', s'⟩ := ⟨rfl, rfl, rfl⟩
  unfold Resolving.enqueue activate
  dsimp only at hone hother ⊢
  cases settings'.processors.find? processor with
  | some p =>
    dsimp only
    split
    · exact ((Blind.queueing ⟨processor, directive⟩).sameBut h).stop none
    · exact h.stop _
  | none =>
    cases hcreate : registry.createRegistered processor s' with
    | none =>
      rw [hcreate] at hone hother
      obtain ⟨e, t, hone⟩ := hone
      obtain ⟨e', t', hother⟩ := hother
      simp only [hone, hother]
      exact ⟨rfl, rfl, .inl ⟨rfl, rfl⟩⟩
    | some made =>
      obtain ⟨p, t⟩ := made
      rw [hcreate] at hone hother
      simp only [hone, hother]
      split
      · exact ⟨rfl, rfl, .inr ⟨rfl, rfl, rfl, rfl, rfl⟩⟩
      · exact ⟨rfl, rfl, .inl ⟨rfl, rfl⟩⟩

/-- Two runs whose registries are bare, followed side by side. -/
def bareLockstep : Lockstep options l l' where
  Along := SameBut q q'
  Ends := EndBut q q'
  change hchange _ _ h := hchange.sameBut h
  stop h error := h.stop error
  enqueue h := h.enqueue options hq hq' hbuiltins
  next h := h.next

end Resolving

/-! ## Two runs -/

/-- What a run makes, unless it fails. -/
def Run.made? (run : Run σ) : Option (Product σ) :=
  match run.error with
  | none => run.product
  | some _ => none

/-- The settings of a resolution that succeeds, with what a generation starts from besides. -/
def Settings.Resolved.success? (x : Settings.Resolved σ) : Option (Settings σ × Diagnostics × σ) :=
  x.result.toOption.map fun settings => (settings, x.diagnostics, x.world)

theorem Settings.resolve_bare {r r' : Registry σ} (h : r.Bare l) (h' : r'.Bare l')
    (hbuiltins : r'.builtins = r.builtins) (template : Template) (options : ResolveOptions) (s : σ) :
    (Settings.resolve template options l r s).registry = r ∧
      (Settings.resolve template options l r s).success? =
        (Settings.resolve template options l' r' s).success? := by
  unfold Settings.resolve
  split
  · exact ⟨rfl, rfl⟩
  · next encoding _ =>
    have hstart : Resolving.SameBut r r' ⟨.initial options encoding, template.diagnostics, r, s⟩
        ⟨.initial options encoding, template.diagnostics, r', s⟩ := ⟨rfl, rfl, rfl⟩
    obtain ⟨hfirst, -, hends⟩ := (Resolving.bareLockstep options h h' hbuiltins).steps hstart
      template.root template.directives
    dsimp only
    rcases hone : Resolving.steps options l template.root template.directives
      ⟨.initial options encoding, template.diagnostics, r, s⟩ with ⟨x, error⟩
    rcases hother : Resolving.steps options l' template.root template.directives
      ⟨.initial options encoding, template.diagnostics, r', s⟩ with ⟨x', error'⟩
    rw [hone] at hfirst hends
    rw [hother] at hends
    rcases hends with ⟨herror, herror'⟩ | ⟨herror, herror', hsame⟩
    · obtain ⟨e, rfl⟩ := Option.isSome_iff_exists.1 herror
      obtain ⟨e', rfl⟩ := Option.isSome_iff_exists.1 herror'
      exact ⟨hfirst, rfl⟩
    · cases herror
      cases herror'
      obtain ⟨settings, ds, registry, t⟩ := x
      obtain ⟨settings', ds', registry', t'⟩ := x'
      obtain ⟨rfl, rfl, -, rfl⟩ := Resolving.mk.inj hsame.rest
      exact ⟨hfirst, rfl⟩

/-! ## What a run makes -/

/-- What closes with a brace is not empty. -/
theorem Scope.out_close_brace_ne_nil (w : Writer) : (Scope.brace.close w).1.out ≠ [] := by
  have htag (i : Text) : Writer.indented i (utf8 "\x7d") = utf8 "\x7d" := rfl
  simp [Scope.close, Scope.brace, Writer.closeScope, Writer.writeLine, Writer.write, Writer.endLine,
    htag, show utf8 "\x7d" ≠ [] by decide]

theorem generate_ne_nil {l : Layout} {template : Template} {settings : Settings σ}
    {parameters : Option ParameterValues} {diagnostics : Diagnostics} {s : σ} {text : Text}
    (h : (generate l template settings parameters diagnostics s).result.toOption = some text) :
    text ≠ [] := by
  unfold generate at h
  dsimp only at h
  split at h
  · cases h
  · split at h
    · cases h
    · split at h
      · cases h
      · cases h
        unfold Output.compose
        cases settings.fileScoped <;> exact Scope.out_close_brace_ne_nil _

namespace Host

/-- The host with another registry, another supply of processors and another layout. -/
def equip (h : Host σ) (registry : Registry σ) (supply : Supply σ) (layout : Layout) : Host σ :=
  { h with registry := registry, supply := supply, layout := layout }

theorem made?_conclude (h : Host σ) (template : Template) (settings : Settings σ)
    (g : Generated σ) :
    (h.conclude template settings g).made? = g.result.toOption.map fun text =>
      ⟨text, h.outputFile, { settings with imports := g.imports, references := g.references },
        template⟩ := by
  obtain ⟨result, _, _, _, _⟩ := g
  cases result with
  | ok text => rfl
  | error e => cases e <;> rfl

/-- What is made of settings does not hang on the registry or the supply of processors. -/
theorem made?_finish (h : Host σ) (registry : Registry σ) (supply : Supply σ) (template : Template)
    (settings : Settings σ) (diagnostics : Diagnostics) (s : σ) :
    ((h.equip registry supply h.layout).finish template settings diagnostics s).made? =
      (h.finish template settings diagnostics s).made? := by
  rw [finish_eq, finish_eq, made?_conclude, made?_conclude]
  unfold named
  split <;> rfl

/-- What is made of a resolution hangs on what it comes to if it succeeds. -/
theorem made?_conclusion (h : Host σ) (registry : Registry σ) (supply : Supply σ) (file : Text)
    (template : Template) (x : Settings.Resolved σ) :
    ((h.equip registry supply h.layout).conclusion file template x).made? =
      x.success?.bind fun (settings, diagnostics, s) =>
        ((h.start file).finish template settings diagnostics s).made? := by
  obtain ⟨result, diagnostics, loaded, s⟩ := x
  cases result with
  | error e => rfl
  | ok settings =>
    exact (h.start file).made?_finish loaded supply template settings diagnostics s

/-- Of what is generated the text is not empty. -/
theorem text_ne_nil {h : Host σ} {files : Files} {file content : Text} {s : σ} {p : Product σ}
    (hp : (h.process files file content s).made? = some p) : p.text ≠ [] := by
  have hmade := h.made?_conclusion h.registry h.supply file (h.runTemplate files file content)
    (h.runResolved files file content s)
  obtain ⟨⟨settings, diagnostics, t⟩, -, hx⟩ := Option.bind_eq_some_iff.1 (hmade.symm.trans hp)
  dsimp only at hx
  rw [finish_eq, made?_conclude] at hx
  obtain ⟨text, htext, rfl⟩ := Option.map_eq_some_iff.1 hx
  exact generate_ne_nil htext

/-- A run without an error has made something. -/
theorem product_of_error_eq_none (h : Host σ) (files : Files) (file content : Text) (s : σ)
    (herror : (h.process files file content s).error = none) :
    ∃ p, (h.process files file content s).product = some p := by
  rw [process_eq] at herror ⊢
  dsimp only at herror ⊢
  split at herror
  · cases herror
  · rw [finish_eq, conclude] at herror ⊢
    dsimp only at herror ⊢
    split at herror
    · exact ⟨_, rfl⟩
    · cases herror
    · cases herror

/-- **What a bare host makes of a template** hangs on its registered processors, and not on how others
would be loaded. Its registry stays as it is. -/
theorem made?_process {h h' : Host σ} {files files' : Files} {file content : Text}
    (hrest : h' = h.equip h'.registry h'.supply h.layout)
    (hr : h.registry.Bare (h.loading files)) (hr' : h'.registry.Bare (h'.loading files'))
    (hbuiltins : h'.registry.builtins = h.registry.builtins)
    (htemplate : h.runTemplate files' file content = h.runTemplate files file content) (s : σ) :
    (h.process files file content s).host.registry = h.registry ∧
      (h.process files file content s).made? = (h'.process files' file content s).made? := by
  generalize h'.registry = registry at hrest hr' hbuiltins
  generalize h'.supply = supply at hrest
  subst hrest
  obtain ⟨hregistry, hsuccess⟩ := Settings.resolve_bare hr hr' hbuiltins
    (h.runTemplate files file content) (h.start file).resolveOptions s
  refine ⟨(rebuilt_conclusion _ file _ _).1.trans hregistry, ?_⟩
  have hother := h.made?_conclusion registry supply file (h.runTemplate files' file content)
    (Settings.resolve (h.runTemplate files' file content) (h.start file).resolveOptions
      ((h.equip registry supply h.layout).loading files') registry s)
  calc (h.process files file content s).made?
      = _ := h.made?_conclusion h.registry h.supply file (h.runTemplate files file content) _
    _ = _ := congrArg (Option.bind · _) hsuccess
    _ = ((h.equip registry supply h.layout).process files' file content s).made? := by
      rw [← htemplate]
      exact hother.symm

end Host

end TextTemplate
