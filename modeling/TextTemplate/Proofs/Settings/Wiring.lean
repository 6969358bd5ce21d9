/-
The wiring of directives to processors. A resolution that succeeds has queued every directive that
is for a processor, in order and each as `Directive.Wires` says, and every queued directive names a
processor in use, which supports it (`Served`). So a generation with these settings never looks for
a processor in vain.

`resolve_wires` puts this together; the step and the run behind it are `Takes` of the resolution.
-/
import TextTemplate.Proofs.Processor.Lifecycle
import TextTemplate.Proofs.Template.Attributes

namespace TextTemplate

variable {σ : Type}

/-! ## The queue -/

namespace Directive

/-- How a directive is queued. A parameter directive goes to the parameter processor as it is,
whatever attributes it carries; any other goes to the processor it names, without that attribute. -/
inductive Wires (d : Directive) : CustomDirective → Prop where
  | parameter (hkind : DirectiveKind.ofName d.name = .parameter) :
    d.Wires ⟨ParameterProcessor.name, d⟩
  | custom {processor : Text} (hkind : DirectiveKind.ofName d.name = .custom)
      (hnamed : d.attributes.get? (utf8 "Processor") = some processor) (hne : processor ≠ []) :
    d.Wires ⟨processor, { d with attributes := d.attributes.erase (utf8 "Processor") }⟩

variable {d : Directive} {q : CustomDirective}

theorem wires_of_queued? (h : d.queued? = some q) : d.forProcessor = true ∧ d.Wires q := by
  unfold queued? at h
  split at h
  · next hkind =>
    cases h
    exact ⟨by simp [forProcessor, hkind], .parameter hkind⟩
  · next hkind =>
    cases hnamed : d.attributes.get? (utf8 "Processor") with
    | none => simp [Attributes.extract?, hnamed] at h
    | some processor =>
      simp only [Attributes.extract?, hnamed, Option.getD_some] at h
      split at h
      · cases h
      · next hne =>
        cases h
        exact ⟨by simp [forProcessor, hkind], .custom hkind hnamed hne⟩
  · cases h

/-- Where every directive for a processor is queued, the queue is these directives, in order. -/
theorem forall₂_wires {ds : List Directive}
    (h : ∀ d ∈ ds, d.forProcessor = true → d.queued?.isSome) :
    List.Forall₂ Wires (ds.filter forProcessor) (ds.filterMap queued?) := by
  induction ds with
  | nil => exact .nil
  | cons d ds ih =>
    have ih := ih fun d hd => h d (List.mem_cons_of_mem _ hd)
    cases hq : d.queued? with
    | some q =>
      obtain ⟨hfor, hwires⟩ := wires_of_queued? hq
      rw [List.filter_cons_of_pos hfor, List.filterMap_cons_some hq]
      exact .cons hwires ih
    | none =>
      have hfor : ¬d.forProcessor = true := by
        intro hfor
        have := h d List.mem_cons_self hfor
        simp [hq] at this
      rw [List.filter_cons_of_neg hfor, List.filterMap_cons_none hq]
      exact ih

/-- Being queued changes neither what kind of directive it is nor, for a parameter directive,
anything else; the processor of another is no longer among its attributes. -/
theorem Wires.kind (h : d.Wires q) :
    (DirectiveKind.ofName q.directive.name = .parameter ∧ q.processor = ParameterProcessor.name) ∨
      (DirectiveKind.ofName q.directive.name = .custom ∧
        q.directive.attributes.get? (utf8 "Processor") = none) := by
  cases h with
  | parameter hkind => exact .inl ⟨hkind, rfl⟩
  | custom hkind => exact .inr ⟨hkind, Attributes.get?_erase _ _⟩

end Directive

/-! ## The generation -/

open Output in
/-- Where every queued directive names one of the processors, none is looked for in vain. -/
theorem generate_ne_notActive {settings : Settings σ} (hnodup : settings.processors.names.Nodup)
    (hqueue : ∀ q ∈ settings.custom, q.processor ∈ settings.processors.names) (layout : Layout)
    (template : Template) (parameters : Option ParameterValues) (diagnostics : Diagnostics)
    (world : σ) (processor : Text) :
    (generate layout template settings parameters diagnostics world).result ≠
      .error (.processorNotActive processor) := by
  intro hfailed
  let cx : Context σ := ⟨⟨none, none⟩, template.source, parameters,
    membersWriter (runLayout layout template.root settings) settings.fileScoped⟩
  obtain ⟨calls, late, error, hfollows, -, -, hends, -⟩ :=
    generate_calls cx hnodup hqueue layout rfl rfl diagnostics world
  cases hends with
  | stopped hresult =>
    rw [hfailed] at hresult
    cases hresult
    obtain ⟨c, -, hstop⟩ := hfollows.exists_stop
    obtain ⟨phase, name, failure, heq⟩ := Call.exists_of_stop? hstop
    cases heq
  | unknownSegment _ _ _ hresult =>
    rw [hfailed] at hresult
    cases hresult
  | composed _ _ hresult =>
    rw [hfailed] at hresult
    split at hresult <;> cases hresult

/-! ## The resolution -/

open Resolving in
/-- **The wiring is complete.** When a resolution succeeds, the processors in use are pairwise
distinct and in the order of first use. The queue is the directives for processors, in order: a
parameter directive stands there as it is, for the parameter processor, any other without its
attribute `Processor`, for the processor it named. Each names a processor in use, which supports
it, so a generation never finds one missing. -/
theorem resolve_wires {template : Template} {options : ResolveOptions} {loading : Loading σ}
    {registry : Registry σ} {world : σ} {settings : Settings σ}
    (h : (Settings.resolve template options loading registry world).result = .ok settings) :
    settings.processors.names.Nodup ∧
      settings.processors.names = (settings.custom.map (·.processor)).eraseDups ∧
      List.Forall₂ Directive.Wires (template.directives.filter Directive.forProcessor)
        settings.custom ∧
      (∀ q ∈ settings.custom,
        (∃ p, settings.processors.find? q.processor = some p ∧
          p.supports q.directive.name = true) ∧
        ((DirectiveKind.ofName q.directive.name = .parameter ∧
            q.processor = ParameterProcessor.name) ∨
          (DirectiveKind.ofName q.directive.name = .custom ∧
            q.directive.attributes.get? (utf8 "Processor") = none))) ∧
      ∀ layout generated parameters diagnostics world' processor,
        (generate layout generated settings parameters diagnostics world').result ≠
          .error (.processorNotActive processor) := by
  let cx : Context σ := ⟨loading, template.source, options.parameters, .ofLayout .standard⟩
  obtain ⟨hcustom, hnames, -⟩ := resolve_ok cx rfl h
  obtain ⟨hnodup, hqueue⟩ := Output.processors_of_queue hnames
  obtain ⟨encoding, r, htakes, rfl, -⟩ := resolve_takes cx rfl h
  have hserved : Served r := htakes.served fun q hq => absurd hq (by simp [Settings.initial])
  have hwires := Directive.forall₂_wires htakes.complete
  rw [← hcustom] at hwires
  refine ⟨hnodup, hnames, hwires, fun q hq => ⟨hserved q hq, ?_⟩,
    generate_ne_notActive hnodup hqueue⟩
  rw [hcustom] at hq
  obtain ⟨d, -, hqueued⟩ := List.mem_filterMap.1 hq
  exact (Directive.wires_of_queued? hqueued).2.kind

/-- A parameter directive that names another processor, and an import, between two widgets. -/
def widgetTemplate : Template :=
  let line (n : Int64) : Span := .point ⟨utf8 "t.tt", n, 1⟩
  .ofSegments (utf8 "t.tt") [] [
    .directive ⟨utf8 "widget", .ofList [(utf8 "processor", utf8 "P"), (utf8 "size", utf8 "3")],
      line 1⟩,
    .directive ⟨utf8 "Parameter", .ofList [(utf8 "name", utf8 "n"), (utf8 "processor", utf8 "P")],
      line 2⟩,
    .directive ⟨utf8 "import", .ofList [(utf8 "namespace", utf8 "System.IO")], line 3⟩,
    .directive ⟨utf8 "WIDGET", .ofList [(utf8 "PROCESSOR", utf8 "P")], line 4⟩]

/-- The registry that knows a processor of widgets under the name `P`. -/
def widgetRegistry : Registry Unit :=
  .register .standard (utf8 "P")
    fun s => ({ Processor.idle with supports := fun d => d.eqFold (utf8 "widget") }, s)

/-- The widgets go to `P` and the parameter does not. -/
theorem resolve_wires_widgets :
    ∃ settings : Settings Unit,
      (Settings.resolve widgetTemplate .bare ⟨none, none⟩ widgetRegistry ()).result =
        .ok settings ∧
      settings.processors.names = [utf8 "P", ParameterProcessor.name] ∧
      List.Forall₂ Directive.Wires (widgetTemplate.directives.filter Directive.forProcessor)
        settings.custom ∧
      settings.custom.map (·.directive.attributes.names) =
        [[utf8 "size"], [utf8 "name", utf8 "processor"], []] := by
  have hok :
      (Settings.resolve widgetTemplate .bare ⟨none, none⟩ widgetRegistry ()).result.map
        (fun s => (s.processors.names, s.custom.map (·.directive.attributes.names))) =
      .ok ([utf8 "P", ParameterProcessor.name],
        [[utf8 "size"], [utf8 "name", utf8 "processor"], []]) := by decide +kernel
  cases hresult :
      (Settings.resolve widgetTemplate .bare ⟨none, none⟩ widgetRegistry ()).result with
  | error e =>
    rw [hresult] at hok
    cases hok
  | ok settings =>
    rw [hresult] at hok
    obtain ⟨hnames, hattributes⟩ := Prod.mk.inj (Except.ok.inj hok)
    obtain ⟨-, -, hwires, -⟩ := resolve_wires hresult
    exact ⟨settings, rfl, hnames, hwires, hattributes⟩
end TextTemplate
