/-
The calls of a resolution. The directives are taken in order. Each processor that a directive names
is brought into use where it is first named (`activation`), so the processors stand in the order of
first use and none is there twice (`Takes.settled`); the directives are queued as they come. `Keeps`
is what every directive does that is not queued. A resolution is cut short only by a directive that
fails it, and `Refused` says with which calls.
-/
import Mathlib.Data.List.Induction
import TextTemplate.Proofs.Processor.Calls

namespace TextTemplate

variable {σ : Type}

/-- No name comes twice when repeats are erased. -/
theorem nodup_eraseDups (names : List Text) : names.eraseDups.Nodup := by
  induction names using List.reverseRecOn with
  | nil => exact List.nodup_nil
  | append_singleton names name ih =>
    rw [List.eraseDups_append, List.removeAll, List.filter_cons]
    split
    · next hname =>
      rw [List.nodup_append]
      refine ⟨ih, by simp [List.eraseDups_cons], fun a ha b hb hab => ?_⟩
      simp only [List.filter_nil, List.eraseDups_cons, List.eraseDups_nil, List.mem_singleton] at hb
      rw [List.mem_eraseDups, hab, hb] at ha
      simp [ha] at hname
    · simpa using ih

/-! ## Activation -/

/-- The calls that bring a processor into use. -/
def activation (cx : Context σ) (e : Text × Processor σ) : List Call :=
  [.create e.1 none, .setUp e.1 none]
    ++ if e.2.takeParameters.isSome && cx.parameters.isSome then [.takeParameters e.1] else []

/-- The stage a resolution has come to. -/
def Resolving.stage (r : Resolving σ) : Stage σ := ⟨r.registry, r.settings.processors, r.world⟩

/-- The directive as it is queued, and for whom; nothing for a directive of another kind, or one
that names no processor. -/
def Directive.queued? (d : Directive) : Option CustomDirective :=
  match DirectiveKind.ofName d.name with
  | .parameter => some ⟨ParameterProcessor.name, d⟩
  | .custom =>
    let (processor, rest) := d.attributes.extract? (utf8 "Processor")
    if processor.getD [] = [] then none
    else some ⟨processor.getD [], { d with attributes := rest }⟩
  | _ => none

/-- Whether a directive is for a processor: a parameter directive, or one of unknown name. -/
def Directive.forProcessor (d : Directive) : Bool :=
  match DirectiveKind.ofName d.name with
  | .parameter | .custom => true
  | _ => false

/-- The calls made for a directive that fails a resolution with the given processors in use, and the
failure. -/
inductive Refused (cx : Context σ) (ps : NameMap (Processor σ)) (d : Directive) :
    List Call → ResolveError → Prop where
  /-- An include directive. -/
  | includeFile (hkind : DirectiveKind.ofName d.name = .includeFile) :
    Refused cx ps d [] .includeDirective
  /-- A custom directive without a processor. -/
  | noProcessor (hkind : DirectiveKind.ofName d.name = .custom) (hnone : d.queued? = none) :
    Refused cx ps d [] (.noProcessor d.name)
  /-- There is no processor to make. -/
  | missing {q : CustomDirective} {e : RegistryError} (hq : d.queued? = some q)
      (hnew : q.processor ∉ ps.names) :
    Refused cx ps d [.create q.processor (some e)] (.registry d.name e)
  /-- The processor cannot be set up. -/
  | setUp {q : CustomDirective} {e : ProcessorError} (hq : d.queued? = some q)
      (hnew : q.processor ∉ ps.names) :
    Refused cx ps d [.create q.processor none, .setUp q.processor (some e)]
      (.registry d.name (.setUpFailed q.processor e))
  /-- The processor does not support the directive; it was in use, or it is now. -/
  | unsupported {q : CustomDirective} {new : NameMap (Processor σ)} {p : Processor σ}
      (hq : d.queued? = some q) (hnew : new.names = [q.processor].filter (· ∉ ps.names))
      (hp : (ps ++ new).find? q.processor = some p) (hsupports : p.supports d.name = false) :
    Refused cx ps d (new.flatMap (activation cx)) (.unsupportedDirective q.processor d.name)

section Activation

variable {cx : Context σ} {options : ResolveOptions} {r r' : Resolving σ} {name : Text}
  {d : Directive}

/-- Making a processor and setting it up. -/
theorem create_ok {ps : NameMap (Processor σ)} {registry registry' : Registry σ} {s s' : σ}
    {p : Processor σ} (hnew : name ∉ ps.names)
    (h : registry.create cx.loading name s = (.ok p, registry', s')) :
    Calls cx ⟨registry, ps, s⟩ [.create name none, .setUp name none]
      ⟨registry', ps ++ [(name, p)], s'⟩ := by
  unfold Registry.create at h
  split at h
  · cases h
  · next f registry'' t hlook =>
    dsimp only at h
    split at h
    · cases h
    · next t' hset =>
      cases h
      have hsetUp : Invokes cx ⟨registry', ps ++ [(name, (f t).1)], (f t).2⟩ _ _ :=
        .setUp (NameMap.find?_concat hnew (f t).1)
      rw [hset] at hsetUp
      exact .cons (.create hnew hlook) (.one hsetUp)

/-- Handing the values from outside to a processor that reads them. -/
theorem takeParameters_calls {st : Stage σ} {p : Processor σ}
    (hp : st.processors.find? name = some p) :
    Calls cx st
      (if p.takeParameters.isSome && cx.parameters.isSome then [.takeParameters name] else [])
      { st with
        world := match p.takeParameters, cx.parameters with
          | some take, some _ => take st.world
          | _, _ => st.world } := by
  rcases htake : p.takeParameters with _ | take
  · exact .nil
  · rcases hvalues : cx.parameters with _ | values
    · exact .nil
    · exact .one (.takeParameters hp htake (by simp [hvalues]))

/-- Bringing a processor into use. -/
theorem activate_ok (hparameters : cx.parameters = options.parameters) {p : Processor σ}
    (h : r.activate options cx.loading name d = (r', .ok p)) :
    ∃ new : NameMap (Processor σ), Calls cx r.stage (new.flatMap (activation cx)) r'.stage ∧
      new.names = [name].filter (· ∉ r.settings.processors.names) ∧
      r'.settings = { r.settings with processors := r.settings.processors ++ new } ∧
      r'.settings.processors.find? name = some p ∧ r'.diagnostics = r.diagnostics := by
  unfold Resolving.activate at h
  split at h
  · next hfind =>
    cases h
    have hmem := NameMap.mem_names_of_find? hfind
    exact ⟨[], .nil, by simp [hmem], by simp, hfind, rfl⟩
  · next hfind =>
    have hnew := NameMap.find?_eq_none_iff.1 hfind
    split at h
    · cases h
    · next p' registry world hcreate =>
      cases h
      have hmade : Calls cx _ _ _ := create_ok hnew hcreate
      have htake : Calls cx ⟨registry, r.settings.processors ++ [(name, p)], world⟩ _ _ :=
        takeParameters_calls (NameMap.find?_concat hnew p)
      refine ⟨[(name, p)], ?_, by simp [hnew], rfl, NameMap.find?_concat hnew p, rfl⟩
      rw [List.flatMap_singleton, activation]
      rw [hparameters] at htake ⊢
      exact hmade.trans htake

/-- A processor that cannot be brought into use. -/
theorem activate_error {e : ResolveError}
    (h : r.activate options cx.loading name d = (r', .error e)) :
    name ∉ r.settings.processors.names ∧ r'.diagnostics = r.diagnostics ∧
      ∃ calls st', Calls cx r.stage calls st' ∧ st'.registry = r'.registry ∧
        st'.world = r'.world ∧
        ((∃ err, calls = [.create name (some err)] ∧ e = .registry d.name err) ∨
          ∃ err, calls = [.create name none, .setUp name (some err)] ∧
            e = .registry d.name (.setUpFailed name err)) := by
  unfold Resolving.activate at h
  split at h
  · cases h
  · next hfind =>
    have hnew := NameMap.find?_eq_none_iff.1 hfind
    split at h
    · next err registry world hcreate =>
      cases h
      refine ⟨hnew, rfl, ?_⟩
      unfold Registry.create at hcreate
      split at hcreate
      · next hlook =>
        cases hcreate
        exact ⟨_, _, .one (.missing hnew hlook), rfl, rfl, .inl ⟨_, rfl, rfl⟩⟩
      · next f registry' t hlook =>
        dsimp only at hcreate
        split at hcreate
        · next err' t' hset =>
          cases hcreate
          have hsetUp :
              Invokes cx ⟨registry, r.settings.processors ++ [(name, (f t).1)], (f t).2⟩ _ _ :=
            .setUp (NameMap.find?_concat hnew (f t).1)
          rw [hset] at hsetUp
          exact ⟨_, _, .cons (.create hnew hlook) (.one hsetUp), rfl, rfl, .inr ⟨_, rfl, rfl⟩⟩
        · cases hcreate
    · cases h

end Activation

/-! ## Directives that are not queued -/

namespace Resolving

/-- What a directive that is not queued leaves as it is. It may add diagnostics. -/
structure Keeps (r r' : Resolving σ) : Prop where
  stage : r'.stage = r.stage
  custom : r'.settings.custom = r.settings.custom
  diagnostics : r.diagnostics <+: r'.diagnostics

namespace Keeps

variable {r r' r'' : Resolving σ} {x : Resolving σ × Directive} {root key : Text} {d : Directive}

theorem refl (r : Resolving σ) : Keeps r r := ⟨rfl, rfl, List.prefix_rfl⟩

theorem processors (h : Keeps r r') : r'.settings.processors = r.settings.processors :=
  congrArg Stage.processors h.stage

theorem trans (h : Keeps r r') (h' : Keeps r' r'') : Keeps r r'' :=
  ⟨h'.stage.trans h.stage, h'.custom.trans h.custom, h.diagnostics.trans h'.diagnostics⟩

theorem note (text : Text) (isWarning : Bool) : Keeps r (r.note root d text isWarning) :=
  ⟨rfl, rfl, List.prefix_append _ _⟩

theorem takeText {use : Text → Resolving σ → Resolving σ} (h : Keeps r x.1)
    (huse : ∀ value r, Keeps r (use value r)) : Keeps r (Resolving.takeText key use x).1 := by
  unfold Resolving.takeText
  split
  · exact h.trans (huse _ _)
  · exact h

theorem takeBool {default : Resolving σ → Bool} {use : Bool → Resolving σ → Resolving σ}
    (h : Keeps r x.1) (huse : ∀ value r, Keeps r (use value r)) :
    Keeps r (Resolving.takeBool root key default use x).1 := by
  unfold Resolving.takeBool
  refine Keeps.trans ?_ (huse _ _)
  split
  · exact h.trans (note _ _)
  · exact h

theorem complain (h : Keeps r x.1) : Keeps r (Resolving.complain root x) := by
  unfold Resolving.complain
  dsimp only
  split
  · exact h
  · exact h.trans (note _ _)

theorem template : Keeps r (r.template root d).1 := by
  unfold Resolving.template
  refine takeText (takeBool (takeBool (takeText (takeBool (takeText (takeText (refl r) ?_) ?_) ?_)
    ?_) ?_) ?_) ?_ <;> intro value r
  · -- only an unsupported language adds an error
    dsimp only
    split
    · exact ⟨rfl, rfl, List.prefix_rfl⟩
    · exact ⟨rfl, rfl, List.prefix_append _ _⟩
  all_goals exact ⟨rfl, rfl, List.prefix_rfl⟩

theorem named {missing : Text} {use : Text → Resolving σ → Resolving σ}
    (huse : ∀ value r, Keeps r (use value r)) : Keeps r (r.named root d key missing use).1 := by
  unfold Resolving.named
  dsimp only
  split
  · exact note _ _
  · exact huse _ _

theorem output : Keeps r (r.output root d).1 := by
  unfold Resolving.output
  refine takeText (takeText (refl r) ?_) ?_ <;> intro value r
  · exact ⟨rfl, rfl, List.prefix_rfl⟩
  · dsimp only
    split
    · exact ⟨rfl, rfl, List.prefix_rfl⟩
    · exact note _ _

end Keeps

/-! ## One directive -/

/-- The processors in use are those of the queued directives, in the order of first use. -/
def Settled (r : Resolving σ) : Prop :=
  r.settings.processors.names = (r.settings.custom.map (·.processor)).eraseDups

/-- Each queued directive names a processor in use, which supports it. -/
def Served (r : Resolving σ) : Prop :=
  ∀ q ∈ r.settings.custom,
    ∃ p, r.settings.processors.find? q.processor = some p ∧ p.supports q.directive.name = true

/-- Directives taken up without a failure, and the processors they bring into use. -/
structure Takes (cx : Context σ) (r : Resolving σ) (ds : List Directive)
    (new : NameMap (Processor σ)) (r' : Resolving σ) : Prop where
  calls : Calls cx r.stage (new.flatMap (activation cx)) r'.stage
  processors : r'.settings.processors = r.settings.processors ++ new
  custom : r'.settings.custom = r.settings.custom ++ ds.filterMap Directive.queued?
  complete : ∀ d ∈ ds, d.forProcessor = true → d.queued?.isSome
  settled : Settled r → Settled r'
  served : Served r → Served r'
  diagnostics : r.diagnostics <+: r'.diagnostics

variable {cx : Context σ} {options : ResolveOptions} {root : Text} {r r' r'' : Resolving σ}
  {d : Directive} {ds ds' : List Directive} {new new' : NameMap (Processor σ)}

namespace Takes

theorem nil : Takes cx r [] [] r :=
  ⟨.nil, by simp, by simp, by simp, id, id, List.prefix_rfl⟩

theorem append (h : Takes cx r ds new r') (h' : Takes cx r' ds' new' r'') :
    Takes cx r (ds ++ ds') (new ++ new') r'' where
  calls := by
    rw [List.flatMap_append]
    exact h.calls.trans h'.calls
  processors := by rw [h'.processors, h.processors, List.append_assoc]
  custom := by rw [h'.custom, h.custom, List.filterMap_append, List.append_assoc]
  complete d hd := (List.mem_append.1 hd).elim (h.complete d) (h'.complete d)
  settled hr := h'.settled (h.settled hr)
  served hr := h'.served (h.served hr)
  diagnostics := h.diagnostics.trans h'.diagnostics

/-- A directive that is not queued. -/
theorem of_keeps (h : Keeps r r') (hfor : d.forProcessor = false) (hd : d.queued? = none) :
    Takes cx r [d] [] r' where
  calls := h.stage ▸ .nil
  processors := by simp [h.processors]
  custom := by simp [h.custom, hd]
  complete := by simp [hfor]
  settled hr := by
    rw [Settled, h.processors, h.custom]
    exact hr
  served hr := by
    rw [Served, h.processors, h.custom]
    exact hr
  diagnostics := h.diagnostics

end Takes

/-- Queueing a directive names its processor last, unless it is there. -/
theorem settled_concat {q : CustomDirective} (hr : Settled r)
    (hnew : new.names = [q.processor].filter (· ∉ r.settings.processors.names))
    (hps : r'.settings.processors = r.settings.processors ++ new)
    (hcustom : r'.settings.custom = r.settings.custom ++ [q]) : Settled r' := by
  rw [Settled] at hr ⊢
  rw [hps, hcustom, NameMap.names_append, List.map_append, List.eraseDups_append, ← hr, hnew]
  congr 1
  have hmem : q.processor ∈ r.settings.processors.names ↔
      q.processor ∈ r.settings.custom.map (·.processor) := by rw [hr, List.mem_eraseDups]
  simp only [List.map_singleton, List.removeAll, List.filter_cons, List.filter_nil]
  by_cases hq : q.processor ∈ r.settings.processors.names
  · simp [hq, hmem.1 hq]
  · simp [hq, mt hmem.2 hq, List.eraseDups_cons]

/-- Queueing a directive keeps the processors of those in front of it. -/
theorem served_concat {q : CustomDirective} {p : Processor σ} (hr : Served r)
    (hps : r'.settings.processors = r.settings.processors ++ new)
    (hcustom : r'.settings.custom = r.settings.custom ++ [q])
    (hp : r'.settings.processors.find? q.processor = some p)
    (hsupports : p.supports q.directive.name = true) : Served r' := by
  intro q' hq'
  rw [hcustom] at hq'
  rcases List.mem_append.1 hq' with hq' | hq'
  · obtain ⟨p', hp', hsupports'⟩ := hr q' hq'
    exact ⟨p', by rw [hps, NameMap.find?_append, hp']; rfl, hsupports'⟩
  · obtain rfl := List.mem_singleton.1 hq'
    exact ⟨p, hp, hsupports⟩

/-- A directive that is queued. -/
theorem enqueue_ok (hparameters : cx.parameters = options.parameters) {d' : Directive} {name : Text}
    (hd : d'.queued? = some ⟨name, d⟩)
    (h : r.enqueue options cx.loading name d = (r', none)) :
    ∃ new, Takes cx r [d'] new r' := by
  unfold enqueue at h
  split at h
  · cases h
  · next r'' p hactivate =>
    obtain ⟨new, hcalls, hnew, hsettings, hp, hdiagnostics⟩ := activate_ok hparameters hactivate
    split at h
    · next hsupports =>
      cases h
      have hps : r''.settings.processors = r.settings.processors ++ new := by rw [hsettings]
      have hcustom : r''.settings.custom ++ [⟨name, d⟩] = r.settings.custom ++ [⟨name, d⟩] := by
        rw [hsettings]
      exact ⟨new, hcalls, hps, by simpa [hd] using hcustom, by simp [hd],
        fun hr => settled_concat hr hnew hps hcustom,
        fun hr => served_concat hr hps hcustom hp hsupports, hdiagnostics ▸ List.prefix_rfl⟩
    · cases h

/-- A directive that cannot be queued. -/
theorem enqueue_error (hparameters : cx.parameters = options.parameters) {d' : Directive}
    {name : Text} {e : ResolveError} (hd : d'.queued? = some ⟨name, d⟩) (hname : d.name = d'.name)
    (h : r.enqueue options cx.loading name d = (r', some e)) :
    r'.diagnostics = r.diagnostics ∧ ∃ calls st', Refused cx r.settings.processors d' calls e ∧
      Calls cx r.stage calls st' ∧ st'.registry = r'.registry ∧ st'.world = r'.world := by
  unfold enqueue at h
  split at h
  · next r'' e' hactivate =>
    cases h
    obtain ⟨hnew, hdiagnostics, calls, st', hcalls, hregistry, hworld, hcases⟩ :=
      activate_error hactivate
    refine ⟨hdiagnostics, calls, st', ?_, hcalls, hregistry, hworld⟩
    obtain ⟨err, rfl, rfl⟩ | ⟨err, rfl, rfl⟩ := hcases
    · exact hname ▸ .missing hd hnew
    · exact hname ▸ .setUp hd hnew
  · next r'' p hactivate =>
    obtain ⟨new, hcalls, hnew, hsettings, hp, hdiagnostics⟩ := activate_ok hparameters hactivate
    split at h
    · cases h
    · next hsupports =>
      cases h
      refine ⟨hdiagnostics, _, _, ?_, hcalls, rfl, rfl⟩
      rw [hsettings] at hp
      exact hname ▸ .unsupported hd hnew hp (by simpa [hname] using hsupports)

/-- What a directive does that is taken up: it is none for a processor and leaves the queue and the
processors as they are, or it is queued. -/
theorem step_cases {loading : Loading σ} (h : r.step options loading root d = (r', none)) :
    (d.forProcessor = false ∧ d.queued? = none ∧ Keeps r r') ∨
      ∃ q, d.queued? = some q ∧
        r.enqueue options loading q.processor q.directive = (r', none) := by
  unfold step at h
  split at h
  · next hkind =>
    obtain ⟨rfl, -⟩ := Prod.mk.inj h
    exact .inl ⟨by simp [Directive.forProcessor, hkind], by simp [Directive.queued?, hkind],
      .complain .template⟩
  · next hkind =>
    obtain ⟨rfl, -⟩ := Prod.mk.inj h
    exact .inl ⟨by simp [Directive.forProcessor, hkind], by simp [Directive.queued?, hkind],
      .complain (.named fun _ _ => ⟨rfl, rfl, List.prefix_rfl⟩)⟩
  · next hkind =>
    obtain ⟨rfl, -⟩ := Prod.mk.inj h
    exact .inl ⟨by simp [Directive.forProcessor, hkind], by simp [Directive.queued?, hkind],
      .complain (.named fun _ _ => ⟨rfl, rfl, List.prefix_rfl⟩)⟩
  · next hkind =>
    have hfor : d.forProcessor = false := by simp [Directive.forProcessor, hkind]
    have hd : d.queued? = none := by simp [Directive.queued?, hkind]
    split at h
    · obtain ⟨rfl, -⟩ := Prod.mk.inj h
      exact .inl ⟨hfor, hd, .note _ _⟩
    · obtain ⟨rfl, -⟩ := Prod.mk.inj h
      exact .inl ⟨hfor, hd, .complain ⟨rfl, rfl, List.prefix_rfl⟩⟩
  · next hkind =>
    obtain ⟨rfl, -⟩ := Prod.mk.inj h
    exact .inl ⟨by simp [Directive.forProcessor, hkind], by simp [Directive.queued?, hkind],
      .complain .output⟩
  · cases h
  · next hkind =>
    exact .inr ⟨⟨ParameterProcessor.name, d⟩, by simp [Directive.queued?, hkind], h⟩
  · next hkind =>
    dsimp only at h
    split at h
    · cases h
    · next hname =>
      exact .inr ⟨⟨(d.attributes.extract? (utf8 "Processor")).1.getD [],
          { d with attributes := (d.attributes.extract? (utf8 "Processor")).2 }⟩,
        by simpa [Directive.queued?, hkind] using hname, h⟩

/-- One directive taken up. -/
theorem step_ok (hparameters : cx.parameters = options.parameters)
    (h : r.step options cx.loading root d = (r', none)) : ∃ new, Takes cx r [d] new r' := by
  obtain ⟨hfor, hd, hkeeps⟩ | ⟨q, hd, hqueue⟩ := step_cases h
  · exact ⟨[], .of_keeps hkeeps hfor hd⟩
  · exact enqueue_ok hparameters hd hqueue

/-- One directive that fails. -/
theorem step_error (hparameters : cx.parameters = options.parameters) {e : ResolveError}
    (h : r.step options cx.loading root d = (r', some e)) :
    r'.diagnostics = r.diagnostics ∧ ∃ calls st', Refused cx r.settings.processors d calls e ∧
      Calls cx r.stage calls st' ∧ st'.registry = r'.registry ∧ st'.world = r'.world := by
  unfold step at h
  split at h
  case h_6 hkind =>
    cases h
    exact ⟨rfl, [], _, .includeFile hkind, .nil, rfl, rfl⟩
  case h_7 hkind => exact enqueue_error hparameters (by simp [Directive.queued?, hkind]) rfl h
  case h_8 hkind =>
    dsimp only at h
    split at h
    · next hname =>
      cases h
      exact ⟨rfl, [], _, .noProcessor hkind (by simp [Directive.queued?, hkind, hname]), .nil, rfl,
        rfl⟩
    · next hname =>
      refine enqueue_error hparameters ?_ ?_ h
      · simpa [Directive.queued?, hkind] using hname
      · rfl
  case h_4 =>
    split at h
    · nomatch (Prod.mk.inj h).2
    · nomatch (Prod.mk.inj h).2
  all_goals nomatch (Prod.mk.inj h).2

/-! ## All directives -/

/-- All directives are taken up. -/
theorem steps_ok (hparameters : cx.parameters = options.parameters)
    (h : r.steps options cx.loading root ds = (r', none)) : ∃ new, Takes cx r ds new r' := by
  induction ds generalizing r with
  | nil =>
    cases h
    exact ⟨[], .nil⟩
  | cons d ds ih =>
    unfold steps at h
    split at h
    · next r'' hstep =>
      obtain ⟨new, hnew⟩ := step_ok hparameters hstep
      obtain ⟨new', hnew'⟩ := ih h
      exact ⟨new ++ new', hnew.append hnew'⟩
    · next hfailed => exact absurd h (hfailed r')

/-- A directive fails, when those before it are taken up. -/
theorem steps_error (hparameters : cx.parameters = options.parameters) {e : ResolveError}
    (h : r.steps options cx.loading root ds = (r', some e)) :
    r.diagnostics <+: r'.diagnostics ∧
      ∃ before d after new mid calls st', ds = before ++ d :: after ∧ Takes cx r before new mid ∧
        Refused cx mid.settings.processors d calls e ∧
        Calls cx mid.stage calls st' ∧ st'.registry = r'.registry ∧ st'.world = r'.world := by
  induction ds generalizing r with
  | nil => cases h
  | cons d ds ih =>
    unfold steps at h
    split at h
    · next r'' hstep =>
      obtain ⟨new, hnew⟩ := step_ok hparameters hstep
      obtain ⟨hdiagnostics, before, d', after, new', mid, calls, st', rfl, hnew', hrest⟩ := ih h
      exact ⟨hnew.diagnostics.trans hdiagnostics, d :: before, d', after, new ++ new', mid, calls,
        st', rfl, hnew.append hnew', hrest⟩
    · obtain ⟨hdiagnostics, calls, st', hrefused, hrest⟩ := step_error hparameters h
      exact ⟨hdiagnostics ▸ List.prefix_rfl, [], d, ds, [], r, calls, st', rfl, .nil, hrefused,
        hrest⟩

end Resolving

/-! ## The resolution -/

/-- The calls of a resolution that fails, and the failure: the encoding is unknown from the start,
or a directive is refused when those before it have their processors. -/
inductive CutShort (cx : Context σ) (options : ResolveOptions) (ds : List Directive) :
    List Call → ResolveError → Prop where
  | encoding {e : ResolveError} (h : findEncoding options.defaultEncoding = .error e) :
    CutShort cx options ds [] e
  | directive {before after : List Directive} {d : Directive} {active : NameMap (Processor σ)}
      {calls : List Call} {e : ResolveError} (hds : ds = before ++ d :: after)
      (hactive : active.names =
        ((before.filterMap Directive.queued?).map (·.processor)).eraseDups)
      (h : Refused cx active d calls e) :
    CutShort cx options ds (active.flatMap (activation cx) ++ calls) e

section Resolution

open Resolving

variable {cx : Context σ} {template : Template} {options : ResolveOptions} {registry : Registry σ}
  {world : σ}

variable (cx) in
/-- A resolution that succeeds takes up all directives. -/
theorem resolve_takes (hparameters : cx.parameters = options.parameters) {settings : Settings σ}
    (h : (Settings.resolve template options cx.loading registry world).result = .ok settings) :
    let resolved := Settings.resolve template options cx.loading registry world
    ∃ encoding r, Takes cx ⟨.initial options encoding, template.diagnostics, registry, world⟩
        template.directives settings.processors r ∧
      settings = r.settings.named ∧ resolved.diagnostics = r.diagnostics ∧
      resolved.registry = r.registry ∧ resolved.world = r.world := by
  unfold Settings.resolve at h ⊢
  split at h
  · cases h
  · next encoding hencoding =>
    dsimp only at h
    split at h
    · cases h
    · next r hsteps =>
      cases h
      obtain ⟨new, hnew⟩ := steps_ok hparameters hsteps
      have hps : r.settings.named.processors = new := hnew.processors
      simp only [hsteps]
      exact ⟨encoding, r, hps ▸ hnew, rfl, rfl, rfl, rfl⟩

variable (cx) in
/-- A resolution that succeeds: the queue, the processors in the order of first use, and the calls
that brought them into use. -/
theorem resolve_ok (hparameters : cx.parameters = options.parameters) {settings : Settings σ}
    (h : (Settings.resolve template options cx.loading registry world).result = .ok settings) :
    let r := Settings.resolve template options cx.loading registry world
    settings.custom = template.directives.filterMap Directive.queued? ∧
      settings.processors.names = (settings.custom.map (·.processor)).eraseDups ∧
      Calls cx ⟨registry, [], world⟩ (settings.processors.flatMap (activation cx))
        ⟨r.registry, settings.processors, r.world⟩ ∧
      template.diagnostics <+: r.diagnostics := by
  obtain ⟨encoding, r, htakes, hsettings, hdiagnostics, hregistry, hworld⟩ :=
    resolve_takes cx hparameters h
  have hcustom : settings.custom = r.settings.custom := by rw [hsettings]; rfl
  have hps : settings.processors = r.settings.processors := by rw [hsettings]; rfl
  have hsettled : Settled r := htakes.settled rfl
  refine ⟨hcustom.trans htakes.custom, ?_, ?_, hdiagnostics ▸ htakes.diagnostics⟩
  · rw [hps, hcustom]
    exact hsettled
  · have hcalls := htakes.calls
    simp only [stage, ← hps, ← hregistry, ← hworld] at hcalls
    exact hcalls

variable (cx) in
/-- A resolution that fails. -/
theorem resolve_error (hparameters : cx.parameters = options.parameters) {e : ResolveError}
    (h : (Settings.resolve template options cx.loading registry world).result = .error e) :
    let r := Settings.resolve template options cx.loading registry world
    template.diagnostics <+: r.diagnostics ∧
      ∃ calls st', CutShort cx options template.directives calls e ∧
        Calls cx ⟨registry, [], world⟩ calls st' ∧
        st'.registry = r.registry ∧ st'.world = r.world := by
  unfold Settings.resolve at h ⊢
  split at h
  · next hencoding =>
    cases h
    exact ⟨List.prefix_rfl, [], _, .encoding hencoding, .nil, rfl, rfl⟩
  · next encoding hencoding =>
    dsimp only at h
    split at h
    · next r e' hsteps =>
      cases h
      simp only [hsteps]
      obtain ⟨hdiagnostics, before, d, after, new, mid, calls, st', hds, hnew, hrefused, hcalls,
        hregistry, hworld⟩ := steps_error hparameters hsteps
      have hps : mid.settings.processors = new := hnew.processors
      have hcustom : mid.settings.custom = before.filterMap Directive.queued? := hnew.custom
      have hsettled : Settled mid := hnew.settled rfl
      rw [Settled, hps, hcustom] at hsettled
      rw [hps] at hrefused
      exact ⟨hdiagnostics, _, st', .directive hds hsettled hrefused, hnew.calls.trans hcalls,
        hregistry, hworld⟩
    · cases h

end Resolution
end TextTemplate
