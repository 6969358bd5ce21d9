/-
The calls of processors. `Invokes` says what one call does: it is made of a processor that is there
by then, on the world as the call before it left it, and it leaves a world to the next one. `Calls`
chains them, so a list of calls between two stages of a run is all that was asked of processors
there, in order. `Follows` compares calls with a plan: they are made as planned, up to the first
that fails for good.
-/
import TextTemplate.Output.Unit

namespace TextTemplate

/-! ## Calls -/

/-- A call of the processor of a name, and what came of it. -/
inductive Call where
  /-- The processor is made, or the registry has none to make. -/
  | create (processor : Text) (error : Option RegistryError)
  | setUp (processor : Text) (error : Option ProcessorError)
  | takeParameters (processor : Text)
  | start (processor : Text) (contribution : Contribution)
  | process (processor : Text) (directive : Directive) (contribution : Contribution)
  | finish (processor : Text) (error : Option ProcessorError) (notes : Diagnostics)
  | imports (processor : Text) (names : List Text) (notes : Diagnostics)
  | references (processor : Text) (names : List Text) (notes : Diagnostics)
  | classAttributes (processor : Text) (names : List Text) (notes : Diagnostics)

/-- What a processor is called for. -/
inductive Purpose where
  | create
  | setUp
  | takeParameters
  | start
  | process (directive : Directive)
  | finish
  | imports
  | references
  | classAttributes
  deriving DecidableEq, Repr

namespace Call

/-- The processor a call is made of, and what for. -/
def label : Call → Text × Purpose
  | create processor _ => (processor, .create)
  | setUp processor _ => (processor, .setUp)
  | takeParameters processor => (processor, .takeParameters)
  | start processor _ => (processor, .start)
  | process processor directive _ => (processor, .process directive)
  | finish processor _ _ => (processor, .finish)
  | imports processor _ _ => (processor, .imports)
  | references processor _ _ => (processor, .references)
  | classAttributes processor _ _ => (processor, .classAttributes)

/-- What a call adds to the members: all its processor wrote or, when it fails, nothing. -/
def text? : Call → Option Text
  | start _ c => if c.error.isSome then none else some c.writer.out
  | process _ _ c => if c.error.isSome then none else some c.writer.out
  | _ => none

/-- The attributes a call gives the class. -/
def attributes : Call → List Text
  | classAttributes _ names _ => names
  | _ => []

/-- The processor that is asked for imports in a call, and what it names. -/
def imported? : Call → Option (Text × List Text)
  | imports processor names _ => some (processor, names)
  | _ => none

/-- The error a directive is left with when its processor fails on it. -/
def fault (root : Text) (d : Directive) (error : Option ProcessorError) : Diagnostics :=
  error.toList.map fun e => .atLocation d.span.start root e.message false

/-- The diagnostics a call leaves behind: those its processor adds and, for a directive that fails,
one error at the directive. -/
def diagnostics (root : Text) : Call → Diagnostics
  | start _ c => c.diagnostics
  | process _ d c => c.diagnostics ++ fault root d c.error
  | finish _ _ notes => notes
  | imports _ _ notes => notes
  | references _ _ notes => notes
  | classAttributes _ _ notes => notes
  | _ => []

/-- The failure with which a call ends the generation: starting or finishing went wrong. -/
def stop? : Call → Option GenerateError
  | start name c => c.error.map (.processorFailed (utf8 "starting") name)
  | finish name error _ => error.map (.processorFailed (utf8 "finishing") name)
  | _ => none

theorem exists_of_stop? {c : Call} {e : GenerateError} (h : c.stop? = some e) :
    ∃ phase processor error, e = .processorFailed phase processor error := by
  unfold stop? at h
  split at h
  · obtain ⟨error, -, rfl⟩ := Option.map_eq_some_iff.1 h
    exact ⟨_, _, error, rfl⟩
  · obtain ⟨error, -, rfl⟩ := Option.map_eq_some_iff.1 h
    exact ⟨_, _, error, rfl⟩
  · cases h

end Call

/-! ## What a call does -/

/-- What the calls of a run are made with: how processors are loaded, the source of the template,
the values from outside, and the writer that is handed to the calls that write. -/
structure Context (σ : Type) where
  loading : Loading σ
  source : Text
  parameters : Option ParameterValues
  writer : Writer

/-- A stage of a run: the registry, the processors made so far, and the world. -/
structure Stage (σ : Type) where
  registry : Registry σ
  processors : NameMap (Processor σ)
  world : σ

variable {σ : Type}

/-- One call. Apart from the first it is made of a processor there is; only the making of a
processor changes the registry. -/
inductive Invokes (cx : Context σ) : Stage σ → Call → Stage σ → Prop where
  | create {r r' : Registry σ} {ps : NameMap (Processor σ)} {s s' : σ} {name : Text} {f : Factory σ}
      (hnew : name ∉ ps.names) (hlook : r.resolve cx.loading name s = (.ok f, r', s')) :
    Invokes cx ⟨r, ps, s⟩ (.create name none) ⟨r', ps ++ [(name, (f s').1)], (f s').2⟩
  | missing {r r' : Registry σ} {ps : NameMap (Processor σ)} {s s' : σ} {name : Text}
      {e : RegistryError} (hnew : name ∉ ps.names)
      (hlook : r.resolve cx.loading name s = (.error e, r', s')) :
    Invokes cx ⟨r, ps, s⟩ (.create name (some e)) ⟨r', ps, s'⟩
  | setUp {st : Stage σ} {name : Text} {p : Processor σ} (hp : st.processors.find? name = some p) :
    Invokes cx st (.setUp name (p.setUp st.world).1) { st with world := (p.setUp st.world).2 }
  | takeParameters {st : Stage σ} {name : Text} {p : Processor σ} {take : σ → σ}
      (hp : st.processors.find? name = some p) (htake : p.takeParameters = some take)
      (hvalues : cx.parameters.isSome) :
    Invokes cx st (.takeParameters name) { st with world := take st.world }
  | start {st : Stage σ} {name : Text} {p : Processor σ} (hp : st.processors.find? name = some p) :
    Invokes cx st (.start name (p.start cx.writer cx.source st.world).1)
      { st with world := (p.start cx.writer cx.source st.world).2 }
  | process {st : Stage σ} {name : Text} {p : Processor σ} (d : Directive)
      (hp : st.processors.find? name = some p) :
    Invokes cx st
      (.process name d (p.process cx.parameters cx.writer d.name d.attributes st.world).1)
      { st with world := (p.process cx.parameters cx.writer d.name d.attributes st.world).2 }
  | finish {st : Stage σ} {name : Text} {p : Processor σ}
      (hp : st.processors.find? name = some p) :
    Invokes cx st (.finish name (p.finish st.world).1 (p.notes .finish st.world))
      { st with world := (p.finish st.world).2 }
  | imports {st : Stage σ} {name : Text} {p : Processor σ}
      (hp : st.processors.find? name = some p) :
    Invokes cx st (.imports name (p.imports st.world).1 (p.notes .imports st.world))
      { st with world := (p.imports st.world).2 }
  | references {st : Stage σ} {name : Text} {p : Processor σ}
      (hp : st.processors.find? name = some p) :
    Invokes cx st (.references name (p.references st.world).1 (p.notes .references st.world))
      { st with world := (p.references st.world).2 }
  | classAttributes {st : Stage σ} {name : Text} {p : Processor σ}
      (hp : st.processors.find? name = some p) :
    Invokes cx st
      (.classAttributes name (p.classAttributes st.world).1 (p.notes .classAttributes st.world))
      { st with world := (p.classAttributes st.world).2 }

/-- Calls one after the other. -/
inductive Calls (cx : Context σ) : Stage σ → List Call → Stage σ → Prop where
  | nil {st : Stage σ} : Calls cx st [] st
  | cons {st st' st'' : Stage σ} {c : Call} {cs : List Call} (h : Invokes cx st c st')
      (hs : Calls cx st' cs st'') : Calls cx st (c :: cs) st''

namespace Calls

variable {cx : Context σ} {st st' st'' : Stage σ} {c : Call} {cs cs' : List Call}

theorem one (h : Invokes cx st c st') : Calls cx st [c] st' := .cons h .nil

theorem trans (h : Calls cx st cs st') (h' : Calls cx st' cs' st'') :
    Calls cx st (cs ++ cs') st'' := by
  induction h with
  | nil => exact h'
  | cons hc _ ih => exact .cons hc (ih h')

end Calls

/-! ## Plans -/

/-- Calls made to a plan: as planned, up to the end of the plan or to the first call that ends the
generation. -/
inductive Follows : List (Text × Purpose) → List Call → Option GenerateError → Prop where
  | done : Follows [] [] none
  | next {c : Call} {step : Text × Purpose} {plan : List (Text × Purpose)} {cs : List Call}
      {error : Option GenerateError} (hlabel : c.label = step) (hc : c.stop? = none)
      (h : Follows plan cs error) :
    Follows (step :: plan) (c :: cs) error
  | stop {c : Call} {step : Text × Purpose} {plan : List (Text × Purpose)} {e : GenerateError}
      (hlabel : c.label = step) (hc : c.stop? = some e) :
    Follows (step :: plan) [c] (some e)

namespace Follows

variable {plan plan' : List (Text × Purpose)} {cs cs' : List Call} {error : Option GenerateError}

/-- Calls that come to the end of their plan are those that are planned. -/
theorem map_label (h : Follows plan cs none) : cs.map Call.label = plan := by
  generalize hnone : (none : Option GenerateError) = e at h
  induction h with
  | done => rfl
  | next hlabel _ _ ih => rw [List.map_cons, hlabel, ih hnone]
  | stop => cases hnone

theorem append (h : Follows plan cs none) (h' : Follows plan' cs' error) :
    Follows (plan ++ plan') (cs ++ cs') error := by
  generalize hnone : (none : Option GenerateError) = e at h
  induction h with
  | done => exact h'
  | next hlabel hc _ ih => exact .next hlabel hc (ih hnone)
  | stop => cases hnone

theorem append_of_stop {e : GenerateError} (h : Follows plan cs (some e))
    (plan' : List (Text × Purpose)) : Follows (plan ++ plan') cs (some e) := by
  generalize hsome : some e = error at h
  induction h with
  | done => cases hsome
  | next hlabel hc _ ih => exact .next hlabel hc (ih hsome)
  | stop hlabel hc =>
    cases hsome
    exact .stop hlabel hc

/-- A failure is that of the last call. -/
theorem exists_stop {e : GenerateError} (h : Follows plan cs (some e)) :
    ∃ c ∈ cs, c.stop? = some e := by
  generalize hsome : some e = error at h
  induction h with
  | done => cases hsome
  | next _ _ _ ih =>
    obtain ⟨c, hc, hstop⟩ := ih hsome
    exact ⟨c, List.mem_cons_of_mem _ hc, hstop⟩
  | @stop c _ _ _ _ hc =>
    cases hsome
    exact ⟨c, List.mem_cons_self, hc⟩

end Follows

end TextTemplate
