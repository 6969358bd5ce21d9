/-
Failing runs. A run records the diagnostics of its template, those its resolution adds, and those
processors add in the calls of the generation; the host holds them all in the order they came
(`process_resolved`, `process_generated`). `Finished` says what a run makes of its generation, and
`Ends` how the generation came to its end.

`failed_run_has_no_text`: an error anywhere leaves no text. `failed_run_leaves_error`: a run that
fails leaves an error, unless it fails in starting or finishing a processor.
-/
import TextTemplate.Host.Run
import TextTemplate.Proofs.Include.Origin
import TextTemplate.Proofs.Processor.Lifecycle

namespace TextTemplate

variable {σ : Type}

/-! ## Pieces of unknown kind -/

namespace Output

theorem writePieces_eq_none {mode : LineMode} {root : Text} {ps : List Piece} {w : Writer}
    (h : writePieces mode root ps w = none) : ∃ p ∈ ps, ∃ n, p.kind = .unknown n := by
  induction ps generalizing w with
  | nil => cases h
  | cons p ps ih =>
    rw [writePieces] at h
    split at h
    · obtain ⟨q, hq, hkind⟩ := ih h
      exact ⟨q, List.mem_cons_of_mem _ hq, hkind⟩
    · next hhelper =>
      split at h
      · obtain ⟨q, hq, hkind⟩ := ih h
        exact ⟨q, List.mem_cons_of_mem _ hq, hkind⟩
      · next hnone =>
        refine ⟨p, List.mem_cons_self, ?_⟩
        unfold writePiece? at hnone
        cases hkind : p.kind with
        | unknown n => exact ⟨n, rfl⟩
        | helper => exact absurd hkind hhelper
        | content | expression | block => simp [hkind] at hnone

/-- Only a piece of unknown kind keeps a class from being composed. -/
theorem unit?_eq_none {l : Layout} {template : Template} {settings : Settings σ}
    {imports attributes written : List Text}
    (h : unit? l template settings imports attributes written = none) :
    ∃ p ∈ template.pieces, ∃ n, p.kind = .unknown n := by
  unfold unit? transformMethod at h
  dsimp only at h
  rw [Option.map_eq_none_iff] at h
  split at h
  · next hpieces => exact writePieces_eq_none hpieces
  · cases h

end Output

/-- A parsed template has no piece of unknown kind. -/
theorem Template.kind_ne_unknown (root source : Text) (includes : Option Includes) {p : Piece}
    (hp : p ∈ (Template.parse root source includes).pieces) (n : Int) : p.kind ≠ .unknown n := by
  obtain ⟨_, _, e, -, he⟩ := Expansion.pieces_parse?
    (Option.some_get (Template.parse?_includes_isSome root source includes)).symm hp
  intro hunknown
  have hkind := he.kind
  rw [hunknown] at hkind
  unfold Expansion.pieceKind? at hkind
  split at hkind <;> cases hkind

theorem Template.root_parse (root source : Text) (includes : Option Includes) :
    (Template.parse root source includes).root = root := by
  have h : Template.parse? root source (includes.map (·.load)) =
      some (Template.parse root source includes) :=
    (Option.some_get (Template.parse?_includes_isSome root source includes)).symm
  obtain ⟨⟨g, fault⟩, -, hparse⟩ := Option.map_eq_some_iff.1 h
  rw [← hparse]
  rfl

/-! ## What a run records -/

namespace Host

/-- The template of a run. -/
def runTemplate (h : Host σ) (files : Files) (file content : Text) : Template :=
  (h.start file).parse files file content

/-- The resolution of a run. -/
def runResolved (h : Host σ) (files : Files) (file content : Text) (world : σ) :
    Settings.Resolved σ :=
  Settings.resolve (h.runTemplate files file content) (h.start file).resolveOptions
    ((h.start file).loading files) (h.start file).registry world

/-- What processors are called with in a run. -/
def runContext (h : Host σ) (files : Files) (file content : Text) (settings : Settings σ) :
    Context σ where
  loading := (h.start file).loading files
  source := (h.runTemplate files file content).source
  parameters := some h.parameters.lookup
  writer := Output.membersWriter (Output.runLayout h.layout file settings) settings.fileScoped

/-- What a run makes of its generation. -/
inductive Finished (file : Text) (g : Generated σ) (run : Run σ) : Prop where
  | text {p : Product σ} (hg : g.result = .ok p.text) (hproduct : run.product = some p)
      (himports : p.settings.imports = g.imports) (herror : run.error = none)
  | errors {ds : Diagnostics} {p : Product σ} (hg : g.result = .error (.templateHasErrors ds))
      (hproduct : run.product = some p) (htext : p.text = [])
      (herror : run.error = some (.templateHasErrors ds))
  | failed {e : GenerateError} (he : ∀ ds, e ≠ .templateHasErrors ds) (hg : g.result = .error e)
      (hproduct : run.product = none) (herror : run.error = some (.generating file e))

variable {h : Host σ} {files : Files} {file content : Text} {world : σ}

theorem root_runTemplate : (h.runTemplate files file content).root = file :=
  Template.root_parse _ _ _

theorem process_eq :
    h.process files file content world =
      let r := h.runResolved files file content world
      let started := { h.start file with registry := r.registry }
      match r.result with
      | .error e =>
        ⟨{ started with
            diagnostics := started.diagnostics ++ r.diagnostics ++
              [.atLocation .empty file e.message false] },
          none, some (.resolving file e), r.world⟩
      | .ok settings =>
        started.finish (h.runTemplate files file content) settings r.diagnostics r.world := rfl

/-- A run whose resolution fails. -/
theorem process_resolved {e : ResolveError}
    (hr : (h.runResolved files file content world).result = .error e) :
    let run := h.process files file content world
    run.product = none ∧ run.error = some (.resolving file e) ∧
      run.host.diagnostics = (h.runResolved files file content world).diagnostics
        ++ [.atLocation .empty file e.message false] := by
  rw [process_eq]
  simp only [hr]
  exact ⟨trivial, trivial, rfl⟩

/-- The generation of a run: all its diagnostics are added, and the run ends with it. -/
theorem finished_finish (h : Host σ) (template : Template) (settings : Settings σ)
    (diagnostics : Diagnostics) (world : σ) :
    let g := generate h.layout template settings (some h.parameters.lookup) diagnostics world
    let run := h.finish template settings diagnostics world
    run.host.diagnostics = h.diagnostics ++ g.diagnostics ∧ run.world = g.world ∧
      Finished template.root g run := by
  intro g run
  have hg : (h.finish template settings diagnostics world) = run := rfl
  unfold finish at hg
  dsimp only at hg
  have hlayout : (if settings.extension.isEmpty then h
      else h.setExtension settings.extension).layout = h.layout := by split <;> rfl
  have hparameters : (if settings.extension.isEmpty then h
      else h.setExtension settings.extension).parameters = h.parameters := by split <;> rfl
  have hdiagnostics : (if settings.extension.isEmpty then h
      else h.setExtension settings.extension).diagnostics = h.diagnostics := by split <;> rfl
  rw [hlayout, hparameters, hdiagnostics] at hg
  cases hresult : g.result with
  | ok text =>
    simp only [g] at hresult
    simp only [hresult] at hg
    rw [← hg]
    exact ⟨rfl, rfl, .text hresult rfl rfl rfl⟩
  | error e =>
    simp only [g] at hresult
    cases e with
    | templateHasErrors ds =>
      simp only [hresult] at hg
      rw [← hg]
      exact ⟨rfl, rfl, .errors hresult rfl rfl rfl⟩
    | _ =>
      simp only [hresult] at hg
      rw [← hg]
      exact ⟨rfl, rfl, .failed (by intro ds hds; cases hds) hresult rfl rfl⟩

/-- A run whose resolution succeeds. -/
theorem process_generated {settings : Settings σ}
    (hr : (h.runResolved files file content world).result = .ok settings) :
    let run := h.process files file content world
    let r := h.runResolved files file content world
    let g := generate h.layout (h.runTemplate files file content) settings
      (some h.parameters.lookup) r.diagnostics r.world
    run.host.diagnostics = g.diagnostics ∧ run.world = g.world ∧ Finished file g run := by
  rw [process_eq]
  simp only [hr]
  have hfinished := finished_finish
    { h.start file with registry := (h.runResolved files file content world).registry }
    (h.runTemplate files file content) settings
    (h.runResolved files file content world).diagnostics
    (h.runResolved files file content world).world
  rw [root_runTemplate] at hfinished
  exact hfinished

/-- How a run whose resolution succeeds comes to its end, after calls to plan and the calls behind
them. -/
inductive Closes (l : Layout) (file : Text) (template : Template) (settings : Settings σ)
    (run : Run σ) (calls late : List Call) : Option GenerateError → Prop where
  /-- The class is made. -/
  | made {p : Product σ} (hnone : run.host.diagnostics.hasErrors = false)
      (hproduct : run.product = some p) (herror : run.error = none)
      (hunit : Output.unit? l template settings p.settings.imports.values
        (late.flatMap Call.attributes) (calls.filterMap Call.text?) = some p.text) :
    Closes l file template settings run calls late none
  /-- Errors were recorded. -/
  | errors {p : Product σ} {ds : Diagnostics} (hsome : run.host.diagnostics.hasErrors = true)
      (hproduct : run.product = some p) (htext : p.text = [])
      (herror : run.error = some (.templateHasErrors ds)) :
    Closes l file template settings run calls late none
  | unknownSegment {p : Piece} {n : Int} (hp : p ∈ template.pieces) (hkind : p.kind = .unknown n)
      (hproduct : run.product = none)
      (herror : run.error = some (.generating file .unknownSegment)) :
    Closes l file template settings run calls late none
  /-- A processor could not be started or finished. -/
  | stopped {phase processor : Text} {error : ProcessorError} (hlate : late = [])
      (hproduct : run.product = none)
      (herror : run.error = some (.generating file (.processorFailed phase processor error))) :
    Closes l file template settings run calls late
      (some (.processorFailed phase processor error))

theorem Finished.closes {l : Layout} {template : Template} {settings : Settings σ} {run : Run σ}
    {g : Generated σ} {calls late : List Call} {plan : List (Text × Purpose)}
    {error : Option GenerateError} (hfinished : Finished file g run)
    (hg : g.diagnostics = run.host.diagnostics) (hfollows : Follows plan calls error)
    (hends : Output.Ends l template settings calls g late error) :
    Closes l file template settings run calls late error := by
  cases hends with
  | stopped hresult =>
    obtain ⟨c, -, hstop⟩ := hfollows.exists_stop
    obtain ⟨phase, processor, error, rfl⟩ := Call.exists_of_stop? hstop
    cases hfinished with
    | text hg | errors hg =>
      rw [hresult] at hg
      cases hg
    | failed _ hg hproduct herror =>
      rw [hresult] at hg
      cases hg
      exact .stopped rfl hproduct herror
  | unknownSegment _ _ hunit hresult =>
    obtain ⟨p, hp, n, hkind⟩ := Output.unit?_eq_none hunit
    cases hfinished with
    | text hg | errors hg =>
      rw [hresult] at hg
      cases hg
    | failed _ hg hproduct herror =>
      rw [hresult] at hg
      cases hg
      exact .unknownSegment hp hkind hproduct herror
  | composed _ hunit hresult =>
    rw [hg] at hresult
    split at hresult
    · next hsome =>
      cases hfinished with
      | text hg =>
        rw [hresult] at hg
        cases hg
      | errors _ hproduct htext herror =>
        exact .errors hsome hproduct htext herror
      | failed he hg =>
        rw [hresult] at hg
        cases hg
        exact absurd rfl (he _)
    · next hnone =>
      cases hfinished with
      | text hg hproduct himports herror =>
        rw [hresult] at hg
        cases hg
        exact .made (by simpa using hnone) hproduct herror (by rw [himports]; exact hunit)
      | errors hg | failed _ hg =>
        rw [hresult] at hg
        cases hg

namespace Closes

variable {l : Layout} {template : Template} {settings : Settings σ} {run : Run σ}
  {calls late : List Call} {error : Option GenerateError}

/-- With an error recorded there is no text. -/
theorem no_text (h : Closes l file template settings run calls late error)
    (hsome : run.host.diagnostics.hasErrors = true) :
    run.error.isSome = true ∧ ∀ p ∈ run.product, p.text = [] := by
  cases h with
  | made hnone =>
    rw [hnone] at hsome
    cases hsome
  | errors _ hproduct htext herror =>
    rw [hproduct, herror]
    exact ⟨rfl, fun q hq => by cases hq; exact htext⟩
  | unknownSegment _ _ hproduct herror | stopped _ hproduct herror =>
    rw [hproduct, herror]
    exact ⟨rfl, by simp⟩

/-- Without a failure the class is made. -/
theorem of_error_eq_none (h : Closes l file template settings run calls late error)
    (hnone : run.error = none) :
    run.host.diagnostics.hasErrors = false ∧ ∃ p, run.product = some p ∧
      Output.unit? l template settings p.settings.imports.values (late.flatMap Call.attributes)
        (calls.filterMap Call.text?) = some p.text := by
  cases h with
  | made hclean hproduct _ hunit => exact ⟨hclean, _, hproduct, hunit⟩
  | errors _ _ _ herror | unknownSegment _ _ _ herror | stopped _ _ herror =>
    rw [hnone] at herror
    cases herror

/-- Nothing is made only for want of a processor or of a kind. -/
theorem of_product_eq_none {plan : List (Text × Purpose)}
    (h : Closes l file template settings run calls late error)
    (hfollows : Follows plan calls error) (hnone : run.product = none) :
    (∃ c ∈ calls, c.stop?.isSome) ∨ ∃ p ∈ template.pieces, ∃ n, p.kind = .unknown n := by
  cases h with
  | made _ hproduct | errors _ hproduct =>
    rw [hnone] at hproduct
    cases hproduct
  | unknownSegment hp hkind => exact .inr ⟨_, hp, _, hkind⟩
  | stopped =>
    obtain ⟨c, hc, hstop⟩ := hfollows.exists_stop
    exact .inl ⟨c, hc, by rw [hstop]; rfl⟩

end Closes

/-- The calls of a run whose resolution succeeds, and how they end it. -/
theorem run_calls {settings : Settings σ}
    (hr : (h.runResolved files file content world).result = .ok settings) :
    let run := h.process files file content world
    let r := h.runResolved files file content world
    ∃ calls late error,
      Follows (Output.plan settings.processors.names settings.custom) calls error ∧
      Calls (h.runContext files file content settings)
        ⟨r.registry, settings.processors, r.world⟩ (calls ++ late)
        ⟨r.registry, settings.processors, run.world⟩ ∧
      run.host.diagnostics = r.diagnostics ++ (calls ++ late).flatMap (Call.diagnostics file) ∧
      Closes (Output.runLayout h.layout file settings) file (h.runTemplate files file content)
        settings run calls late error := by
  intro run r
  obtain ⟨hdiagnostics, hworld, hfinished⟩ := process_generated hr
  obtain ⟨-, hnames, -⟩ := resolve_ok (h.runContext files file content settings) rfl hr
  obtain ⟨hnodup, hqueue⟩ := Output.processors_of_queue hnames
  obtain ⟨calls, late, error, hfollows, hcalls, hrecorded, hends, -⟩ :=
    Output.generate_calls (h.runContext files file content settings) hnodup hqueue h.layout
      rfl (by rw [root_runTemplate]; rfl) r.diagnostics r.world
  rw [root_runTemplate] at hrecorded hends
  exact ⟨calls, late, error, hfollows, hworld ▸ hcalls r.registry, hdiagnostics.trans hrecorded,
    hfinished.closes hdiagnostics.symm hfollows hends⟩

/-- Resolving adds to the diagnostics of the template. -/
theorem prefix_resolved (h : Host σ) (files : Files) (file content : Text) (world : σ) :
    (h.runTemplate files file content).diagnostics <+:
      (h.runResolved files file content world).diagnostics := by
  let cx : Context σ :=
    ⟨(h.start file).loading files, [], some h.parameters.lookup, .ofLayout h.layout⟩
  cases hr : (h.runResolved files file content world).result with
  | error e => exact (resolve_error cx rfl hr).1
  | ok settings => exact (resolve_ok cx rfl hr).2.2.2

end Host

open Output in
/-- **A failed run has no text.** The host's diagnostics are all that was recorded: those of the
template, those the resolution added, and those the calls of processors left, in this order. With an
error among them the run fails, and makes nothing that has a text. A run that does not fail has made
the class composed of what its calls wrote. Nothing at all is made only when the resolution fails, a
processor cannot be started or finished, or a piece is of unknown kind. -/
theorem failed_run_has_no_text (h : Host σ) (files : Files) (file content : Text) (world : σ) :
    let run := h.process files file content world
    let template := h.runTemplate files file content
    let r := h.runResolved files file content world
    template.diagnostics <+: r.diagnostics ∧ r.diagnostics <+: run.host.diagnostics ∧
      (run.host.diagnostics.hasErrors → run.error.isSome ∧ ∀ p ∈ run.product, p.text = []) ∧
      match r.result with
      | .error e =>
        run.product = none ∧ run.error = some (.resolving file e) ∧
          run.host.diagnostics = r.diagnostics ++ [.atLocation .empty file e.message false]
      | .ok settings =>
        ∃ calls late error,
          Follows (plan settings.processors.names settings.custom) calls error ∧
          Calls (h.runContext files file content settings)
            ⟨r.registry, settings.processors, r.world⟩ (calls ++ late)
            ⟨r.registry, settings.processors, run.world⟩ ∧
          run.host.diagnostics = r.diagnostics ++ (calls ++ late).flatMap (Call.diagnostics file) ∧
          (run.error = none → run.host.diagnostics.hasErrors = false ∧
            ∃ p, run.product = some p ∧
              unit? (runLayout h.layout file settings) template settings p.settings.imports.values
                (late.flatMap Call.attributes) (calls.filterMap Call.text?) = some p.text) ∧
          (run.product = none → (∃ c ∈ calls, c.stop?.isSome) ∨
            ∃ p ∈ template.pieces, ∃ n, p.kind = .unknown n) := by
  intro run template r
  refine ⟨h.prefix_resolved files file content world, ?_⟩
  split
  · next e hr =>
    obtain ⟨hproduct, herror, hdiagnostics⟩ := Host.process_resolved hr
    exact ⟨hdiagnostics ▸ List.prefix_append _ _, fun _ => by simp [run, hproduct, herror],
      hproduct, herror, hdiagnostics⟩
  · next settings hr =>
    obtain ⟨calls, late, error, hfollows, hcalls, hrecorded, hcloses⟩ := Host.run_calls hr
    exact ⟨hrecorded ▸ List.prefix_append _ _, hcloses.no_text, calls, late, error, hfollows,
      hcalls, hrecorded, hcloses.of_error_eq_none, hcloses.of_product_eq_none hfollows⟩

/-- A processor that fails on every directive. -/
def grumpy : Processor Unit where
  __ := Processor.idle
  supports _ := true
  process _ w _ _ s := (⟨w, [], some (.failed (utf8 "no"))⟩, s)

/-- A host that knows the processor under the name `P`. -/
def grumpyHost : Host Unit :=
  .standard (Registry.standard.register (utf8 "P") fun s => (grumpy, s)) (.own []) .standard

/-- A template with a directive for a processor `P`. -/
def widgetSource : Text := utf8 "<#@ widget processor=\"P\" #>"

def widgetEvents : List Event :=
  let place (column : Int64) : Location := ⟨utf8 "t.tt", 1, column⟩
  [⟨.directive, [], place 4, place 1, place 1⟩,
    ⟨.directiveName, utf8 "widget", place 5, place 1, place 1⟩,
    ⟨.directiveName, utf8 "processor", place 12, place 1, place 1⟩,
    ⟨.directiveValue, utf8 "P", place 23, place 1, place 1⟩,
    ⟨.directive, [], place 26, place 1, place 28⟩, ⟨.eof, [], place 28, place 28, place 28⟩]

def widgetParsed : Template :=
  let place (column : Int64) : Location := ⟨utf8 "t.tt", 1, column⟩
  .ofSegments (utf8 "t.tt") widgetSource
    [.directive ⟨utf8 "widget", .ofList [(utf8 "processor", utf8 "P")],
      ⟨place 5, place 28, place 1⟩⟩]

theorem parse?_widgetSource (load : Option Loader) :
    Template.parse? (utf8 "t.tt") widgetSource load = some widgetParsed := by
  have hscan : scan (utf8 "t.tt") widgetSource = (widgetEvents, none) := by cbv
  have hmove (g : Gathered) : nextMove (utf8 "t.tt") false false widgetEvents g =
      .advance false (widgetEvents.drop 5)
        { g with segments := g.segments ++ widgetParsed.segments } := by
    have hname : (utf8 "widget").eqFold (utf8 "include") = false := by decide +kernel
    simp only [nextMove, widgetEvents, Draft.read, Draft.name, Draft.value, Draft.close,
      Draft.flush, Draft.empty, Directive.is, hname, Gathered.note, Gathered.add,
      List.append_nil, Bool.false_eq_true, if_false]
    rfl
  have hend (g : Gathered) : nextMove (utf8 "t.tt") false false (widgetEvents.drop 5) g =
      .advance false [] g := rfl
  simp only [Template.parse?, hscan]
  rw [expand?]
  simp only [hmove]
  rw [expand?]
  simp only [hend]
  rw [expand?]
  rfl

/-- The failure of the directive is recorded, and the class is withheld. -/
theorem failed_run_has_no_text_sample :
    let run := grumpyHost.process ⟨none, []⟩ (utf8 "t.tt") widgetSource ()
    run.host.diagnostics = [⟨utf8 "t.tt", 1, 5, [], utf8 "no", false⟩] ∧ run.error.isSome ∧
      ∃ p, run.product = some p ∧ p.text = [] := by
  intro run
  have htemplate : grumpyHost.runTemplate ⟨none, []⟩ (utf8 "t.tt") widgetSource = widgetParsed :=
    Option.get_of_eq_some _ (parse?_widgetSource _)
  have hrecorded : run.host.diagnostics = [⟨utf8 "t.tt", 1, 5, [], utf8 "no", false⟩] := by
    simp only [run, Host.process_eq, Host.runResolved, htemplate]
    decide +kernel
  have hmade : run.product.isSome = true := by
    simp only [run, Host.process_eq, Host.runResolved, htemplate]
    decide +kernel
  obtain ⟨-, -, hfailed, -⟩ :=
    failed_run_has_no_text grumpyHost ⟨none, []⟩ (utf8 "t.tt") widgetSource ()
  obtain ⟨herror, htext⟩ := hfailed (by
    change run.host.diagnostics.hasErrors = true
    rw [hrecorded]
    rfl)
  obtain ⟨p, hp⟩ := Option.isSome_iff_exists.1 hmade
  exact ⟨hrecorded, herror, p, hp, htext p hp⟩

open Output in
/-- **A failed run leaves an error**, unless it fails in starting or finishing a processor: then all
the host holds is what was recorded until then, and nothing is added for the failure. -/
theorem failed_run_leaves_error {h : Host σ} {files : Files} {file content : Text} {world : σ}
    {e : RunError} (herror : (h.process files file content world).error = some e) :
    let run := h.process files file content world
    let r := h.runResolved files file content world
    match e with
    | .generating _ (.processorFailed phase processor error) =>
      ∃ settings calls, r.result = .ok settings ∧
        Follows (plan settings.processors.names settings.custom) calls
          (some (.processorFailed phase processor error)) ∧
        run.host.diagnostics = r.diagnostics ++ calls.flatMap (Call.diagnostics file)
    | _ => run.host.diagnostics.hasErrors = true := by
  intro run r
  cases hr : r.result with
  | error err =>
    obtain ⟨-, hresolving, hdiagnostics⟩ := Host.process_resolved hr
    rw [hresolving] at herror
    cases herror
    simp [run, hdiagnostics, Diagnostics.hasErrors]
  | ok settings =>
    obtain ⟨calls, late, error, hfollows, -, hrecorded, hcloses⟩ := Host.run_calls hr
    cases hcloses with
    | made _ _ hnone =>
      rw [hnone] at herror
      cases herror
    | errors hsome _ _ hfailed =>
      rw [hfailed] at herror
      cases herror
      exact hsome
    | unknownSegment hp hkind => exact absurd hkind (Template.kind_ne_unknown _ _ _ hp _)
    | stopped hlate _ hstopped =>
      rw [hstopped] at herror
      cases herror
      rw [hlate, List.append_nil] at hrecorded
      exact ⟨settings, calls, rfl, hfollows, hrecorded⟩

/-- A processor that cannot be started. -/
def balky : Processor Unit where
  __ := Processor.idle
  supports _ := true
  start w _ s := (⟨w, [], some (.failed (utf8 "no"))⟩, s)

/-- A host that knows the processor under the name `P`. -/
def balkyHost : Host Unit :=
  .standard (Registry.standard.register (utf8 "P") fun s => (balky, s)) (.own []) .standard

/-- The run fails, and the host is left without a diagnostic. -/
theorem failed_run_leaves_error_balky :
    let run := balkyHost.process ⟨none, []⟩ (utf8 "t.tt") widgetSource ()
    let failure := GenerateError.processorFailed (utf8 "starting") (utf8 "P") (.failed (utf8 "no"))
    run.error = some (.generating (utf8 "t.tt") failure) ∧ run.host.diagnostics = [] ∧
      ∃ plan calls, Follows plan calls (some failure) := by
  intro run failure
  have htemplate : balkyHost.runTemplate ⟨none, []⟩ (utf8 "t.tt") widgetSource = widgetParsed :=
    Option.get_of_eq_some _ (parse?_widgetSource _)
  have herror : run.error = some (.generating (utf8 "t.tt") failure) := by
    simp only [run, failure, Host.process_eq, Host.runResolved, htemplate]
    decide +kernel
  have hnone : run.host.diagnostics = [] := by
    simp only [run, Host.process_eq, Host.runResolved, htemplate]
    decide +kernel
  obtain ⟨settings, calls, -, hfollows, -⟩ := failed_run_leaves_error herror
  exact ⟨herror, hnone, _, calls, hfollows⟩

end TextTemplate
