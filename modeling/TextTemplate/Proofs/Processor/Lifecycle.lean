/-
The life of processors over a run. A resolution brings them into use and queues their directives
(`resolve_ok`); the generation then follows a plan (`plan`): all processors are started, each queued
directive is handed to its processor, and the processors are finished one by one. `Progress` is what
calls do to a generation under way: it holds of each loop of the generation, and from the loops
`generate_calls` puts the generation together. What it ends with (`Ends`) depends on what was
written in the calls that did not fail (`unit?`).

`processor_lifecycle` states the protocol for a resolution and the generation behind it.
-/
import TextTemplate.Proofs.Settings.Resolution
import TextTemplate.Proofs.Output.LineMapping

namespace TextTemplate

open Writer

namespace Output

variable {σ : Type} {cx : Context σ} {root : Text} {ps todo : NameMap (Processor σ)}
  {st st' st'' : State σ} {calls calls' : List Call} {error : Option GenerateError}

/-! ## Calls of a generation -/

/-- What calls of processors do to a generation under way. -/
structure Progress (cx : Context σ) (root : Text) (ps : NameMap (Processor σ)) (st : State σ)
    (calls : List Call) (st' : State σ) : Prop where
  made : ∀ registry, Calls cx ⟨registry, ps, st.world⟩ calls ⟨registry, ps, st'.world⟩
  members : st'.members = (calls.filterMap Call.text?).foldl Writer.rawWrite st.members
  diagnostics : st'.diagnostics = st.diagnostics ++ calls.flatMap (Call.diagnostics root)
  imports : st'.imports = st.imports.add ((calls.filterMap Call.imported?).flatMap Prod.snd)

namespace Progress

theorem nil : Progress cx root ps st [] st := ⟨fun _ => .nil, rfl, by simp, rfl⟩

theorem append (h : Progress cx root ps st calls st') (h' : Progress cx root ps st' calls' st'') :
    Progress cx root ps st (calls ++ calls') st'' where
  made registry := (h.made registry).trans (h'.made registry)
  members := by rw [h'.members, h.members, List.filterMap_append, List.foldl_append]
  diagnostics := by rw [h'.diagnostics, h.diagnostics, List.flatMap_append, List.append_assoc]
  imports := by
    rw [h'.imports, h.imports, List.filterMap_append, List.flatMap_append, NameSet.add, NameSet.add,
      NameSet.add, List.foldl_append]

end Progress

/-- Writing texts as they are touches nothing but the text and its end. -/
theorem foldl_rawWrite (w : Writer) (ts : List Text) :
    ∃ endsLine, ts.foldl Writer.rawWrite w =
      { w with out := w.out ++ ts.flatten, endsLine := endsLine } := by
  induction ts generalizing w with
  | nil => exact ⟨w.endsLine, by simp⟩
  | cons t ts ih =>
    obtain ⟨endsLine, h⟩ := ih (w.rawWrite t)
    refine ⟨endsLine, ?_⟩
    rw [List.foldl_cons, h, Writer.rawWrite]
    split
    · next ht => simp [List.isEmpty_iff.1 ht]
    · simp

/-- Calls that write hand each other the same writer. -/
theorem Progress.nested (h : Progress cx root ps st calls st')
    (hwriter : st.members.nested = cx.writer) : st'.members.nested = cx.writer := by
  obtain ⟨endsLine, hmembers⟩ := foldl_rawWrite st.members (calls.filterMap Call.text?)
  rw [h.members, hmembers]
  exact hwriter

variable (root) in
/-- The processors are started one after the other until one fails. -/
theorem startAll_calls (htodo : ∀ e ∈ todo, ps.find? e.1 = some e.2)
    (hwriter : st.members.nested = cx.writer)
    (h : startAll cx.source todo st = (st', error)) :
    ∃ calls, Progress cx root ps st calls st' ∧
      Follows (todo.names.map (·, .start)) calls error := by
  induction todo generalizing st with
  | nil =>
    cases h
    exact ⟨[], .nil, .done⟩
  | cons e todo ih =>
    obtain ⟨name, p⟩ := e
    have hp : ps.find? name = some p := htodo (name, p) List.mem_cons_self
    have hcall (registry : Registry σ) : Invokes cx ⟨registry, ps, st.world⟩ _ _ := .start hp
    rcases hc : p.start cx.writer cx.source st.world with ⟨c, world⟩
    simp only [hc] at hcall
    simp only [startAll, hwriter, hc] at h
    split at h
    · next err herr =>
      cases h
      exact ⟨[.start name c], ⟨fun registry => .one (hcall registry), by simp [Call.text?, herr],
        by simp [Call.diagnostics], rfl⟩, .stop rfl (by simp [Call.stop?, herr])⟩
    · next herr =>
      have hone : Progress cx root ps st [.start name c]
          { st with
            members := st.members.rawWrite c.writer.out
            diagnostics := st.diagnostics ++ c.diagnostics
            world := world } :=
        ⟨fun registry => .one (hcall registry), by simp [Call.text?, herr],
          by simp [Call.diagnostics], rfl⟩
      obtain ⟨calls, hcalls, hfollows⟩ :=
        ih (fun e he => htodo e (List.mem_cons_of_mem _ he)) (hone.nested hwriter) h
      exact ⟨_, hone.append hcalls, .next rfl (by simp [Call.stop?, herr]) hfollows⟩

/-- Each queued directive is handed to its processor, also past those that fail. -/
theorem processAll_calls {queue : List CustomDirective}
    (hqueue : ∀ q ∈ queue, q.processor ∈ ps.names) (hwriter : st.members.nested = cx.writer)
    (h : processAll root cx.parameters ps queue st = (st', error)) :
    ∃ calls, Progress cx root ps st calls st' ∧
      Follows (queue.map fun q => (q.processor, .process q.directive)) calls error := by
  induction queue generalizing st with
  | nil =>
    cases h
    exact ⟨[], .nil, .done⟩
  | cons q queue ih =>
    rw [processAll] at h
    split at h
    · next hnone =>
      exact absurd (hqueue q List.mem_cons_self) (NameMap.find?_eq_none_iff.1 hnone)
    · next p hp =>
      have hcall (registry : Registry σ) : Invokes cx ⟨registry, ps, st.world⟩ _ _ :=
        .process q.directive hp
      rcases hc : p.process cx.parameters cx.writer q.directive.name q.directive.attributes st.world
        with ⟨c, world⟩
      simp only [hc] at hcall
      simp only [hwriter, hc] at h
      have hqueue := fun q hq => hqueue q (List.mem_cons_of_mem _ hq)
      split at h
      · next err herr =>
        have hone : Progress cx root ps st [.process q.processor q.directive c]
            { st with
              diagnostics := st.diagnostics ++ c.diagnostics
                ++ [.atLocation q.directive.span.start root err.message false]
              world := world } :=
          ⟨fun registry => .one (hcall registry), by simp [Call.text?, herr],
            by simp [Call.diagnostics, Call.fault, herr], rfl⟩
        obtain ⟨calls, hcalls, hfollows⟩ := ih hqueue (hone.nested hwriter) h
        exact ⟨_, hone.append hcalls, .next rfl rfl hfollows⟩
      · next herr =>
        have hone : Progress cx root ps st [.process q.processor q.directive c]
            { st with
              members := st.members.rawWrite c.writer.out
              diagnostics := st.diagnostics ++ c.diagnostics
              world := world } :=
          ⟨fun registry => .one (hcall registry), by simp [Call.text?, herr],
            by simp [Call.diagnostics, Call.fault, herr], rfl⟩
        obtain ⟨calls, hcalls, hfollows⟩ := ih hqueue (hone.nested hwriter) h
        exact ⟨_, hone.append hcalls, .next rfl rfl hfollows⟩

/-- What is planned for a processor when all directives are processed. -/
def finishing (name : Text) : List (Text × Purpose) :=
  [(name, .finish), (name, .imports), (name, .references)]

variable (cx root) in
/-- The processors are finished one after the other until one fails. -/
theorem finishAll_calls (htodo : ∀ e ∈ todo, ps.find? e.1 = some e.2)
    (h : finishAll todo st = (st', error)) :
    ∃ calls, Progress cx root ps st calls st' ∧
      Follows (todo.names.flatMap finishing) calls error := by
  induction todo generalizing st with
  | nil =>
    cases h
    exact ⟨[], .nil, .done⟩
  | cons e todo ih =>
    obtain ⟨name, p⟩ := e
    have hp : ps.find? name = some p := htodo (name, p) List.mem_cons_self
    have hfinish (registry : Registry σ) : Invokes cx ⟨registry, ps, st.world⟩ _ _ := .finish hp
    rw [finishAll] at h
    split at h
    · next err world hc =>
      simp only at hc
      simp only [hc] at hfinish
      cases h
      exact ⟨[.finish name (some err) (p.notes .finish st.world)],
        ⟨fun registry => .one (hfinish registry), rfl, by simp [Call.diagnostics], rfl⟩,
        .stop rfl rfl⟩
    · next world hc =>
      simp only at hc
      simp only [hc] at hfinish
      have himports (registry : Registry σ) : Invokes cx ⟨registry, ps, world⟩ _ _ := .imports hp
      have hreferences (registry : Registry σ) :
          Invokes cx ⟨registry, ps, (p.imports world).2⟩ _ _ := .references hp
      have hthree : Progress cx root ps st
          [.finish name none (p.notes .finish st.world),
            .imports name (p.imports world).1 (p.notes .imports world),
            .references name (p.references (p.imports world).2).1
              (p.notes .references (p.imports world).2)]
          { st with
            diagnostics := st.diagnostics ++ p.notes .finish st.world ++ p.notes .imports world
              ++ p.notes .references (p.imports world).2
            imports := st.imports.add (p.imports world).1
            references := st.references.add (p.references (p.imports world).2).1
            world := (p.references (p.imports world).2).2 } :=
        ⟨fun registry => .cons (hfinish registry)
          (.cons (himports registry) (.one (hreferences registry))),
          rfl, by simp [Call.diagnostics], by simp [Call.imported?, List.filterMap_cons]⟩
      obtain ⟨calls, hcalls, hfollows⟩ :=
        ih (fun e he => htodo e (List.mem_cons_of_mem _ he)) h
      exact ⟨_, hthree.append hcalls, .next rfl rfl (.next rfl rfl (.next rfl rfl hfollows))⟩

variable (cx root) in
/-- The processors are asked for the attributes of the class. -/
theorem classAttributes_calls (htodo : ∀ e ∈ todo, ps.find? e.1 = some e.2) (world : σ) :
    ∃ calls, (∀ registry, Calls cx ⟨registry, ps, world⟩ calls
        ⟨registry, ps, (classAttributes todo world).2⟩) ∧
      calls.map Call.label = todo.names.map (·, .classAttributes) ∧
      calls.flatMap Call.attributes = (classAttributes todo world).1 ∧
      calls.flatMap (Call.diagnostics root) = attributeNotes todo world := by
  induction todo generalizing world with
  | nil => exact ⟨[], fun _ => .nil, rfl, rfl, rfl⟩
  | cons e todo ih =>
    obtain ⟨name, p⟩ := e
    have hp : ps.find? name = some p := htodo (name, p) List.mem_cons_self
    obtain ⟨calls, hcalls, hlabels, hattributes, hnotes⟩ :=
      ih (fun e he => htodo e (List.mem_cons_of_mem _ he)) (p.classAttributes world).2
    have hcall (registry : Registry σ) : Invokes cx ⟨registry, ps, world⟩ _ _ :=
      .classAttributes hp
    refine ⟨.classAttributes name (p.classAttributes world).1 (p.notes .classAttributes world)
      :: calls, fun registry => .cons (hcall registry) (hcalls registry), ?_, ?_, ?_⟩
    · rw [List.map_cons, hlabels]
      rfl
    · rw [List.flatMap_cons, hattributes]
      rfl
    · rw [List.flatMap_cons, hnotes]
      rfl

/-! ## The generation -/

/-- What a generation plans to ask of processors, given their names and the queue. -/
def plan (processors : List Text) (queue : List CustomDirective) : List (Text × Purpose) :=
  processors.map (·, .start) ++ queue.map (fun q => (q.processor, .process q.directive))
    ++ processors.flatMap finishing

/-- The members with an empty line behind what processors wrote for directives. -/
def spaced (settings : Settings σ) (w : Writer) : Writer :=
  if settings.custom.isEmpty then w else w.ensureNewline.blankLine 1

/-- The text of the class around what processors wrote; none when a piece is of unknown kind. -/
def unit? (l : Layout) (template : Template) (settings : Settings σ)
    (imports attributes written : List Text) : Option Text :=
  let members := written.foldl Writer.rawWrite (firstMembers (membersWriter l settings.fileScoped))
  (transformMethod settings.lineMode template.root template.pieces (spaced settings members)).map
    fun w => compose l settings imports attributes
      (formatter ((helpers template.pieces).foldl
        (writeHelper settings.lineMode template.root) w)).out

/-- How a generation ends after calls to its plan, and the calls behind them. -/
inductive Ends (l : Layout) (template : Template) (settings : Settings σ) (calls : List Call)
    (g : Generated σ) : List Call → Option GenerateError → Prop where
  /-- A processor failed for good. -/
  | stopped {e : GenerateError} (hresult : g.result = .error e) :
    Ends l template settings calls g [] (some e)
  /-- A piece is of unknown kind. -/
  | unknownSegment (imports attributes : List Text)
      (hunit : unit? l template settings imports attributes (calls.filterMap Call.text?) = none)
      (hresult : g.result = .error .unknownSegment) :
    Ends l template settings calls g [] none
  /-- The text is composed, and given out unless an error was recorded. -/
  | composed {late : List Call} {text : Text}
      (hlate : late.map Call.label = settings.processors.names.map (·, .classAttributes))
      (hunit : unit? l template settings g.imports.values (late.flatMap Call.attributes)
        (calls.filterMap Call.text?) = some text)
      (hresult : g.result = if g.diagnostics.hasErrors
        then .error (.templateHasErrors g.diagnostics) else .ok text) :
    Ends l template settings calls g late none

/-- A text that is given out is the composed one. -/
theorem Ends.unit?_of_ok {l : Layout} {template : Template} {settings : Settings σ}
    {calls late : List Call} {g : Generated σ} {error : Option GenerateError} {text : Text}
    (h : Ends l template settings calls g late error) (htext : g.result = .ok text) :
    unit? l template settings g.imports.values (late.flatMap Call.attributes)
      (calls.filterMap Call.text?) = some text := by
  cases h with
  | stopped hresult =>
    rw [hresult] at htext
    cases htext
  | unknownSegment _ _ _ hresult =>
    rw [hresult] at htext
    cases htext
  | composed _ hunit hresult =>
    rw [hresult] at htext
    split at htext
    · cases htext
    · cases htext
      exact hunit

/-- When a text is given out, no processor failed for good, and all were asked for attributes. -/
theorem Ends.late_of_ok {l : Layout} {template : Template} {settings : Settings σ}
    {calls late : List Call} {g : Generated σ} {error : Option GenerateError} {text : Text}
    (h : Ends l template settings calls g late error) (htext : g.result = .ok text) :
    error = none ∧ late.map Call.label = settings.processors.names.map (·, .classAttributes) := by
  cases h with
  | stopped hresult =>
    rw [hresult] at htext
    cases htext
  | unknownSegment _ _ _ hresult =>
    rw [hresult] at htext
    cases htext
  | composed hlate _ _ => exact ⟨rfl, hlate⟩

section Generation

variable {template : Template} {settings : Settings σ}

/-- The processors of a queue, in the order of first use: none is there twice, and none is
missing. -/
theorem processors_of_queue
    (h : settings.processors.names = (settings.custom.map (·.processor)).eraseDups) :
    settings.processors.names.Nodup ∧
      ∀ q ∈ settings.custom, q.processor ∈ settings.processors.names := by
  rw [h]
  exact ⟨nodup_eraseDups _, fun q hq => List.mem_eraseDups.2 (List.mem_map_of_mem hq)⟩

/-- The members of all processors are written to plan. -/
theorem processorMembers_calls (hnodup : settings.processors.names.Nodup)
    (hqueue : ∀ q ∈ settings.custom, q.processor ∈ settings.processors.names)
    (hsource : cx.source = template.source) (hwriter : st.members.nested = cx.writer)
    (h : processorMembers template settings cx.parameters st = (st', error)) :
    ∃ calls mid, Progress cx template.root settings.processors st calls mid ∧
      Follows (plan settings.processors.names settings.custom) calls error ∧
      st'.world = mid.world ∧ st'.diagnostics = mid.diagnostics ∧ st'.imports = mid.imports ∧
      (error = none → st'.members = spaced settings mid.members) := by
  have hfind : ∀ e ∈ settings.processors, settings.processors.find? e.1 = some e.2 :=
    fun e he => NameMap.find?_of_mem hnodup he
  unfold processorMembers at h
  rw [← hsource] at h
  unfold plan
  split at h
  · next st₁ e hstart =>
    cases h
    obtain ⟨starts, hstarts, hfollows⟩ := startAll_calls template.root hfind hwriter hstart
    rw [List.append_assoc]
    exact ⟨starts, st', hstarts, hfollows.append_of_stop _, rfl, rfl, rfl, nofun⟩
  · next st₁ hstart =>
    obtain ⟨starts, hstarts, hfollows⟩ := startAll_calls template.root hfind hwriter hstart
    split at h
    · next st₂ e hprocess =>
      cases h
      obtain ⟨handed, hhanded, hfollows'⟩ :=
        processAll_calls hqueue (hstarts.nested hwriter) hprocess
      exact ⟨_, st', hstarts.append hhanded, (hfollows.append hfollows').append_of_stop _, rfl, rfl,
        rfl, nofun⟩
    · next st₂ hprocess =>
      obtain ⟨handed, hhanded, hfollows'⟩ :=
        processAll_calls hqueue (hstarts.nested hwriter) hprocess
      have hsofar := hstarts.append hhanded
      have hplan := hfollows.append hfollows'
      split at h
      · next st₃ e hfinish =>
        cases h
        obtain ⟨finished, hfinished, hfollows''⟩ :=
          finishAll_calls cx template.root hfind hfinish
        exact ⟨_, st', hsofar.append hfinished, hplan.append hfollows'', rfl, rfl, rfl, nofun⟩
      · next st₃ hfinish =>
        obtain ⟨finished, hfinished, hfollows''⟩ :=
          finishAll_calls cx template.root hfind hfinish
        refine ⟨_, st₃, hsofar.append hfinished, ?_⟩
        split at h
        · next hempty =>
          cases h
          exact ⟨hplan.append hfollows'', rfl, rfl, rfl, fun _ => by simp [spaced, hempty]⟩
        · next hempty =>
          cases h
          exact ⟨hplan.append hfollows'', rfl, rfl, rfl, fun _ => by simp [spaced, hempty]⟩

theorem nested_firstMembers (l : Layout) (settings : Settings σ) :
    (firstMembers (membersWriter l settings.fileScoped)).nested =
      membersWriter l settings.fileScoped := by
  have hadds := adds_firstMembers (members_stand l settings)
  rw [Writer.nested, Writer.reset, hadds.layout, hadds.indent, hadds.lineFile]
  rfl

/-- A generation at its start. -/
def firstState (l : Layout) (settings : Settings σ) (diagnostics : Diagnostics) (world : σ) :
    State σ :=
  ⟨firstMembers (membersWriter l settings.fileScoped), diagnostics, settings.imports,
    settings.references, world⟩

section Equations

variable {layout : Layout} {parameters : Option ParameterValues} {diagnostics : Diagnostics}
  {world : σ}

theorem generate_stopped {e : GenerateError}
    (hst : processorMembers template settings parameters
      (firstState (runLayout layout template.root settings) settings diagnostics world) =
        (st, some e)) :
    generate layout template settings parameters diagnostics world =
      ⟨.error e, st.diagnostics, st.imports, st.references, st.world⟩ := by
  rw [firstState] at hst
  simp only [generate, hst]

theorem generate_unknown
    (hst : processorMembers template settings parameters
      (firstState (runLayout layout template.root settings) settings diagnostics world) =
        (st, none))
    (hmethod : transformMethod settings.lineMode template.root template.pieces st.members = none) :
    generate layout template settings parameters diagnostics world =
      ⟨.error .unknownSegment, st.diagnostics, st.imports, st.references, st.world⟩ := by
  rw [firstState] at hst
  simp only [generate, hst, hmethod]

theorem generate_composed {w : Writer}
    (hst : processorMembers template settings parameters
      (firstState (runLayout layout template.root settings) settings diagnostics world) =
        (st, none))
    (hmethod : transformMethod settings.lineMode template.root template.pieces st.members =
      some w) :
    let imports := st.imports.add requiredImports
    let (attributes, world') := classAttributes settings.processors st.world
    let ds := st.diagnostics ++ attributeNotes settings.processors st.world
    let text := compose (runLayout layout template.root settings) settings imports.values attributes
      (formatter ((helpers template.pieces).foldl
        (writeHelper settings.lineMode template.root) w)).out
    generate layout template settings parameters diagnostics world =
      ⟨if ds.hasErrors then .error (.templateHasErrors ds) else .ok text, ds, imports,
        st.references, world'⟩ := by
  rw [firstState] at hst
  simp only [generate, hst, hmethod]

end Equations

variable (cx) in
/-- A generation asks processors what is planned, and its end depends on their answers. A text that
is given out is composed with the imports they name. -/
theorem generate_calls (hnodup : settings.processors.names.Nodup)
    (hqueue : ∀ q ∈ settings.custom, q.processor ∈ settings.processors.names)
    (layout : Layout) (hsource : cx.source = template.source)
    (hwriter : cx.writer =
      membersWriter (runLayout layout template.root settings) settings.fileScoped)
    (diagnostics : Diagnostics) (world : σ) :
    let g := generate layout template settings cx.parameters diagnostics world
    ∃ calls late error, Follows (plan settings.processors.names settings.custom) calls error ∧
      (∀ registry, Calls cx ⟨registry, settings.processors, world⟩ (calls ++ late)
        ⟨registry, settings.processors, g.world⟩) ∧
      g.diagnostics = diagnostics ++ (calls ++ late).flatMap (Call.diagnostics template.root) ∧
      Ends (runLayout layout template.root settings) template settings calls g late error ∧
      ∀ text, g.result = .ok text →
        g.imports = (settings.imports.add
          ((calls.filterMap Call.imported?).flatMap Prod.snd)).add requiredImports := by
  generalize hl : runLayout layout template.root settings = l at hwriter ⊢
  rcases hst : processorMembers template settings cx.parameters
    (firstState l settings diagnostics world) with ⟨st, error⟩
  have hnested : (firstState l settings diagnostics world).members.nested = cx.writer :=
    (nested_firstMembers l settings).trans hwriter.symm
  obtain ⟨calls, mid, hcalls, hfollows, hworld, hdiagnostics, himports, hmembers⟩ :=
    processorMembers_calls hnodup hqueue hsource hnested hst
  have hmade (registry : Registry σ) : Calls cx ⟨registry, settings.processors, world⟩ calls
      ⟨registry, settings.processors, st.world⟩ := hworld ▸ hcalls.made registry
  have hnotes : st.diagnostics = diagnostics ++ calls.flatMap (Call.diagnostics template.root) :=
    hdiagnostics.trans hcalls.diagnostics
  rw [← hl] at hst
  cases error with
  | some e =>
    rw [generate_stopped hst]
    exact ⟨calls, [], some e, hfollows, by simpa using hmade, by simpa using hnotes, .stopped rfl,
      nofun⟩
  | none =>
    have hwritten : st.members = spaced settings ((calls.filterMap Call.text?).foldl
        Writer.rawWrite (firstMembers (membersWriter l settings.fileScoped))) := by
      rw [hmembers rfl, hcalls.members]
      rfl
    rcases hmethod : transformMethod settings.lineMode template.root template.pieces st.members
      with _ | w
    · rw [generate_unknown hst hmethod]
      exact ⟨calls, [], none, hfollows, by simpa using hmade, by simpa using hnotes,
        .unknownSegment [] []
          (by simp only [unit?, ← hwritten, hmethod, Option.map_none]) rfl, nofun⟩
    · obtain ⟨late, hlate, hlabels, hattributes, hattributeNotes⟩ := classAttributes_calls cx
        template.root (fun e he => NameMap.find?_of_mem hnodup he) st.world
      rw [generate_composed hst hmethod, hl]
      refine ⟨calls, late, none, hfollows, fun registry => (hmade registry).trans (hlate registry),
        ?_, .composed hlabels ?_ rfl, fun _ _ => by rw [himports, hcalls.imports]; rfl⟩
      · rw [List.flatMap_append, hattributeNotes, ← List.append_assoc, ← hnotes]
      · simp only [unit?, ← hwritten, hmethod, Option.map_some, hattributes]

/-- What processors wrote and the line ends behind it leave all else as it is. -/
theorem spaced_foldl_rawWrite (settings : Settings σ) (first : Writer) (written : List Text) :
    ∃ t endsLine, spaced settings (written.foldl Writer.rawWrite first) =
      { first with out := first.out ++ (written.flatten ++ t), endsLine := endsLine } := by
  obtain ⟨_, hfold⟩ := foldl_rawWrite first written
  rw [hfold]
  unfold spaced Writer.ensureNewline
  split
  · exact ⟨[], _, by rw [List.append_nil]⟩
  · split
    · exact ⟨first.layout.newline ++ first.layout.newline, true,
        by simp [Writer.rawWriteLine, Writer.endLine, Writer.blankLine]⟩
    · exact ⟨first.layout.newline, true, by simp [Writer.blankLine]⟩

/-- What processors wrote stands in the class as it is, behind the first members. -/
theorem text_of_unit? {l : Layout} {imports attributes written : List Text} {text : Text}
    (h : unit? l template settings imports attributes written = some text) :
    ∃ back, text = openingText l settings imports attributes
      ++ (firstText l (memberIndent l settings) ++ written.flatten ++ back) := by
  obtain ⟨v, hv, rfl⟩ := Option.map_eq_some_iff.1 h
  have hw := members_stand l settings
  have hfirst := adds_firstMembers hw
  have hlast := lastLine_firstMembers (membersWriter l settings.fileScoped)
  generalize firstMembers (membersWriter l settings.fileScoped) = first at hfirst hlast hv
  obtain ⟨t, endsLine, hm⟩ := spaced_foldl_rawWrite settings first written
  rw [hm] at hv
  obtain ⟨hstands, hlast, lead, fs, -, hout, -⟩ := transformMethod_eq
    (w := { first with out := first.out ++ (written.flatten ++ t), endsLine := endsLine })
    (hfirst.layout.trans hw.layout) (hfirst.indent.trans hw.indent)
    (hfirst.lineFile.trans hw.lineFile) hlast hv
  have hhelpers := adds_helpers hstands.adds hstands hlast settings.lineMode template.root
    (helpers template.pieces)
  have hall := (hhelpers.trans (adds_formatter (hhelpers.stands hstands))).out
  have hfront : first.out = firstText l (memberIndent l settings) := hfirst.out
  -- the method keeps what stands in front of it from being dropped as line ends
  have hkept : (0x70 : UInt8) ∈ methodOpening l (memberIndent l settings) := by
    simp only [methodOpening, List.append_assoc]
    exact List.mem_append_left _ (by decide)
  rw [compose_eq_texts, hall, hout, hfront]
  simp only [List.append_assoc]
  rw [← List.append_assoc (firstText _ _), Text.dropEndWhile_append_of_mem _ (by decide)
    (List.mem_append_right _ (List.mem_append_right _ (List.mem_append_left _ hkept)))]
  exact ⟨_, by simp only [List.append_assoc]; rfl⟩

end Generation

end Output

end TextTemplate
