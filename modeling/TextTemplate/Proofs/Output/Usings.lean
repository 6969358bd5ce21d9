/-
The using directives of a generated class. They name what the set of imports holds when the text is
composed. The set is begun by the resolution, which adds the imports of the host and of the import
directives, taken further by the processors as they are finished, and completed with what every
class needs; so the names stand where they came first (`firsts`), in this order.

`generate_usings` says so of every text that is given out, and what a set of names is after any
additions.
-/
import TextTemplate.Proofs.Processor.Lifecycle
import TextTemplate.Proofs.Settings.Effect
import TextTemplate.Proofs.Settings.NameSet

namespace TextTemplate

open Output

variable {σ : Type}

/-! ## The imports of a resolution -/

/-- The namespace an import directive names. -/
def Directive.importName? (d : Directive) : Option Text :=
  if DirectiveKind.ofName d.name = .importName then d.attributes.get? (utf8 "namespace") else none

/-- An empty name adds nothing. -/
theorem NameSet.add_filter (s : NameSet) (name : Option Text) :
    s.add (name.filter (· ≠ [])).toList = s.add name.toList := by
  cases name with
  | none => rfl
  | some name =>
    by_cases hname : name = []
    · simp [hname, Option.filter, NameSet.add, NameSet.insert]
    · simp [hname, Option.filter]

theorem imports_effect (d : Directive) (s : Settings σ) :
    (d.effect s).imports = s.imports.add d.importName?.toList := by
  unfold Directive.effect Directive.importName?
  cases DirectiveKind.ofName d.name with
  | importName => exact s.imports.add_filter _
  | _ => rfl

/-- The imports that directives leave. -/
theorem holds_foldl_effect {given : List Text} (ds : List Directive) {s : Settings σ}
    (h : s.imports.Holds given) :
    (ds.foldl (fun s (d : Directive) => d.effect s) s).imports.Holds
      (given ++ ds.filterMap Directive.importName?) := by
  induction ds generalizing s given with
  | nil => simpa using h
  | cons d ds ih =>
    have hd : (d.effect s).imports.Holds (given ++ d.importName?.toList) := by
      rw [imports_effect]
      exact h.add _
    have hds := ih hd
    rw [List.append_assoc] at hds
    cases hname : d.importName? with
    | none => simpa [List.filterMap_cons_none hname, hname] using hds
    | some name => simpa [List.filterMap_cons_some hname, hname] using hds

/-- The imports of the settings of a template: `System`, those of the host, and those of the import
directives. -/
theorem holds_imports_resolve {template : Template} {options : ResolveOptions}
    {loading : Loading σ} {registry : Registry σ} {world : σ} {settings : Settings σ}
    (h : (Settings.resolve template options loading registry world).result = .ok settings) :
    settings.imports.Holds ([utf8 "System"] ++ options.imports
      ++ template.directives.filterMap Directive.importName?) := by
  obtain ⟨encoding, ps, queue, rfl, -⟩ := resolve_effects h
  have hinitial : (Settings.initial options encoding : Settings σ).imports.Holds
      ([utf8 "System"] ++ options.imports) := (NameSet.Holds.empty.insert _).add _
  exact holds_foldl_effect template.directives hinitial

/-! ## The text -/

theorem Layout.line_nil (l : Layout) {s : Text} (hs : s ≠ []) : l.line [] s = s ++ l.newline := by
  simp [Layout.line, Writer.indented, hs]

/-- A generated class opens with its using directives, an empty line and its namespace. -/
theorem openingText_eq (l : Layout) (settings : Settings σ) (imports attributes : List Text) :
    ∃ rest, openingText l settings imports attributes =
      (imports.flatMap fun name => utf8 "using " ++ name ++ utf8 ";" ++ l.newline) ++ l.newline
        ++ utf8 "namespace " ++ settings.namespaceName ++ rest := by
  have husings : usingText l imports =
      (imports.flatMap fun name => utf8 "using " ++ name ++ utf8 ";" ++ l.newline)
        ++ l.newline := by
    have hline (name : Text) : l.line [] (utf8 "using " ++ name ++ utf8 ";") =
        utf8 "using " ++ name ++ utf8 ";" ++ l.newline :=
      l.line_nil (List.append_ne_nil_of_right_ne_nil _ (by decide))
    simp only [usingText, hline]
  have hnamespace : ∃ rest, namespaceText l settings =
      utf8 "namespace " ++ settings.namespaceName ++ rest := by
    unfold namespaceText
    split
    · rw [l.line_nil (List.append_ne_nil_of_right_ne_nil _ (by decide))]
      exact ⟨_, by simp only [List.append_assoc]; rfl⟩
    · rw [l.line_nil (List.append_ne_nil_of_left_ne_nil (by decide) _)]
      exact ⟨_, by simp only [List.append_assoc]; rfl⟩
  obtain ⟨rest, hrest⟩ := hnamespace
  rw [openingText, husings, hrest]
  exact ⟨_, by simp only [List.append_assoc]; rfl⟩

theorem newline_runLayout (layout : Layout) (root : Text) (settings : Settings σ) :
    (runLayout layout root settings).newline = layout.newline := by
  unfold runLayout
  split <;> rfl

/-! ## The imports of processors -/

theorem Call.map_imported? (c : Call) :
    c.imported?.map Prod.fst = if c.label.2 = .imports then some c.label.1 else none := by
  cases c <;> rfl

/-- Whom a planned call asks for imports, if it asks anyone. -/
def importer? (step : Text × Purpose) : Option Text :=
  if step.2 = .imports then some step.1 else none

theorem importer?_plan (processors : List Text) (queue : List CustomDirective) :
    (plan processors queue).filterMap importer? = processors := by
  have hfinishing : (processors.flatMap finishing).filterMap importer? = processors := by
    induction processors with
    | nil => rfl
    | cons name processors ih =>
      rw [List.flatMap_cons, List.filterMap_append, ih]
      rfl
  rw [plan, List.filterMap_append, List.filterMap_append, hfinishing, List.filterMap_map,
    List.filterMap_map]
  simp [importer?, Function.comp_def]

/-- Each processor is asked for its imports once, in the order of the processors. -/
theorem imported_of_follows {processors : List Text} {queue : List CustomDirective}
    {calls : List Call} (h : Follows (plan processors queue) calls none) :
    (calls.filterMap Call.imported?).map Prod.fst = processors := by
  rw [List.map_filterMap, ← importer?_plan processors queue, ← h.map_label, List.filterMap_map]
  exact List.filterMap_congr fun c _ => c.map_imported?

/-! ## The whole -/

open Resolving in
/-- **The using directives of a generated class.** A set of names lists, after any additions, those of
the names it was given that are not empty, each once and where it first came; it finds exactly these,
counts them, and its index holds the same. A text that a generation gives out opens with one using
directive for each of its imports; then come an empty line and the namespace. The imports are such a
list of, in this order, `System`, the imports of the host, the namespaces of the import directives,
what each processor names when it is asked for its imports, in the order of the processors, and what
every class needs. -/
theorem generate_usings {σ : Type} (layout : Layout) (template : Template)
    (options : ResolveOptions) (loading : Loading σ) (registry : Registry σ) (world : σ) :
    (∀ batches : List (List Text),
      let s : NameSet := batches.foldl NameSet.add .empty
      s.values = firsts batches.flatten ∧ s.values.Nodup ∧ [] ∉ s.values ∧
        (∀ name, s.contains name = true ↔ name ∈ s.values) ∧
        s.size = s.values.length ∧ s.index.names = s.values) ∧
    let r := Settings.resolve template options loading registry world
    ∀ settings text, r.result = .ok settings →
      let l := runLayout layout template.root settings
      let g := generate layout template settings options.parameters r.diagnostics r.world
      let cx : Context σ :=
        ⟨loading, template.source, options.parameters, membersWriter l settings.fileScoped⟩
      g.result = .ok text →
      ∃ calls late,
        Calls cx ⟨registry, [], world⟩
          (settings.processors.flatMap (activation cx) ++ (calls ++ late))
          ⟨r.registry, settings.processors, g.world⟩ ∧
        Follows (plan settings.processors.names settings.custom) calls none ∧
        late.map Call.label = settings.processors.names.map (·, .classAttributes) ∧
        (calls.filterMap Call.imported?).map Prod.fst = settings.processors.names ∧
        g.imports.values = firsts ([utf8 "System"] ++ options.imports
          ++ template.directives.filterMap Directive.importName?
          ++ (calls.filterMap Call.imported?).flatMap Prod.snd
          ++ [utf8 "System.Collections.Generic", utf8 "System.Text"]) ∧
        ∃ rest, text =
          (g.imports.values.flatMap fun name => utf8 "using " ++ name ++ utf8 ";" ++ layout.newline)
            ++ layout.newline ++ utf8 "namespace " ++ settings.namespaceName ++ rest := by
  refine ⟨fun batches => ?_, ?_⟩
  · intro s
    have hs : s.Holds batches.flatten := NameSet.holds_batches batches
    refine ⟨hs.values, ?_, ?_, hs.contains, rfl, hs.index⟩
    · rw [hs.values]
      exact nodup_firsts _
    · rw [hs.values, mem_firsts]
      exact fun h => h.2 rfl
  · intro r settings text hresult l g cx htext
    obtain ⟨-, hnames, hactivated, -⟩ := resolve_ok cx rfl hresult
    obtain ⟨hnodup, hqueue⟩ := processors_of_queue hnames
    obtain ⟨calls, late, error, hfollows, hcalls, -, hends, himports⟩ :=
      generate_calls cx hnodup hqueue layout rfl rfl r.diagnostics r.world
    obtain ⟨rfl, hlate⟩ := hends.late_of_ok htext
    have hall : g.imports.Holds ([utf8 "System"] ++ options.imports
        ++ template.directives.filterMap Directive.importName?
        ++ (calls.filterMap Call.imported?).flatMap Prod.snd ++ requiredImports) := by
      rw [himports text htext]
      exact ((holds_imports_resolve hresult).add _).add _
    refine ⟨calls, late, hactivated.trans (hcalls r.registry), hfollows, hlate,
      imported_of_follows hfollows, hall.values, ?_⟩
    obtain ⟨back, hback⟩ := text_of_unit? (hends.unit?_of_ok htext)
    obtain ⟨rest, hrest⟩ :=
      openingText_eq l settings g.imports.values (late.flatMap Call.attributes)
    rw [newline_runLayout] at hrest
    rw [hback, hrest]
    exact ⟨_, by simp only [List.append_assoc]; rfl⟩

/-- Imports with a repeat and a processor. -/
def usingTemplate : Template :=
  let line (n : Int64) : Span := .point ⟨utf8 "t.tt", n, 1⟩
  .ofSegments (utf8 "t.tt") [] [
    .directive ⟨utf8 "import", .ofList [(utf8 "namespace", utf8 "B")], line 1⟩,
    .directive ⟨utf8 "widget", .ofList [(utf8 "processor", utf8 "P")], line 2⟩,
    .directive ⟨utf8 "import", .ofList [(utf8 "namespace", utf8 "A")], line 3⟩]

/-- A registry with one processor, which names imports: an empty one, one that others name before,
one that every class needs, and one of its own. -/
def usingRegistry : Registry Unit :=
  .register .standard (utf8 "P") fun s =>
    ({ Processor.idle with
        supports := fun _ => true
        imports := fun s => ([[], utf8 "B", utf8 "System.Text", utf8 "C"], s) }, s)

/-- Options with an import of the host and an empty one. -/
def usingOptions : ResolveOptions := { ResolveOptions.bare with imports := [utf8 "A", []] }

/-- The resolution of that template. -/
def usingResolved : Settings.Resolved Unit :=
  Settings.resolve usingTemplate usingOptions ⟨none, none⟩ usingRegistry ()

/-- Its generation with the settings resolved. -/
def usingGenerated (settings : Settings Unit) : Generated Unit :=
  generate .standard usingTemplate settings none usingResolved.diagnostics usingResolved.world

/-- What comes first counts: `System.Text` stays in front of `System.Collections.Generic`. -/
theorem generate_usings_sample :
    ∃ settings text rest,
      usingResolved.result = .ok settings ∧ (usingGenerated settings).result = .ok text ∧
      (∃ calls, Follows (plan [utf8 "P"] settings.custom) calls none ∧
        (calls.filterMap Call.imported?).map Prod.fst = [utf8 "P"]) ∧
      text = ([utf8 "System", utf8 "A", utf8 "B", utf8 "System.Text", utf8 "C",
          utf8 "System.Collections.Generic"].flatMap fun name =>
            utf8 "using " ++ name ++ utf8 ";" ++ utf8 "\n")
        ++ utf8 "\n" ++ utf8 "namespace " ++ settings.namespaceName ++ rest := by
  have hok : usingResolved.result.map (fun settings =>
      (settings.processors.names, (usingGenerated settings).imports.values,
        (usingGenerated settings).result.map fun _ => ())) =
      .ok ([utf8 "P"], [utf8 "System", utf8 "A", utf8 "B", utf8 "System.Text", utf8 "C",
        utf8 "System.Collections.Generic"], .ok ()) := by decide +kernel
  obtain ⟨settings, hresult, hread⟩ := exists_ok_of_map hok
  obtain ⟨hnames, himports, hgenerated⟩ : settings.processors.names = [utf8 "P"] ∧ _ ∧ _ := by
    simpa only [Prod.mk.injEq] using hread
  obtain ⟨text, htext, -⟩ := exists_ok_of_map hgenerated
  obtain ⟨calls, -, -, hfollows, -, himported, -, rest, hrest⟩ := (generate_usings .standard
    usingTemplate usingOptions ⟨none, none⟩ usingRegistry ()).2 settings text hresult htext
  rw [hnames] at hfollows himported
  rw [usingGenerated] at himports
  exact ⟨settings, text, rest, hresult, htext, ⟨calls, hfollows, himported⟩, himports ▸ hrest⟩

end TextTemplate
