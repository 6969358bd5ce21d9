/-
Attributes that nothing asks for. When a resolution has taken up a directive it warns about the
attributes that are left: those whose names the kind of the directive does not know
(`Directive.recognised`). All it knows is taken out on every path, whatever its value and whatever
else is wrong with the directive, so what is left depends on the unknown names alone.

`resolve_warns_unknown`: the warnings about unknown attributes, one by one, for all parsed templates.
-/
import TextTemplate.Proofs.Include.Splicing
import TextTemplate.Proofs.Include.Tag
import TextTemplate.Proofs.Settings.Effect

namespace TextTemplate

variable {σ : Type}

/-! ## The warnings -/

/-- Whether a diagnostic is a warning about unknown attributes. -/
def Diagnostic.tellsUnknown (w : Diagnostic) : Bool :=
  w.isWarning && (utf8 "Unknown attributes ").isPrefixOf w.text

/-- The warnings about unknown attributes that a resolution adds to those of the template. -/
def Settings.Resolved.unknown (x : Resolved σ) (t : Template) : Diagnostics :=
  (x.diagnostics.drop t.diagnostics.length).filter Diagnostic.tellsUnknown

namespace Directive

/-- Whether a directive is looked over for unknown attributes. One for a processor never is, an import
directive only when it names a namespace. -/
def isChecked (d : Directive) : Bool :=
  match DirectiveKind.ofName d.name with
  | .template | .className | .namespaceName | .output => true
  | .importName => (d.word? (utf8 "namespace")).isSome
  | .includeFile | .parameter | .custom => false

/-- Whether one of the attributes written in a directive is none that its kind knows. -/
def carriesUnknown (d : Directive) (pairs : List (Text × Text)) : Bool :=
  pairs.any fun p => p.1.lower ∉ (recognised (DirectiveKind.ofName d.name)).map Text.lower

/-- Whether a warning tells of the unknown attributes of a directive in which `pairs` are written. It
stands where the directive starts; when the file of the directive has no name, that is no place, and
it stands at the root file as a whole. -/
structure WarnsOf (root : Text) (pairs : List (Text × Text)) (d : Directive) (w : Diagnostic) :
    Prop where
  isWarning : w.isWarning = true
  code : w.code = []
  text : ∃ names, Attributes.Lists (recognised (DirectiveKind.ofName d.name)) pairs names ∧
    w.text = utf8 "Unknown attributes " ++ Text.join (utf8 ", ") names ++ utf8 " found in "
      ++ d.name ++ utf8 " directive."
  place : d.span.start.hasFile = true → w.location = d.span.start
  nowhere : d.span.start.hasFile = false → w.location = ⟨root, 0, 0⟩

/-- Whether the same is written in two directives under names that their kind does not know. The
known attributes may differ, but for whether an import directive names a namespace. -/
structure LeavesSame (d d' : Directive) : Prop where
  name : d.name = d'.name
  start : d.span.start = d'.span.start
  isChecked : d.isChecked = d'.isChecked
  unknown : ∃ pairs pairs', d.attributes = .ofList pairs ∧ d'.attributes = .ofList pairs' ∧
    ∀ key ∉ (recognised (DirectiveKind.ofName d.name)).map Text.lower,
      (Attributes.lastSetting pairs key).map Prod.fst =
        (Attributes.lastSetting pairs' key).map Prod.fst

/-! ## The diagnostics of one directive -/

section

variable {d d' : Directive} {root key missing text : Text} {keys : List Text}
  {pairs : List (Text × Text)} {written : Directive → List (Text × Text)}

theorem tellsUnknown_remark (isWarning : Bool) :
    (d.remark root text isWarning).tellsUnknown =
      (isWarning && (utf8 "Unknown attributes ").isPrefixOf text) := by
  rw [Diagnostic.tellsUnknown, remark, Diagnostic.isWarning_atLocation, Diagnostic.text_atLocation]

theorem filter_languageNotes (language : Option Text) :
    (d.languageNotes root language).filter Diagnostic.tellsUnknown = [] := by
  unfold languageNotes
  split
  · split
    · rfl
    · rw [List.filter_cons_of_neg (by simp [tellsUnknown_remark]), List.filter_nil]
  · rfl

theorem filter_flagNotes : (d.flagNotes root key).filter Diagnostic.tellsUnknown = [] := by
  unfold flagNotes
  split
  · have hother (s : Text) : (utf8 "Unknown attributes ").isPrefixOf
        (utf8 "Invalid boolean value for attribute '" ++ s) = false := rfl
    rw [List.filter_cons_of_neg (by simp [tellsUnknown_remark, hother]), List.filter_nil]
  · rfl

theorem filter_missingNotes :
    (d.missingNotes root key missing).filter Diagnostic.tellsUnknown = [] := by
  unfold missingNotes
  split
  · rw [List.filter_cons_of_neg (by simp [tellsUnknown_remark]), List.filter_nil]
  · rfl

theorem filter_encodingNotes (name : Option Text) :
    (d.encodingNotes root name).filter Diagnostic.tellsUnknown = [] := by
  unfold encodingNotes
  split
  · split
    · rfl
    · rw [List.filter_cons_of_neg (by simp [tellsUnknown_remark]), List.filter_nil]
  · rfl

theorem filter_leftoverNotes : (d.leftoverNotes root keys).filter Diagnostic.tellsUnknown =
    d.leftoverNotes root keys := by
  unfold leftoverNotes
  split
  · rfl
  · have htells (s : Text) : (utf8 "Unknown attributes ").isPrefixOf
        (utf8 "Unknown attributes " ++ s) = true := rfl
    rw [List.filter_cons_of_pos (by simp [tellsUnknown_remark, htells]), List.filter_nil]

/-- Of what a directive says is wrong with it, only what is said of its left attributes tells of
unknown attributes. -/
theorem filter_notes : (d.notes root).filter Diagnostic.tellsUnknown =
    if d.isChecked then d.leftoverNotes root (recognised (DirectiveKind.ofName d.name)) else [] := by
  unfold notes isChecked
  cases DirectiveKind.ofName d.name with
  | template =>
    simp only [List.filter_append, filter_languageNotes, filter_flagNotes, filter_leftoverNotes,
      List.nil_append, if_true]
  | className | namespaceName =>
    simp only [List.filter_append, filter_missingNotes, filter_leftoverNotes, List.nil_append,
      if_true]
  | importName =>
    dsimp only
    rw [List.filter_append, filter_missingNotes, List.nil_append]
    split
    · exact filter_leftoverNotes
    · rfl
  | output =>
    simp only [List.filter_append, filter_encodingNotes, filter_leftoverNotes, List.nil_append,
      if_true]
  | includeFile | parameter | custom => rfl

/-- What is left of the attributes written in a directive. -/
theorem lists_without (hattributes : d.attributes = .ofList pairs) (keys : List Text) :
    Attributes.Lists keys pairs (d.without keys).attributes.names := by
  unfold without
  rw [hattributes]
  exact Attributes.lists_foldl_erase pairs keys

/-- What is said of the attributes that are left tells of the unknown ones, if there are any. -/
theorem warnsOf_leftover (hattributes : d.attributes = .ofList (written d)) :
    List.Forall₂ (fun d w => d.WarnsOf root (written d) w)
      (if d.carriesUnknown (written d) then [d] else [])
      (d.leftoverNotes root (recognised (DirectiveKind.ofName d.name))) := by
  have hlists := lists_without hattributes (recognised (DirectiveKind.ofName d.name))
  have hcarries : d.carriesUnknown (written d) = true ↔
      (d.without (recognised (DirectiveKind.ofName d.name))).attributes.names ≠ [] := by
    rw [ne_eq, hlists.eq_nil_iff]
    simp [carriesUnknown]
  unfold leftoverNotes
  by_cases hnone : (d.without (recognised (DirectiveKind.ofName d.name))).attributes.names = []
  · rw [if_pos hnone, if_neg fun hsome => hcarries.1 hsome hnone]
    exact .nil
  · rw [if_neg hnone, if_pos (hcarries.2 hnone)]
    refine .cons ⟨?_, ?_, ⟨_, hlists, ?_⟩, ?_, ?_⟩ .nil
    · simp [remark]
    · unfold remark Diagnostic.atLocation
      split <;> rfl
    · simp [remark]
    · intro hfile
      simp [remark, Diagnostic.atLocation, hfile, Diagnostic.location]
    · intro hfile
      simp [remark, Diagnostic.atLocation, hfile, Diagnostic.location]

/-- **One directive** brings one warning if it is looked over and something unknown is written in it,
and none otherwise. -/
theorem warnsOf_notes (hattributes : d.attributes = .ofList (written d)) :
    List.Forall₂ (fun d w => d.WarnsOf root (written d) w)
      (if d.isChecked && d.carriesUnknown (written d) then [d] else [])
      ((d.notes root).filter Diagnostic.tellsUnknown) := by
  rw [filter_notes]
  cases d.isChecked with
  | false => exact .nil
  | true => simpa using warnsOf_leftover hattributes

/-- Directives that leave the same are warned about alike. -/
theorem LeavesSame.filter_notes (h : d.LeavesSame d') :
    (d.notes root).filter Diagnostic.tellsUnknown =
      (d'.notes root).filter Diagnostic.tellsUnknown := by
  obtain ⟨pairs, pairs', hpairs, hpairs', hsame⟩ := h.unknown
  have hnames := (lists_without hpairs _).congr (lists_without hpairs' _) hsame
  rw [Directive.filter_notes, Directive.filter_notes, ← h.isChecked, ← h.name, leftoverNotes,
    leftoverNotes, ← hnames, ← h.name]
  unfold remark
  rw [← h.start]

end

end Directive

/-- **All directives**: a warning for each that is looked over and has something unknown written in
it, in their order. -/
theorem forall₂_warnsOf {root : Text} {ds : List Directive}
    {written : Directive → List (Text × Text)}
    (hwritten : ∀ d ∈ ds, d.attributes = .ofList (written d)) :
    List.Forall₂ (fun d w => d.WarnsOf root (written d) w)
      (ds.filter fun d => d.isChecked && d.carriesUnknown (written d))
      ((ds.flatMap (Directive.notes root)).filter Diagnostic.tellsUnknown) := by
  induction ds with
  | nil => exact .nil
  | cons d ds ih =>
    obtain ⟨hd, hds⟩ := List.forall_mem_cons.1 hwritten
    rw [List.flatMap_cons, List.filter_append, ← List.singleton_append (l := ds),
      List.filter_append, List.filter_singleton, Bool.cond_eq_ite]
    exact List.rel_append (Directive.warnsOf_notes hd) (ih hds)

theorem filter_flatMap_notes_congr {root : Text} {ds ds' : List Directive}
    (h : List.Forall₂ Directive.LeavesSame ds ds') :
    (ds.flatMap (Directive.notes root)).filter Diagnostic.tellsUnknown =
      (ds'.flatMap (Directive.notes root)).filter Diagnostic.tellsUnknown := by
  induction h with
  | nil => rfl
  | cons hd _ ih =>
    rw [List.flatMap_cons, List.flatMap_cons, List.filter_append, List.filter_append, ih,
      hd.filter_notes]

/-- **The unknown attributes of a parsed template.** A resolution that succeeds adds to the
diagnostics of the template one warning for each directive that is looked over and has an attribute
written in its tag that its kind does not know, in the order of the directives, and no other warning
about unknown attributes. The warning stands where the directive starts, unless its file has no name,
and lists the unknown names, each once, in the spelling written last, increasing by lower-cased name.
Another template whose directives leave the same is warned about in the same way, whatever the known
attributes are, in whatever order they are written, and whatever else is said of the directives. -/
theorem resolve_warns_unknown {load : Option Loader} {root source : Text} {template : Template}
    {options : ResolveOptions} {loading : Loading σ} {registry : Registry σ} {world : σ}
    {settings : Settings σ} (hparse : Template.parse? root source load = some template)
    (h : (Settings.resolve template options loading registry world).result = .ok settings) :
    template.diagnostics <+:
        (Settings.resolve template options loading registry world).diagnostics ∧
      (∃ written : Directive → List (Text × Text),
        (∀ d ∈ template.directives, Expansion.WrittenAs load root source (written d) d) ∧
        List.Forall₂ (fun d w => d.WarnsOf template.root (written d) w)
          (template.directives.filter fun d => d.isChecked && d.carriesUnknown (written d))
          ((Settings.resolve template options loading registry world).unknown template)) ∧
      ∀ (other : Template) (options' : ResolveOptions) (loading' : Loading σ)
        (registry' : Registry σ) (world' : σ) (settings' : Settings σ),
        (Settings.resolve other options' loading' registry' world').result = .ok settings' →
        other.root = template.root →
        List.Forall₂ Directive.LeavesSame template.directives other.directives →
        (Settings.resolve other options' loading' registry' world').unknown other =
          (Settings.resolve template options loading registry world).unknown template := by
  obtain ⟨-, -, -, -, hdiagnostics⟩ := resolve_effects h
  have hunknown : (Settings.resolve template options loading registry world).unknown template =
      (template.directives.flatMap (Directive.notes template.root)).filter
        Diagnostic.tellsUnknown := by
    rw [Settings.Resolved.unknown, hdiagnostics, List.drop_left]
  refine ⟨hdiagnostics ▸ List.prefix_append _ _, ?_, ?_⟩
  · have hpairs : ∀ d, ∃ pairs, d ∈ template.directives →
        Expansion.WrittenAs load root source pairs d := fun d => by
      by_cases hd : d ∈ template.directives
      · obtain ⟨pairs, hwritten⟩ := Expansion.saidIn_parse? hparse hd
        exact ⟨pairs, fun _ => hwritten⟩
      · exact ⟨[], fun h => absurd h hd⟩
    choose written hwritten using hpairs
    refine ⟨written, hwritten, ?_⟩
    rw [hunknown]
    exact forall₂_warnsOf fun d hd => (hwritten d hd).attributes
  · intro other options' loading' registry' world' settings' h' hroot hsame
    obtain ⟨-, -, -, -, hdiagnostics'⟩ := resolve_effects h'
    rw [hunknown, Settings.Resolved.unknown, hdiagnostics', List.drop_left, hroot]
    exact (filter_flatMap_notes_congr hsame).symm

/-- A class directive without a name, with unknown attributes, one of them written twice. -/
def oddText : Text := utf8 "<#@ class Name=\"\" b=\"1\" a=\"2\" B=\"3\" #>"

/-- A loader of one file with that text, which it knows by a given name. -/
def oddFile (name : Text) : Loader := fun requested _ =>
  if requested = utf8 "h" then some (oddText, name) else none

/-- The events of that file. -/
def oddEvents (name : Text) : List Event :=
  let event (kind : EventKind) (value : String) (column : Int64) : Event :=
    ⟨kind, utf8 value, ⟨name, 1, column⟩, ⟨name, 1, 1⟩, ⟨name, 1, 1⟩⟩
  [event .directive "" 4, event .directiveName "class" 5,
    event .directiveName "Name" 11, event .directiveValue "" 17,
    event .directiveName "b" 19, event .directiveValue "1" 22,
    event .directiveName "a" 25, event .directiveValue "2" 28,
    event .directiveName "B" 31, event .directiveValue "3" 34,
    ⟨.directive, [], ⟨name, 1, 37⟩, ⟨name, 1, 1⟩, ⟨name, 1, 39⟩⟩,
    ⟨.eof, [], ⟨name, 1, 39⟩, ⟨name, 1, 39⟩, ⟨name, 1, 39⟩⟩]

theorem scan_odd (name : Text) : scan name oddText = (oddEvents name, none) := by cbv

/-- Its directive. -/
def oddDirective (name : Text) : Directive :=
  ⟨utf8 "class", .ofList [(utf8 "Name", []), (utf8 "b", utf8 "1"), (utf8 "a", utf8 "2"),
    (utf8 "B", utf8 "3")], ⟨⟨name, 1, 5⟩, ⟨name, 1, 39⟩, ⟨name, 1, 1⟩⟩⟩

/-- The template that includes the file. -/
def oddTemplate (name : Text) : Template :=
  ⟨utf8 "r", utf8 "<#@ Include file=\"h\" #>", [.directive (oddDirective name)], [],
    [(utf8 "h", utf8 "r")]⟩

namespace Expansion

theorem nextMove_oddEvents (name : Text) (g : Gathered) :
    nextMove (utf8 "r") true false (oddEvents name) g =
      .advance false ((oddEvents name).drop 11)
        { g with segments := g.segments ++ [.directive (oddDirective name)] } := by
  have hname : (utf8 "class").eqFold (utf8 "include") = false := by decide +kernel
  simp only [nextMove, oddEvents, Draft.read, Draft.name, Draft.value, Draft.close, Draft.flush,
    Draft.empty, Directive.is, hname, Gathered.note, Gathered.add, List.append_nil,
    Bool.false_eq_true, if_false]
  rfl

theorem parse?_odd {name : Text} (hname : name.lower ≠ utf8 "r") :
    Template.parse? (utf8 "r") (utf8 "<#@ Include file=\"h\" #>") (oddFile name) =
      some (oddTemplate name) := by
  have hroot : scan (utf8 "r") (utf8 "<#@ Include file=\"h\" #>") = (mixedCaseEvents, none) := by
    cbv
  have henter : includeStep (oddFile name) (utf8 "r") mixedCaseDirective (.ofRoot (utf8 "r")) =
      .enter oddText name ⟨[], [], [], [name.lower], [utf8 "r"], [(utf8 "h", utf8 "r")]⟩ := by
    have hfile : mixedCaseDirective.attributes.get? (utf8 "file") = some (utf8 "h") := by
      decide +kernel
    have honce : mixedCaseDirective.once = (false, none) := by decide +kernel
    have hslashes : Text.replace [0x5C] [0x2F] (utf8 "h") = utf8 "h" := by decide +kernel
    have hlower : (utf8 "r").lower = utf8 "r" := by decide +kernel
    simp [includeStep, hfile, includeNamed, hslashes, oddFile, includeFound, honce, hlower, hname,
      Gathered.complainOnce, Gathered.request, Gathered.visit, Gathered.ofRoot]
    rfl
  simp only [Template.parse?, hroot]
  rw [expand?]
  simp only [nextMove_mixedCaseEvents]
  rw [include?]
  simp only [henter, scan_odd]
  rw [expand?]
  simp only [nextMove_oddEvents]
  have hend (g : Gathered) : expand? (oddFile name) (utf8 "r")
      ⟨true, false, (oddEvents name).drop 11, none⟩ g = some (g, none) := by
    rw [expand?]
    simp only [nextMove, oddEvents, List.drop_succ_cons, List.drop_zero]
    rw [expand?]
    rfl
  have hbehind (g : Gathered) : expand? (oddFile name) (utf8 "r")
      ⟨false, false, mixedCaseEvents.drop 5, none⟩ g = some (g, none) := by
    rw [expand?]
    simp only [nextMove, mixedCaseEvents, List.drop_succ_cons, List.drop_zero]
    rw [expand?]
    rfl
  simp only [hend, Option.bind_eq_bind, Option.bind_some, hbehind]
  rfl

end Expansion

/-- The resolution of the template that includes the file. -/
def oddResolved (name : Text) : Settings.Resolved Unit :=
  Settings.resolve (oddTemplate name) .bare ⟨none, none⟩ .standard ()

/-- Two of the four attributes of the class directive are listed, the second in its last spelling. -/
theorem resolve_warns_unknown_odd :
    ∃ w : Diagnostic,
      Template.parse? (utf8 "r") (utf8 "<#@ Include file=\"h\" #>") (oddFile (utf8 "h")) =
        some (oddTemplate (utf8 "h")) ∧
      (∃ settings, (oddResolved (utf8 "h")).result = .ok settings) ∧
      (oddResolved (utf8 "h")).unknown (oddTemplate (utf8 "h")) = [w] ∧
      (∃ pairs, (oddDirective (utf8 "h")).WarnsOf (utf8 "r") pairs w) ∧
      w.location = ⟨utf8 "h", 1, 5⟩ ∧
      w.text = utf8 "Unknown attributes a, B found in class directive." := by
  have hname : (utf8 "h").lower ≠ utf8 "r" := by decide +kernel
  have hparse := Expansion.parse?_odd hname
  have hread : (oddResolved (utf8 "h")).result.map (fun _ => ()) = .ok () := by decide +kernel
  obtain ⟨settings, hok, -⟩ := exists_ok_of_map hread
  obtain ⟨-, ⟨written, -, hwarns⟩, -⟩ := resolve_warns_unknown hparse hok
  have hunknown : (oddResolved (utf8 "h")).unknown (oddTemplate (utf8 "h")) =
      [(oddDirective (utf8 "h")).remark (utf8 "r")
        (utf8 "Unknown attributes a, B found in class directive.") true] := by decide +kernel
  rw [oddResolved] at hunknown
  rw [hunknown] at hwarns
  obtain ⟨d, ds, hd, -, hchecked⟩ := List.forall₂_cons_right_iff.1 hwarns
  have hmem : d ∈ [oddDirective (utf8 "h")] :=
    List.mem_of_mem_filter (hchecked ▸ List.mem_cons_self)
  obtain rfl := List.mem_singleton.1 hmem
  exact ⟨_, hparse, ⟨settings, hok⟩, hunknown, ⟨_, hd⟩, hd.place (by decide +kernel),
    by decide +kernel⟩

/-- When the file has no name, the warning does not stand where the directive starts. -/
theorem warning_of_nameless_file :
    ∃ w : Diagnostic,
      Template.parse? (utf8 "r") (utf8 "<#@ Include file=\"h\" #>") (oddFile []) =
        some (oddTemplate []) ∧
      (∃ settings, (oddResolved []).result = .ok settings) ∧
      (oddTemplate []).directives = [oddDirective []] ∧
      (oddResolved []).unknown (oddTemplate []) = [w] ∧
      w.location = ⟨utf8 "r", 0, 0⟩ ∧ w.location ≠ (oddDirective []).span.start := by
  have hunknown : (oddResolved []).unknown (oddTemplate []) =
      [(oddDirective []).remark (utf8 "r")
        (utf8 "Unknown attributes a, B found in class directive.") true] := by decide +kernel
  have hread : (oddResolved []).result.map (fun _ => ()) = .ok () := by decide +kernel
  obtain ⟨settings, hok, -⟩ := exists_ok_of_map hread
  exact ⟨_, Expansion.parse?_odd (by decide +kernel), ⟨settings, hok⟩, rfl, hunknown,
    by decide +kernel, by decide +kernel⟩

end TextTemplate
