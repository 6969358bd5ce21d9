/-
The effect of a directive. A directive that is for no processor sets what it names and adds its
diagnostics; the settings it leaves are a function of those it finds (`Directive.effect`), and what
it adds depends on nothing but the directive (`Directive.notes`). It looks neither at the queue nor
at the processors, and queueing looks at nothing else, so the two do not meet (`step_effect`).

`steps_eq_none_iff` reads a whole resolution this way: the directives for processors are queued as
if they stood alone, and the effects of the others come on top, one after the other.
-/
import TextTemplate.Proofs.Settings.Resolution
import TextTemplate.Proofs.Template.Attributes

namespace TextTemplate

variable {σ : Type}

/-! ## What a directive says -/

namespace Directive

/-- The truth value of an attribute, if it is there and can be read. -/
def flag? (d : Directive) (key : Text) : Option Bool := (d.attributes.get? key).bind readBool?

/-- The value of an attribute, if it is there and not empty. -/
def word? (d : Directive) (key : Text) : Option Text := (d.attributes.get? key).filter (· ≠ [])

/-- The encoding of a name, if it is known, with the name. -/
def knownEncoding? (name : Text) : Option (Text × Encoding) :=
  (findEncoding name).toOption.map (name, ·)

/-- The encoding an output directive asks for, if it is known. -/
def encoding? (d : Directive) : Option (Text × Encoding) :=
  (d.attributes.get? (utf8 "encoding")).bind knownEncoding?

/-- The directive when attributes were taken out. -/
def without (d : Directive) (keys : List Text) : Directive :=
  { d with attributes := keys.foldl Attributes.erase d.attributes }

/-- The attributes a directive of a kind is asked for. -/
def recognised : DirectiveKind → List Text
  | .template =>
    [utf8 "language", utf8 "langversion", utf8 "debug", utf8 "inherits",
      utf8 "relativeLinePragmas", utf8 "linePragmas", utf8 "visibility"]
  | .className | .namespaceName => [utf8 "name"]
  | .importName => [utf8 "namespace"]
  | .output => [utf8 "extension", utf8 "encoding"]
  | .includeFile | .parameter | .custom => []

/-- A diagnostic at the start of a directive. -/
def remark (root : Text) (d : Directive) (text : Text) (isWarning : Bool) : Diagnostic :=
  .atLocation d.span.start root text isWarning

/-- What is said of a template directive for a language. -/
def languageNotes (root : Text) (d : Directive) : Option Text → Diagnostics
  | some language =>
    if isSupportedLanguage language then []
    else [d.remark root (utf8 "Language '" ++ language
      ++ utf8 "' is not supported; only C# templates can be preprocessed") false]
  | none => []

/-- What is said of a truth value that cannot be read. -/
def flagNotes (root : Text) (d : Directive) (key : Text) : Diagnostics :=
  if (d.attributes.get? key).isSome && (d.flag? key).isNone then
    [d.remark root (utf8 "Invalid boolean value for attribute '" ++ key ++ utf8 "' in "
      ++ d.name ++ utf8 " directive") true]
  else []

/-- What is said of a directive that lacks what it must name. -/
def missingNotes (root : Text) (d : Directive) (key missing : Text) : Diagnostics :=
  if (d.word? key).isNone then [d.remark root missing false] else []

/-- What is said of an output directive for an encoding. -/
def encodingNotes (root : Text) (d : Directive) : Option Text → Diagnostics
  | some name =>
    if (knownEncoding? name).isSome then []
    else [d.remark root (utf8 "Unknown output encoding '" ++ name ++ utf8 "'") false]
  | none => []

/-- What is said of attributes that are left when those a directive is asked for are out. -/
def leftoverNotes (root : Text) (d : Directive) (keys : List Text) : Diagnostics :=
  if (d.without keys).attributes.names = [] then []
  else [d.remark root (utf8 "Unknown attributes "
    ++ Text.join (utf8 ", ") (d.without keys).attributes.names ++ utf8 " found in " ++ d.name
    ++ utf8 " directive.") true]

/-- What a directive says is wrong with it, unless it is left for a processor. -/
def notes (root : Text) (d : Directive) : Diagnostics :=
  let kind := DirectiveKind.ofName d.name
  let leftover := d.leftoverNotes root (recognised kind)
  match kind with
  | .template =>
    d.languageNotes root (d.attributes.get? (utf8 "language"))
      ++ d.flagNotes root (utf8 "debug") ++ d.flagNotes root (utf8 "relativeLinePragmas")
      ++ d.flagNotes root (utf8 "linePragmas") ++ leftover
  | .className =>
    d.missingNotes root (utf8 "name") (utf8 "Missing name attribute in class directive") ++ leftover
  | .namespaceName =>
    d.missingNotes root (utf8 "name") (utf8 "Missing name attribute in namespace directive")
      ++ leftover
  | .importName =>
    d.missingNotes root (utf8 "namespace") (utf8 "Missing namespace attribute in import directive")
      ++ if (d.word? (utf8 "namespace")).isSome then leftover else []
  | .output => d.encodingNotes root (d.attributes.get? (utf8 "encoding")) ++ leftover
  | .includeFile | .parameter | .custom => []

/-- The settings a directive leaves, unless it is left for a processor. -/
def effect (d : Directive) (s : Settings σ) : Settings σ :=
  match DirectiveKind.ofName d.name with
  | .template =>
    { s with
      language := (d.attributes.get? (utf8 "language")).getD s.language
      langVersion := (d.attributes.get? (utf8 "langversion")).getD s.langVersion
      debug := (d.flag? (utf8 "debug")).getD false
      inherits := (d.attributes.get? (utf8 "inherits")).getD s.inherits
      relative := (d.flag? (utf8 "relativeLinePragmas")).getD s.relative
      linePragmas := (d.flag? (utf8 "linePragmas")).getD true
      isInternal := ((d.attributes.get? (utf8 "visibility")).map
        (·.eqFold (utf8 "internal"))).getD s.isInternal }
  | .className => { s with name := (d.word? (utf8 "name")).getD s.name }
  | .namespaceName => { s with namespaceName := (d.word? (utf8 "name")).getD s.namespaceName }
  | .importName => { s with imports := s.imports.add (d.word? (utf8 "namespace")).toList }
  | .output =>
    { s with
      extension := (d.attributes.get? (utf8 "extension")).getD s.extension
      encodingName := (d.encoding?.map Prod.fst).getD s.encodingName
      encoding := (d.encoding?.map Prod.snd).getD s.encoding }
  | .includeFile | .parameter | .custom => s

variable {d : Directive} {root key : Text} {keys : List Text}

theorem get?_without (hkey : key.lower ∉ keys.map Text.lower) :
    (d.without keys).attributes.get? key = d.attributes.get? key := by
  unfold without
  generalize d.attributes = as
  dsimp only
  induction keys generalizing as with
  | nil => rfl
  | cons other keys ih =>
    simp only [List.map_cons, List.mem_cons, not_or] at hkey
    rw [List.foldl_cons, ih hkey.2, Attributes.get?_erase_other as hkey.1]

theorem word?_eq (d : Directive) (key : Text) :
    d.word? key = if (d.attributes.get? key).getD [] = [] then none
      else some ((d.attributes.get? key).getD []) := by
  unfold word?
  cases d.attributes.get? key with
  | none => rfl
  | some value => cases value <;> simp [Option.filter]

theorem erase_without (d : Directive) (keys : List Text) (key : Text) :
    { d.without keys with attributes := (d.without keys).attributes.erase key } =
      d.without (keys ++ [key]) := by
  simp [without]

theorem extractBool_eq (d : Directive) (key : Text) (default : Bool) :
    d.extractBool key default =
      (((d.flag? key).getD default,
        if (d.attributes.get? key).isSome && (d.flag? key).isNone then some (d.badBool key)
        else none), d.without [key]) := by
  unfold extractBool flag?
  rw [Attributes.extract?_eq]
  cases hvalue : d.attributes.get? key with
  | none => simp [without, Attributes.erase_of_get?_none hvalue]
  | some value => cases hbool : readBool? value <;> simp [without, hbool]

end Directive

/-! ## The steps of a directive -/

namespace Resolving

open Directive

/-- The resolution with other settings and more diagnostics. -/
def after (r : Resolving σ) (s : Settings σ) (ds : Diagnostics) : Resolving σ :=
  { r with settings := s, diagnostics := r.diagnostics ++ ds }

section

variable {r : Resolving σ} {d : Directive} {s : Settings σ} {ds : Diagnostics} {root key : Text}
  {keys : List Text}

theorem note_after (text : Text) (isWarning : Bool) :
    (r.after s ds).note root (d.without keys) text isWarning =
      r.after s (ds ++ [d.remark root text isWarning]) := by
  simp only [note, after, remark, without, List.append_assoc]

/-- Taking a text out, where `g` says what it does to the settings and `n` what is said of it. -/
theorem takeText_eq {use : Text → Resolving σ → Resolving σ}
    {g : Option Text → Settings σ → Settings σ} {n : Option Text → Diagnostics}
    (hkey : key.lower ∉ keys.map Text.lower) (hg : ∀ s, g none s = s) (hn : n none = [])
    (huse : ∀ value s ds,
      use value (r.after s ds) = r.after (g (some value) s) (ds ++ n (some value))) :
    takeText key use (r.after s ds, d.without keys) =
      (r.after (g (d.attributes.get? key) s) (ds ++ n (d.attributes.get? key)),
        d.without (keys ++ [key])) := by
  unfold takeText
  rw [Attributes.extract?_eq, get?_without hkey, ← erase_without]
  cases hvalue : d.attributes.get? key with
  | some value => simp only [huse]
  | none =>
    have hnone : (d.without keys).attributes.get? key = none := (get?_without hkey).trans hvalue
    simp only [Attributes.erase_of_get?_none hnone, hg, hn, List.append_nil]

/-- Taking a truth value out, where `g` says what it does to the settings. -/
theorem takeBool_eq {default : Resolving σ → Bool} {use : Bool → Resolving σ → Resolving σ}
    {g : Option Bool → Settings σ → Settings σ} (hkey : key.lower ∉ keys.map Text.lower)
    (huse : ∀ b s ds ds',
      use (b.getD (default (r.after s ds))) (r.after s ds') = r.after (g b s) ds') :
    takeBool root key default use (r.after s ds, d.without keys) =
      (r.after (g (d.flag? key) s) (ds ++ d.flagNotes root key), d.without (keys ++ [key])) := by
  have hvalue : (d.without keys).attributes.get? key = d.attributes.get? key := get?_without hkey
  have hflag : (d.without keys).flag? key = d.flag? key := by rw [flag?, flag?, hvalue]
  have hout : (d.without keys).without [key] = d.without (keys ++ [key]) := by simp [without]
  unfold takeBool
  simp only [extractBool_eq, hvalue, hflag, hout, flagNotes]
  split
  · simp only [Option.isSome_some, if_true]
    rw [note_after, huse]
    rfl
  · simp [huse]

theorem complain_eq : complain root (r.after s ds, d.without keys) =
    r.after s (ds ++ d.leftoverNotes root keys) := by
  unfold complain leftoverNotes
  simp only [List.isEmpty_iff]
  split
  · rw [List.append_nil]
  · rw [note_after]
    rfl

theorem named_eq {missing : Text} {use : Text → Resolving σ → Resolving σ}
    {g : Option Text → Settings σ → Settings σ} (hg : g none r.settings = r.settings)
    (huse : ∀ value, use value r = r.after (g (some value) r.settings) []) :
    r.named root d key missing use =
      (r.after (g (d.word? key) r.settings) (d.missingNotes root key missing),
        d.without [key]) := by
  unfold named missingNotes
  rw [Attributes.extract?_eq, word?_eq]
  dsimp only
  cases (d.attributes.get? key).getD [] with
  | nil => simp [hg, note, after, remark, without]
  | cons b value => simp [huse, without]

/-- A template directive before its attributes are looked over. -/
theorem template_eq (hkind : DirectiveKind.ofName d.name = .template) :
    r.template root d =
      (r.after (d.effect r.settings)
        (d.languageNotes root (d.attributes.get? (utf8 "language"))
          ++ d.flagNotes root (utf8 "debug") ++ d.flagNotes root (utf8 "relativeLinePragmas")
          ++ d.flagNotes root (utf8 "linePragmas")),
        d.without (recognised .template)) := by
  have hstart : (r, d) = (r.after r.settings [], d.without []) := by simp [after, without]
  unfold template effect
  rw [hstart, hkind]
  dsimp only
  rw [takeText_eq (g := fun v s => { s with language := v.getD s.language })
      (n := d.languageNotes root) (by decide) (fun _ => rfl) rfl ?language,
    takeText_eq (g := fun v s => { s with langVersion := v.getD s.langVersion })
      (n := fun _ => []) (by decide) (fun _ => rfl) rfl ?langVersion,
    takeBool_eq (g := fun b s => { s with debug := b.getD false }) (by decide) ?debug,
    takeText_eq (g := fun v s => { s with inherits := v.getD s.inherits })
      (n := fun _ => []) (by decide) (fun _ => rfl) rfl ?inherits,
    takeBool_eq (g := fun b s => { s with relative := b.getD s.relative }) (by decide) ?relative,
    takeBool_eq (g := fun b s => { s with linePragmas := b.getD true }) (by decide) ?linePragmas,
    takeText_eq (g := fun v s =>
        { s with isInternal := (v.map (·.eqFold (utf8 "internal"))).getD s.isInternal })
      (n := fun _ => []) (by decide) (fun _ => rfl) rfl ?visibility]
  · simp only [List.nil_append, List.append_nil]
    rfl
  case language =>
    intro language s ds
    simp only [languageNotes]
    split
    · rw [List.append_nil]
      rfl
    · simp [note, after, remark]
  case langVersion | inherits | visibility =>
    intro value s ds
    simp [after]
  case debug | relative | linePragmas =>
    intro b s ds ds'
    cases b <;> rfl

/-- An output directive before its attributes are looked over. -/
theorem output_eq (hkind : DirectiveKind.ofName d.name = .output) :
    r.output root d =
      (r.after (d.effect r.settings)
        (d.encodingNotes root (d.attributes.get? (utf8 "encoding"))),
        d.without (recognised .output)) := by
  have hstart : (r, d) = (r.after r.settings [], d.without []) := by simp [after, without]
  unfold output effect encoding?
  rw [hstart, hkind]
  dsimp only
  rw [takeText_eq (g := fun v s => { s with extension := v.getD s.extension })
      (n := fun _ => []) (by decide) (fun _ => rfl) rfl ?extension,
    takeText_eq (g := fun v s =>
        { s with
          encodingName := ((v.bind knownEncoding?).map Prod.fst).getD s.encodingName
          encoding := ((v.bind knownEncoding?).map Prod.snd).getD s.encoding })
      (n := d.encodingNotes root) (by decide) (fun _ => rfl) rfl ?encoding]
  · simp only [List.nil_append]
    rfl
  case extension =>
    intro value s ds
    simp [after]
  case encoding =>
    intro name s ds
    split
    · next e he => simp [encodingNotes, knownEncoding?, he, Except.toOption, after]
    · next e he => simp [encodingNotes, knownEncoding?, he, Except.toOption, note, after, remark]

/-- A directive that is for no processor. -/
theorem step_effect {options : ResolveOptions} {loading : Loading σ}
    (hfor : d.forProcessor = false) (hinclude : DirectiveKind.ofName d.name ≠ .includeFile) :
    r.step options loading root d = (r.after (d.effect r.settings) (d.notes root), none) := by
  unfold step
  split
  · next hkind => simp only [template_eq hkind, complain_eq, notes, hkind]
  · next hkind =>
    rw [named_eq (g := fun v s => { s with name := v.getD s.name }) rfl fun value => by
      simp [after]]
    simp only [complain_eq, effect, notes, recognised, hkind]
  · next hkind =>
    rw [named_eq (g := fun v s => { s with namespaceName := v.getD s.namespaceName }) rfl
      fun value => by simp [after]]
    simp only [complain_eq, effect, notes, recognised, hkind]
  · next hkind =>
    have hword := word?_eq d (utf8 "namespace")
    cases hvalue : (d.attributes.get? (utf8 "namespace")).getD [] with
    | nil =>
      rw [hvalue, if_pos rfl] at hword
      simp [note, after, remark, effect, notes, missingNotes, hkind, hword, NameSet.add]
    | cons b value =>
      rw [hvalue, if_neg (by simp)] at hword
      have hout : { d with attributes := d.attributes.erase (utf8 "namespace") } =
          d.without [utf8 "namespace"] := rfl
      have hset (s : Settings σ) : { r with settings := s } = r.after s [] := by simp [after]
      simp only [hout, hset, complain_eq]
      simp [effect, notes, missingNotes, recognised, hkind, hword, NameSet.add]
  · next hkind => simp only [output_eq hkind, complain_eq, notes, hkind]
  · next hkind => exact absurd hkind hinclude
  · next hkind => simp [forProcessor, hkind] at hfor
  · next hkind => simp [forProcessor, hkind] at hfor

end

/-! ## Queueing -/

section

variable {r r' : Resolving σ} {d : Directive} {options : ResolveOptions} {loading : Loading σ}
  {root name : Text}

/-- The resolution when the effect of a directive came on top. -/
def applied (r : Resolving σ) (root : Text) (d : Directive) : Resolving σ :=
  r.after (d.effect r.settings) (d.notes root)

theorem effect_processors (d : Directive) (s : Settings σ) :
    (d.effect s).processors = s.processors := by
  unfold effect
  split <;> rfl

theorem effect_custom (d : Directive) (s : Settings σ) : (d.effect s).custom = s.custom := by
  unfold effect
  split <;> rfl

theorem effect_with_processors (d : Directive) (s : Settings σ) (ps : NameMap (Processor σ)) :
    d.effect { s with processors := ps } = { d.effect s with processors := ps } := by
  unfold effect
  split <;> rfl

theorem effect_with_custom (d : Directive) (s : Settings σ) (queue : List CustomDirective) :
    d.effect { s with custom := queue } = { d.effect s with custom := queue } := by
  unfold effect
  split <;> rfl

theorem effect_of_forProcessor (hfor : d.forProcessor = true) (s : Settings σ) :
    d.effect s = s := by
  unfold effect
  unfold forProcessor at hfor
  split at hfor
  · next hkind => rw [hkind]
  · next hkind => rw [hkind]
  · cases hfor

theorem notes_of_forProcessor (hfor : d.forProcessor = true) : d.notes root = [] := by
  unfold notes
  unfold forProcessor at hfor
  split at hfor
  · next hkind => simp only [hkind]
  · next hkind => simp only [hkind]
  · cases hfor

theorem activate_applied (d' : Directive) :
    (r.applied root d).activate options loading name d' =
      ((r.activate options loading name d').1.applied root d,
        (r.activate options loading name d').2) := by
  unfold activate
  have hps : (r.applied root d).settings.processors = r.settings.processors :=
    effect_processors d r.settings
  rw [hps]
  cases r.settings.processors.find? name with
  | some p => rfl
  | none =>
    rcases hcreate : r.registry.create loading name r.world with ⟨_ | p, registry, world⟩
    · simp only [applied, after, hcreate]
    · simp only [applied, after, hcreate, effect_with_processors]

theorem enqueue_applied (d' : Directive) :
    (r.applied root d).enqueue options loading name d' =
      ((r.enqueue options loading name d').1.applied root d,
        (r.enqueue options loading name d').2) := by
  unfold enqueue
  rw [activate_applied]
  rcases r.activate options loading name d' with ⟨r', _ | p⟩
  · rfl
  · dsimp only
    split
    · simp only [applied, after, effect_custom, effect_with_custom]
    · rfl

/-- Queueing and the effect of another directive do not meet. -/
theorem step_applied {d' : Directive} (hfor : d'.forProcessor = true) :
    (r.applied root d).step options loading root d' =
      ((r.step options loading root d').1.applied root d,
        (r.step options loading root d').2) := by
  unfold step
  unfold forProcessor at hfor
  split at hfor
  · next hkind =>
    simp only [hkind]
    exact enqueue_applied d'
  · next hkind =>
    simp only [hkind]
    split
    · rfl
    · exact enqueue_applied _
  · cases hfor

theorem steps_applied {ds : List Directive} (hfor : ∀ d ∈ ds, d.forProcessor = true) :
    (r.applied root d).steps options loading root ds =
      ((r.steps options loading root ds).1.applied root d,
        (r.steps options loading root ds).2) := by
  induction ds generalizing r with
  | nil => rfl
  | cons d' ds ih =>
    obtain ⟨hd', hds⟩ := List.forall_mem_cons.1 hfor
    simp only [steps, step_applied hd']
    rcases r.step options loading root d' with ⟨r', _ | e⟩
    · exact ih hds
    · rfl

/-- **A resolution taken apart.** It succeeds exactly when there is no include directive and the
directives for processors, taken alone, are queued; the effects of the others come on top. -/
theorem steps_eq_none_iff {ds : List Directive} :
    r.steps options loading root ds = (r', none) ↔
      (∀ d ∈ ds, DirectiveKind.ofName d.name ≠ .includeFile) ∧
        ∃ queued, r.steps options loading root (ds.filter forProcessor) = (queued, none) ∧
          r' = queued.after (ds.foldl (fun s d => d.effect s) queued.settings)
            (ds.flatMap (notes root)) := by
  induction ds generalizing r with
  | nil => simp [steps, after, eq_comm]
  | cons d ds ih =>
    simp only [List.forall_mem_cons, List.foldl_cons, List.flatMap_cons]
    by_cases hfor : d.forProcessor = true
    · -- a directive for a processor is queued in both, and has no effect of its own
      have hinclude : DirectiveKind.ofName d.name ≠ .includeFile := by
        intro hkind
        simp [forProcessor, hkind] at hfor
      rw [List.filter_cons_of_pos hfor]
      simp only [effect_of_forProcessor hfor, notes_of_forProcessor hfor, List.nil_append, steps]
      rcases r.step options loading root d with ⟨r₁, _ | e⟩
      · simp only [ih, ne_eq, hinclude, not_false_eq_true, true_and]
      · simp
    · rw [List.filter_cons_of_neg hfor]
      by_cases hinclude : DirectiveKind.ofName d.name = .includeFile
      · simp [steps, step, hinclude]
      · -- its effect comes on top of the queue just as well as in front of it
        have hqueue : ∀ d ∈ ds.filter forProcessor, d.forProcessor = true :=
          fun d hd => (List.mem_filter.1 hd).2
        have hstep : r.step options loading root d = (r.applied root d, none) :=
          step_effect (by simpa using hfor) hinclude
        simp only [steps, hstep, ih, steps_applied hqueue, ne_eq, hinclude, not_false_eq_true,
          true_and]
        refine and_congr_right fun _ => ?_
        rcases r.steps options loading root (ds.filter forProcessor) with ⟨queued, _ | e⟩
        · simp [applied, after]
        · simp

/-- Queueing changes nothing in the settings but the queue and the processors, and adds no
diagnostic. -/
structure OnlyQueues (r r' : Resolving σ) : Prop where
  settings : ∃ ps queue, r'.settings = { r.settings with processors := ps, custom := queue }
  diagnostics : r'.diagnostics = r.diagnostics

theorem OnlyQueues.refl (r : Resolving σ) : OnlyQueues r r := ⟨⟨_, _, rfl⟩, rfl⟩

theorem OnlyQueues.trans {r'' : Resolving σ} (h : OnlyQueues r r') (h' : OnlyQueues r' r'') :
    OnlyQueues r r'' := by
  obtain ⟨ps, queue, hsettings⟩ := h.settings
  obtain ⟨ps', queue', hsettings'⟩ := h'.settings
  exact ⟨⟨ps', queue', by rw [hsettings', hsettings]⟩, h'.diagnostics.trans h.diagnostics⟩

theorem onlyQueues_activate : OnlyQueues r (r.activate options loading name d).1 := by
  unfold activate
  split
  · exact .refl r
  · split
    · exact ⟨⟨_, _, rfl⟩, rfl⟩
    · exact ⟨⟨_, _, rfl⟩, rfl⟩

theorem onlyQueues_enqueue : OnlyQueues r (r.enqueue options loading name d).1 := by
  unfold enqueue
  have hactivate : OnlyQueues r (r.activate options loading name d).1 := onlyQueues_activate
  rcases hr : r.activate options loading name d with ⟨r', _ | p⟩
  · rwa [hr] at hactivate
  · rw [hr] at hactivate
    dsimp only
    split
    · exact hactivate.trans ⟨⟨_, _, rfl⟩, rfl⟩
    · exact hactivate

theorem onlyQueues_steps {ds : List Directive} {e : Option ResolveError}
    (hfor : ∀ d ∈ ds, d.forProcessor = true) (h : r.steps options loading root ds = (r', e)) :
    OnlyQueues r r' := by
  induction ds generalizing r with
  | nil =>
    cases h
    exact .refl _
  | cons d ds ih =>
    obtain ⟨hd, hds⟩ := List.forall_mem_cons.1 hfor
    have hstep : OnlyQueues r (r.step options loading root d).1 := by
      unfold step
      unfold forProcessor at hd
      split at hd
      · next hkind =>
        simp only [hkind]
        exact onlyQueues_enqueue
      · next hkind =>
        simp only [hkind]
        split
        · exact .refl r
        · exact onlyQueues_enqueue
      · cases hd
    rw [steps] at h
    rcases hr : r.step options loading root d with ⟨r₁, _ | e₁⟩
    · rw [hr] at hstep h
      exact hstep.trans (ih hds h)
    · rw [hr] at hstep h
      cases h
      exact hstep

/-- A resolution goes through the directives in front before it goes through those behind. -/
theorem steps_append {ds ds' : List Directive}
    (h : r.steps options loading root (ds ++ ds') = (r', none)) :
    ∃ mid, r.steps options loading root ds = (mid, none) ∧
      mid.steps options loading root ds' = (r', none) := by
  induction ds generalizing r with
  | nil => exact ⟨r, rfl, h⟩
  | cons d ds ih =>
    rw [List.cons_append, steps] at h
    rw [steps]
    rcases hr : r.step options loading root d with ⟨r₁, _ | e⟩
    · rw [hr] at h
      exact ih h
    · rw [hr] at h
      cases h

/-- A resolution at its start. -/
def start (template : Template) (options : ResolveOptions) (encoding : Encoding)
    (registry : Registry σ) (world : σ) : Resolving σ :=
  ⟨.initial options encoding, template.diagnostics, registry, world⟩

end

end Resolving

section

open Directive Resolving

variable {template : Template} {options : ResolveOptions} {loading : Loading σ}
  {registry : Registry σ} {world : σ} {settings : Settings σ}

/-- When something can be read off a result, there is one. -/
theorem exists_ok_of_map {ε α β : Type*} {x : Except ε α} {read : α → β} {b : β}
    (h : x.map read = .ok b) : ∃ a, x = .ok a ∧ read a = b := by
  cases x with
  | error e => cases h
  | ok a => exact ⟨a, rfl, Except.ok.inj h⟩

theorem resolve_of_steps {encoding : Encoding} {r : Resolving σ}
    (hencoding : findEncoding options.defaultEncoding = .ok encoding)
    (hsteps : (start template options encoding registry world).steps options loading template.root
      template.directives = (r, none)) :
    Settings.resolve template options loading registry world =
      ⟨.ok r.settings.named, r.diagnostics, r.registry, r.world⟩ := by
  rw [start] at hsteps
  simp only [Settings.resolve, hencoding, hsteps]

/-- A resolution succeeds when the encoding is known and all directives are taken up; it gives what
they leave, with names for what was not named. -/
theorem resolve_ok_iff :
    (Settings.resolve template options loading registry world).result = .ok settings ↔
      ∃ encoding r, findEncoding options.defaultEncoding = .ok encoding ∧
        (start template options encoding registry world).steps options loading template.root
          template.directives = (r, none) ∧
        r.settings.named = settings := by
  constructor
  · intro h
    cases hencoding : findEncoding options.defaultEncoding with
    | error e => simp [Settings.resolve, hencoding] at h
    | ok encoding =>
      rcases hsteps : (start template options encoding registry world).steps options loading
        template.root template.directives with ⟨r, _ | e⟩
      · rw [resolve_of_steps hencoding hsteps] at h
        exact ⟨encoding, r, rfl, hsteps, Except.ok.inj h⟩
      · rw [start] at hsteps
        simp [Settings.resolve, hencoding, hsteps] at h
  · rintro ⟨encoding, r, hencoding, hsteps, rfl⟩
    rw [resolve_of_steps hencoding hsteps]

/-- The settings and the diagnostics of a resolution that succeeds: the effects of all directives on
top of a queue. -/
theorem resolve_effects
    (h : (Settings.resolve template options loading registry world).result = .ok settings) :
    ∃ (encoding : Encoding) (ps : NameMap (Processor σ)) (queue : List CustomDirective),
      settings = (template.directives.foldl (fun s (d : Directive) => d.effect s)
        { (Settings.initial options encoding : Settings σ) with
          processors := ps, custom := queue }).named ∧
      (Settings.resolve template options loading registry world).diagnostics =
        template.diagnostics ++ template.directives.flatMap (notes template.root) := by
  obtain ⟨encoding, r, hencoding, hsteps, rfl⟩ := resolve_ok_iff.1 h
  have heq := resolve_of_steps hencoding hsteps
  obtain ⟨-, queued, hqueued, rfl⟩ := steps_eq_none_iff.1 hsteps
  have honly : OnlyQueues (start template options encoding registry world) queued :=
    onlyQueues_steps (fun d hd => (List.mem_filter.1 hd).2) hqueued
  obtain ⟨ps, queue, hsettings⟩ := honly.settings
  refine ⟨encoding, ps, queue, ?_, ?_⟩
  · rw [after, hsettings]
    rfl
  · rw [heq, after, honly.diagnostics]
    rfl

end

end TextTemplate
