/-
Which template directive decides a setting. A template directive sets what it mentions. Of what it
does not mention it keeps the language, its version, the base class, the visibility and whether
`#line` paths are relative; debugging goes back to off and `#line` directives to on.

So five of the seven settings are decided by the last template directive that mentions them with a
value that can be read (`foldl_last`), and the other two by the last template directive of all.
`resolve_decides` says so of a whole resolution, and of each directive on the way.
-/
import TextTemplate.Proofs.Settings.Effect

namespace TextTemplate

variable {σ : Type}

/-- After a run of updates that each set a value or leave it, the value is the one set last. -/
theorem foldl_last {α β γ : Type*} {act : β → α → β} {sets : α → Option γ} (value : β → γ)
    (h : ∀ b a, value (act b a) = (sets a).getD (value b)) (as : List α) (b : β) :
    value (as.foldl act b) = (as.filterMap sets).getLast?.getD (value b) := by
  induction as generalizing b with
  | nil => rfl
  | cons a as ih =>
    rw [List.foldl_cons, ih, h]
    cases ha : sets a with
    | none => rw [List.filterMap_cons_none ha, Option.getD_none]
    | some v =>
      rw [List.filterMap_cons_some ha, List.getLast?_cons, Option.getD_some, Option.getD_some]

/-- The settings template directives are about. -/
structure Choices where
  language : Text
  langVersion : Text
  debug : Bool
  inherits : Text
  relative : Bool
  linePragmas : Bool
  isInternal : Bool

def Settings.choices (s : Settings σ) : Choices :=
  ⟨s.language, s.langVersion, s.debug, s.inherits, s.relative, s.linePragmas, s.isInternal⟩

namespace Directive

def isTemplate (d : Directive) : Bool := DirectiveKind.ofName d.name = .template

/-- The visibility a directive asks for. -/
def internal? (d : Directive) : Option Bool :=
  (d.attributes.get? (utf8 "visibility")).map (·.eqFold (utf8 "internal"))

/-- What becomes of the settings a template directive does not mention: five stay, two go back to
where they started. -/
structure LeavesUnmentioned (d : Directive) (s s' : Settings σ) : Prop where
  language : d.attributes.get? (utf8 "language") = none → s'.language = s.language
  langVersion : d.attributes.get? (utf8 "langversion") = none → s'.langVersion = s.langVersion
  debug : d.attributes.get? (utf8 "debug") = none → s'.debug = false
  inherits : d.attributes.get? (utf8 "inherits") = none → s'.inherits = s.inherits
  relative : d.attributes.get? (utf8 "relativeLinePragmas") = none → s'.relative = s.relative
  linePragmas : d.attributes.get? (utf8 "linePragmas") = none → s'.linePragmas = true
  isInternal : d.attributes.get? (utf8 "visibility") = none → s'.isInternal = s.isInternal
  /-- Nothing else is changed, whatever the directive mentions. -/
  others : s = { s' with
    language := s.language, langVersion := s.langVersion, debug := s.debug
    inherits := s.inherits, relative := s.relative, linePragmas := s.linePragmas
    isInternal := s.isInternal }

end Directive

/-- What the template directives `ts` make of the settings they are about: the last of them that
gives a value decides, but for `debug` and `linePragmas`, where it is the last of all. -/
structure Settings.DecidedBy (ts : List Directive) (options : ResolveOptions) (s : Settings σ) :
    Prop where
  language : s.language =
    (ts.filterMap (·.attributes.get? (utf8 "language"))).getLast?.getD (utf8 "C#")
  langVersion : s.langVersion =
    (ts.filterMap (·.attributes.get? (utf8 "langversion"))).getLast?.getD []
  debug : s.debug = (ts.getLast?.bind (·.flag? (utf8 "debug"))).getD false
  inherits : s.inherits =
    (ts.filterMap (·.attributes.get? (utf8 "inherits"))).getLast?.getD []
  relative : s.relative = (ts.filterMap (·.flag? (utf8 "relativeLinePragmas"))).getLast?.getD
    (hostFlag options.host useRelativeLinePragmas)
  linePragmas : s.linePragmas = (ts.getLast?.bind (·.flag? (utf8 "linePragmas"))).getD true
  isInternal : s.isInternal = (ts.filterMap Directive.internal?).getLast?.getD false

section

open Directive Resolving

variable {ds : List Directive} {s : Settings σ} {d : Directive}

theorem effect_leavesUnmentioned (hkind : DirectiveKind.ofName d.name = .template)
    (s : Settings σ) : d.LeavesUnmentioned s (d.effect s) := by
  unfold effect
  rw [hkind]
  refine ⟨?_, ?_, ?_, ?_, ?_, ?_, ?_, rfl⟩ <;> intro hnone <;> simp [flag?, hnone]

/-- No other directive changes what template directives are about. -/
theorem choices_effect (hkind : DirectiveKind.ofName d.name ≠ .template) (s : Settings σ) :
    (d.effect s).choices = s.choices := by
  unfold effect
  split
  · next h => exact absurd h hkind
  all_goals rfl

/-- What directives leave of a value that each template directive sets or keeps. -/
theorem foldl_effect_last {γ : Type*} (value : Choices → γ) (sets : Directive → Option γ)
    (h : ∀ (d : Directive) (s : Settings σ), DirectiveKind.ofName d.name = .template →
      value (d.effect s).choices = (sets d).getD (value s.choices)) :
    value (ds.foldl (fun s d => d.effect s) s).choices =
      ((ds.filter isTemplate).filterMap sets).getLast?.getD (value s.choices) := by
  rw [List.filterMap_filter]
  refine foldl_last (fun s : Settings σ => value s.choices) (fun s d => ?_) ds s
  by_cases hkind : DirectiveKind.ofName d.name = .template
  · simp [isTemplate, hkind, h d s hkind]
  · simp [isTemplate, hkind, choices_effect hkind s]

/-- A value that every update sets anew is what the last of them makes of it. -/
theorem getLast?_reset {α γ : Type*} (as : List α) (read : α → Option γ) (default : γ) :
    (as.filterMap fun a => some ((read a).getD default)).getLast?.getD default =
      (as.getLast?.bind read).getD default := by
  rw [List.filterMap_eq_map', List.getLast?_map]
  cases as.getLast? <;> rfl

/-- The choices of a resolution before any directive. -/
def initialChoices (options : ResolveOptions) : Choices :=
  ⟨utf8 "C#", [], false, [], hostFlag options.host useRelativeLinePragmas, true, false⟩

theorem decidedBy_foldl_effect {options : ResolveOptions} (hs : s.choices = initialChoices options) :
    Settings.DecidedBy (ds.filter isTemplate) options (ds.foldl (fun s d => d.effect s) s) := by
  have hlast {γ : Type} (value : Choices → γ) (sets : Directive → Option γ)
      (h : ∀ (d : Directive) (s : Settings σ), DirectiveKind.ofName d.name = .template →
        value (d.effect s).choices = (sets d).getD (value s.choices)) :
      value (ds.foldl (fun s d => d.effect s) s).choices =
        ((ds.filter isTemplate).filterMap sets).getLast?.getD (value (initialChoices options)) :=
    hs ▸ foldl_effect_last value sets h
  refine ⟨?language, ?langVersion, ?debug, ?inherits, ?relative, ?linePragmas, ?isInternal⟩
  case language =>
    exact hlast Choices.language _ fun d s h => by simp only [effect, h]; rfl
  case langVersion =>
    exact hlast Choices.langVersion _ fun d s h => by simp only [effect, h]; rfl
  case inherits =>
    exact hlast Choices.inherits _ fun d s h => by simp only [effect, h]; rfl
  case relative =>
    exact hlast Choices.relative _ fun d s h => by simp only [effect, h]; rfl
  case isInternal =>
    exact hlast Choices.isInternal _ fun d s h => by simp only [effect, h]; rfl
  case debug =>
    rw [← getLast?_reset]
    exact hlast Choices.debug _ fun d s h => by simp only [effect, h]; rfl
  case linePragmas =>
    rw [← getLast?_reset]
    exact hlast Choices.linePragmas _ fun d s h => by simp only [effect, h]; rfl

/-- Naming what was not named decides nothing. -/
theorem Settings.DecidedBy.named {ts : List Directive} {options : ResolveOptions}
    (h : s.DecidedBy ts options) : s.named.DecidedBy ts options :=
  ⟨h.language, h.langVersion, h.debug, h.inherits, h.relative, h.linePragmas, h.isInternal⟩

/-- **Who decides the settings of a template.** When a resolution succeeds, each template directive
on the way sets what it mentions; what it does not mention keeps the value that the directives
before it left, but for `debug` and `linePragmas`, which it sets to off and on. In the end each
setting has the value of the last template directive that gives it one that can be read, and
`debug` and `linePragmas` are as the last template directive has them, off and on when it does not
say. -/
theorem resolve_decides {template : Template} {options : ResolveOptions} {loading : Loading σ}
    {registry : Registry σ} {world : σ} {settings : Settings σ}
    (h : (Settings.resolve template options loading registry world).result = .ok settings) :
    settings.DecidedBy (template.directives.filter isTemplate) options ∧
      ∃ encoding, findEncoding options.defaultEncoding = .ok encoding ∧
        ∀ before d after, template.directives = before ++ d :: after → d.isTemplate = true →
          ∃ r r', (start template options encoding registry world).steps options loading
              template.root before = (r, none) ∧
            r.step options loading template.root d = (r', none) ∧
            d.LeavesUnmentioned r.settings r'.settings := by
  obtain ⟨encoding, r, hencoding, hsteps, -⟩ := resolve_ok_iff.1 h
  refine ⟨?_, encoding, hencoding, fun before d after hds htemplate => ?_⟩
  · obtain ⟨_, ps, queue, rfl, -⟩ := resolve_effects h
    exact (decidedBy_foldl_effect rfl).named
  · rw [hds] at hsteps
    obtain ⟨mid, hbefore, hrest⟩ := steps_append hsteps
    have hkind : DirectiveKind.ofName d.name = .template := by simpa [isTemplate] using htemplate
    have hstep : mid.step options loading template.root d = (mid.applied template.root d, none) :=
      step_effect (by simp [forProcessor, hkind]) (by simp [hkind])
    exact ⟨mid, _, hbefore, hstep, effect_leavesUnmentioned hkind mid.settings⟩

end

/-- A template directive that switches debugging on and `#line` directives off, and one behind it
that says neither. -/
def resetTemplate : Template :=
  let line (n : Int64) : Span := .point ⟨utf8 "t.tt", n, 1⟩
  .ofSegments (utf8 "t.tt") [] [
    .directive ⟨utf8 "template", .ofList [(utf8 "langversion", utf8 "9"),
      (utf8 "debug", utf8 "true"), (utf8 "linePragmas", utf8 "false"),
      (utf8 "relativeLinePragmas", utf8 "true")], line 1⟩,
    .directive ⟨utf8 "Template", .ofList [(utf8 "language", utf8 "C#")], line 2⟩]

/-- The second directive keeps the version and the relative paths, and takes the switches back. -/
theorem resolve_decides_reset :
    ∃ settings : Settings Unit,
      (Settings.resolve resetTemplate .bare ⟨none, none⟩ .standard ()).result = .ok settings ∧
      settings.DecidedBy (resetTemplate.directives.filter Directive.isTemplate) .bare ∧
      settings.langVersion = utf8 "9" ∧ settings.relative = true ∧ settings.debug = false ∧
      settings.linePragmas = true := by
  have hok : (Settings.resolve resetTemplate .bare ⟨none, none⟩ (.standard : Registry Unit)
      ()).result.map (fun _ => ()) = .ok () := by decide +kernel
  obtain ⟨settings, hresult, -⟩ := exists_ok_of_map hok
  have hdecided := (resolve_decides hresult).1
  refine ⟨settings, hresult, hdecided, ?_, ?_, ?_, ?_⟩
  · rw [hdecided.langVersion]
    decide +kernel
  · rw [hdecided.relative]
    decide +kernel
  · rw [hdecided.debug]
    decide +kernel
  · rw [hdecided.linePragmas]
    decide +kernel

end TextTemplate
