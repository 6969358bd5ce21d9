/-
Directives of different kinds may stand in any order. Each kind sets settings of its own, and what is
said of a directive depends on it alone, so the effects of directives of different kinds commute
(`Directive.effect_comm`); only the order within a kind counts, where directives for processors are
one kind.

`KeepsOrder` is that of two lists that differ in nothing else, `KeepsOrder.foldl_eq` and
`KeepsOrder.perm` are what it gives for lists of anything, and `resolve_shuffles` is the resolution
of the settings of two such templates.
-/
import TextTemplate.Proofs.Settings.Effect
import TextTemplate.Proofs.Settings.Wiring

namespace TextTemplate

variable {σ : Type}

/-! ## Lists that agree kind by kind -/

section

variable {α β κ : Type*} [DecidableEq κ] {kind : α → κ} {as as' : List α}

/-- Whether two lists hold the same of each kind, in the same order. -/
def KeepsOrder (kind : α → κ) (as as' : List α) : Prop :=
  ∀ k, as.filter (kind · = k) = as'.filter (kind · = k)

namespace KeepsOrder

theorem symm (h : KeepsOrder kind as as') : KeepsOrder kind as' as := fun k => (h k).symm

theorem mem_iff (h : KeepsOrder kind as as') {a : α} : a ∈ as ↔ a ∈ as' := by
  have hkind (as : List α) : a ∈ as ↔ a ∈ as.filter (kind · = kind a) := by simp
  rw [hkind as, h, ← hkind as']

/-- The first of one list stands in the other behind elements of other kinds only, and without it
the lists still agree. -/
theorem cons {a : α} (h : KeepsOrder kind (a :: as) as') :
    ∃ before after, as' = before ++ a :: after ∧ (∀ b ∈ before, kind b ≠ kind a) ∧
      KeepsOrder kind as (before ++ after) := by
  have hown := h (kind a)
  rw [List.filter_cons_of_pos (by simp)] at hown
  obtain ⟨before, after, rfl, hbefore, -, hafter⟩ := List.filter_eq_cons_iff.1 hown.symm
  have hother : ∀ b ∈ before, kind b ≠ kind a := fun b hb => by simpa using hbefore b hb
  refine ⟨before, after, rfl, hother, fun k => ?_⟩
  by_cases hk : kind a = k
  · subst hk
    have hnone : before.filter (kind · = kind a) = [] :=
      List.filter_eq_nil_iff.2 fun b hb => by simpa using hother b hb
    rw [List.filter_append, hnone, List.nil_append, hafter]
  · have hrest := h k
    rwa [List.filter_cons_of_neg (by simpa using hk), List.filter_append,
      List.filter_cons_of_neg (by simpa using hk), ← List.filter_append] at hrest

/-- They are permutations of one another. -/
theorem perm [DecidableEq α] (h : KeepsOrder kind as as') : as.Perm as' := by
  rw [List.perm_iff_count]
  intro a
  have hkind (as : List α) : as.count a = (as.filter (kind · = kind a)).count a :=
    (List.count_filter (by simp)).symm
  rw [hkind as, h, ← hkind as']

/-- An update that commutes with those of a list may be made in front of them. -/
theorem foldl_comm {act : β → α → β} {a : α} {before : List α}
    (hcomm : ∀ b ∈ before, ∀ s, act (act s b) a = act (act s a) b) (s : β) :
    act (before.foldl act s) a = before.foldl act (act s a) := by
  induction before generalizing s with
  | nil => rfl
  | cons b before ih =>
    obtain ⟨hb, hbefore⟩ := List.forall_mem_cons.1 hcomm
    rw [List.foldl_cons, List.foldl_cons, ih hbefore, hb]

/-- **Updates of different kinds that commute** come to the same in both orders. -/
theorem foldl_eq {act : β → α → β}
    (hcomm : ∀ a b, kind a ≠ kind b → ∀ s, act (act s a) b = act (act s b) a)
    (h : KeepsOrder kind as as') (s : β) : as.foldl act s = as'.foldl act s := by
  induction as generalizing as' s with
  | nil =>
    have hnil : as' = [] := List.eq_nil_iff_forall_not_mem.2 fun a ha => by
      simpa using h.mem_iff.2 ha
    rw [hnil]
  | cons a as ih =>
    obtain ⟨before, after, rfl, hbefore, hrest⟩ := h.cons
    have hfront := foldl_comm (fun b hb s => hcomm b a (hbefore b hb) s) s
    rw [List.foldl_cons, ih hrest, List.foldl_append, List.foldl_append, List.foldl_cons, hfront]

end KeepsOrder

end

/-! ## Kinds of directives -/

namespace Directive

open Resolving

/-- The kind of a directive, where parameter directives and others for processors are one. -/
def group (d : Directive) : DirectiveKind :=
  match DirectiveKind.ofName d.name with
  | .parameter => .custom
  | kind => kind

theorem forProcessor_iff (d : Directive) : d.forProcessor = true ↔ d.group = .custom := by
  unfold forProcessor group
  cases DirectiveKind.ofName d.name <;> simp

/-- Directives of different kinds set different settings. -/
theorem effect_comm {d d' : Directive} (h : d.group ≠ d'.group) (s : Settings σ) :
    d'.effect (d.effect s) = d.effect (d'.effect s) := by
  unfold group at h
  unfold effect
  -- two of one kind are ruled out, and any others write different fields
  cases hkind : DirectiveKind.ofName d.name <;> cases hkind' : DirectiveKind.ofName d'.name <;>
    first
    | rfl
    | simp [hkind, hkind'] at h

end Directive

/-! ## The resolution of two templates -/

open Directive Resolving

variable {t t' : Template} {options : ResolveOptions} {loading : Loading σ} {registry : Registry σ}
  {world : σ} {settings : Settings σ}

/-- What one template is resolved to, the other is too. -/
theorem resolve_of_keepsOrder (hroot : t.root = t'.root)
    (hdiagnostics : t.diagnostics = t'.diagnostics)
    (horder : KeepsOrder Directive.group t.directives t'.directives)
    (h : (Settings.resolve t options loading registry world).result = .ok settings) :
    (Settings.resolve t' options loading registry world).result = .ok settings ∧
      (Settings.resolve t options loading registry world).diagnostics.Perm
        (Settings.resolve t' options loading registry world).diagnostics ∧
      (Settings.resolve t options loading registry world).registry =
        (Settings.resolve t' options loading registry world).registry ∧
      (Settings.resolve t options loading registry world).world =
        (Settings.resolve t' options loading registry world).world := by
  obtain ⟨encoding, r, hencoding, hsteps, rfl⟩ := resolve_ok_iff.1 h
  obtain ⟨hinclude, queued, hqueued, rfl⟩ := steps_eq_none_iff.1 hsteps
  have hstart : start t options encoding registry world =
      start t' options encoding registry world := by rw [start, start, hdiagnostics]
  have hqueue : t.directives.filter forProcessor = t'.directives.filter forProcessor := by
    have hfilter (ds : List Directive) :
        ds.filter forProcessor = ds.filter (group · = .custom) := by
      refine List.filter_congr fun d _ => ?_
      rw [Bool.eq_iff_iff, forProcessor_iff, decide_eq_true_iff]
    rw [hfilter, hfilter, horder]
  have heffects : t.directives.foldl (fun s (d : Directive) => d.effect s) queued.settings =
      t'.directives.foldl (fun s d => d.effect s) queued.settings :=
    horder.foldl_eq (fun d d' hgroup s => effect_comm hgroup s) queued.settings
  have hinclude' : ∀ d ∈ t'.directives, DirectiveKind.ofName d.name ≠ .includeFile :=
    fun d hd => hinclude d (horder.mem_iff.2 hd)
  have hsteps' := steps_eq_none_iff.2 ⟨hinclude', queued, hroot ▸ hqueue ▸ hstart ▸ hqueued, rfl⟩
  rw [resolve_of_steps hencoding hsteps, resolve_of_steps hencoding hsteps', ← hroot, heffects]
  exact ⟨rfl, (horder.perm.flatMap_right _).append_left _, rfl, rfl⟩

/-- **Only the order within each kind counts.** Take two templates whose directives agree kind by
kind, where those for processors are one kind. A resolution of one succeeds exactly when that of the
other does, it gives the same settings, with the same imports, processors and queue, and the same
diagnostics up to their order. Whatever the factories of processors do when they are called, they are
called in the same order, so the registry and the world end alike as well. -/
theorem resolve_shuffles (hroot : t.root = t'.root) (hdiagnostics : t.diagnostics = t'.diagnostics)
    (horder : KeepsOrder Directive.group t.directives t'.directives) :
    (∀ settings, (Settings.resolve t options loading registry world).result = .ok settings ↔
      (Settings.resolve t' options loading registry world).result = .ok settings) ∧
    ∀ settings, (Settings.resolve t options loading registry world).result = .ok settings →
      (Settings.resolve t options loading registry world).diagnostics.Perm
        (Settings.resolve t' options loading registry world).diagnostics ∧
      (Settings.resolve t options loading registry world).registry =
        (Settings.resolve t' options loading registry world).registry ∧
      (Settings.resolve t options loading registry world).world =
        (Settings.resolve t' options loading registry world).world := by
  refine ⟨fun settings => ⟨fun h => ?_, fun h => ?_⟩, fun settings h => ?_⟩
  · exact (resolve_of_keepsOrder hroot hdiagnostics horder h).1
  · exact (resolve_of_keepsOrder hroot.symm hdiagnostics.symm horder.symm h).1
  · exact (resolve_of_keepsOrder hroot hdiagnostics horder h).2

/-- Directives of all kinds. The class directive names nothing, the language is not supported, and
the output directive has an attribute that nothing asks for. -/
def mixedDirectives : List Directive :=
  let line (n : Int64) : Span := .point ⟨utf8 "t.tt", n, 1⟩
  [⟨utf8 "class", .ofList [], line 1⟩,
    ⟨utf8 "import", .ofList [(utf8 "namespace", utf8 "B")], line 2⟩,
    ⟨utf8 "widget", .ofList [(utf8 "processor", utf8 "P")], line 3⟩,
    ⟨utf8 "template", .ofList [(utf8 "language", utf8 "VB")], line 4⟩,
    ⟨utf8 "import", .ofList [(utf8 "namespace", utf8 "A")], line 5⟩,
    ⟨utf8 "output", .ofList [(utf8 "x", utf8 "1")], line 6⟩,
    ⟨utf8 "parameter", .ofList [(utf8 "name", utf8 "n")], line 7⟩]

/-- The template of these directives in a given order. -/
def mixedTemplate (order : List Nat) : Template :=
  .ofSegments (utf8 "t.tt") [] ((order.filterMap (mixedDirectives[·]?)).map .directive)

/-- Its resolution. -/
def mixedResolved (order : List Nat) : Settings.Resolved Unit :=
  Settings.resolve (mixedTemplate order) .bare ⟨none, none⟩ widgetRegistry ()

/-- In another order the settings are the same, with the imports and the processors as their
directives stand, and so are the three diagnostics, in another order. -/
theorem resolve_shuffles_mixed :
    KeepsOrder Directive.group (mixedTemplate [0, 1, 2, 3, 4, 5, 6]).directives
        (mixedTemplate [5, 1, 3, 2, 4, 6, 0]).directives ∧
      ∃ settings : Settings Unit,
        (mixedResolved [0, 1, 2, 3, 4, 5, 6]).result = .ok settings ∧
        (mixedResolved [5, 1, 3, 2, 4, 6, 0]).result = .ok settings ∧
        settings.imports.values = [utf8 "System", utf8 "B", utf8 "A"] ∧
        settings.processors.names = [utf8 "P", ParameterProcessor.name] ∧
        (mixedResolved [0, 1, 2, 3, 4, 5, 6]).diagnostics.Perm
          (mixedResolved [5, 1, 3, 2, 4, 6, 0]).diagnostics ∧
        (mixedResolved [0, 1, 2, 3, 4, 5, 6]).diagnostics ≠
          (mixedResolved [5, 1, 3, 2, 4, 6, 0]).diagnostics := by
  have horder : KeepsOrder Directive.group (mixedTemplate [0, 1, 2, 3, 4, 5, 6]).directives
      (mixedTemplate [5, 1, 3, 2, 4, 6, 0]).directives := by
    intro k
    cases k <;> decide +kernel
  have hok : (mixedResolved [0, 1, 2, 3, 4, 5, 6]).result.map
      (fun s => (s.imports.values, s.processors.names)) =
        .ok ([utf8 "System", utf8 "B", utf8 "A"], [utf8 "P", ParameterProcessor.name]) := by
    decide +kernel
  obtain ⟨hiff, hrest⟩ := @resolve_shuffles Unit (mixedTemplate [0, 1, 2, 3, 4, 5, 6])
    (mixedTemplate [5, 1, 3, 2, 4, 6, 0]) .bare ⟨none, none⟩ widgetRegistry () rfl rfl horder
  obtain ⟨settings, hresult, hread⟩ := exists_ok_of_map hok
  obtain ⟨himports, hprocessors⟩ := Prod.mk.inj hread
  exact ⟨horder, settings, hresult, (hiff settings).1 hresult, himports, hprocessors,
    (hrest settings hresult).1, by decide +kernel⟩

end TextTemplate
