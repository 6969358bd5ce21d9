/-
Include recursion ends. A loader that answers with finitely many names, in any letter case, never
leads a parse astray, whatever the files hold and whichever of them include each other or
themselves: a file that is being read is not opened again, so the open files have different names.

The invariant is `Machine.Distinct`: what the parse remembers of the files being read is the stack
of the machine, and the names on it differ. Every step keeps it, those of a fault too, which takes
one file after the other off the stack.
-/
import TextTemplate.Proofs.Include.Machine

namespace TextTemplate

/-- The text and the name of the file an include directive leads to, if it leads to one. -/
def Directive.resolve? (load : Option Loader) (d : Directive) : Option (Text × Text) := do
  let raw ← d.attributes.get? (utf8 "file")
  let l ← load
  l (Text.replace [0x5C] [0x2F] raw) d.span.start.file

/-- A complaint about a file that includes itself, directly or through others. -/
def Diagnostic.IsRecursion (x : Diagnostic) : Prop :=
  (utf8 "Recursive include of '").isPrefixOf x.text = true

/-- What a decision reports: the complaints among `added`, and whether one is about recursion. -/
def Reports (g g' : Gathered) (recursion : Prop) : Prop :=
  ∃ added, g'.diagnostics = g.diagnostics ++ added ∧
    ((∃ x ∈ added, x.IsRecursion) ↔ recursion)

theorem Reports.nothing {g g' : Gathered} {recursion : Prop} (h : g'.diagnostics = g.diagnostics)
    (hr : ¬recursion) : Reports g g' recursion :=
  ⟨[], by simp [h], by simp [hr]⟩

theorem Reports.error {g g' : Gathered} {root text : Text} {l : Location} {recursion : Prop}
    (h : g'.diagnostics = g.diagnostics)
    (hr : (utf8 "Recursive include of '").isPrefixOf text = true ↔ recursion) :
    Reports g (g'.error root text l) recursion := by
  refine ⟨[.atLocation l root text false], by simp [Gathered.error, h], ?_⟩
  simp only [List.mem_singleton, exists_eq_left, Diagnostic.IsRecursion, Diagnostic.text_atLocation]
  exact hr

theorem Reports.other {g g' : Gathered} {root text : Text} {l : Location} {recursion : Prop}
    (h : g'.diagnostics = g.diagnostics)
    (ht : (utf8 "Recursive include of '").isPrefixOf text = false) (hr : ¬recursion) :
    Reports g (g'.error root text l) recursion :=
  Reports.error h (by simp [ht, hr])

theorem Reports.trans {g g' g'' : Gathered} {recursion : Prop} (h : Reports g g' False)
    (h' : Reports g' g'' recursion) : Reports g g'' recursion := by
  obtain ⟨first, h₁, r₁⟩ := h
  obtain ⟨second, h₂, r₂⟩ := h'
  refine ⟨first ++ second, by simp [h₁, h₂], ?_⟩
  rw [← r₂]
  constructor
  · rintro ⟨x, hx, hr⟩
    rcases List.mem_append.1 hx with hx | hx
    · exact (r₁.1 ⟨x, hx, hr⟩).elim
    · exact ⟨x, hx, hr⟩
  · rintro ⟨x, hx, hr⟩
    exact ⟨x, List.mem_append_right _ hx, hr⟩

theorem reports_complainOnce (g : Gathered) (root : Text) (d : Directive) :
    Reports g (g.complainOnce root d) False := by
  unfold Gathered.complainOnce
  split
  · rename_i complaint hc
    have ht : ∃ value, complaint = utf8 "Include once attribute has unknown value '" ++ value := by
      unfold Directive.once at hc
      split at hc
      · cases hc
      · split at hc
        · cases hc
        · cases hc
          exact ⟨_, List.append_assoc _ _ _⟩
    obtain ⟨value, rfl⟩ := ht
    exact Reports.other rfl rfl id
  · exact Reports.nothing rfl id

@[simp] theorem diagnostics_visit (g : Gathered) (key : Text) :
    (g.visit key).diagnostics = g.diagnostics := by
  unfold Gathered.visit
  split <;> rfl

@[simp] theorem visited_complainOnce (g : Gathered) (root : Text) (d : Directive) :
    (g.complainOnce root d).visited = g.visited := by
  unfold Gathered.complainOnce
  split <;> rfl

/-- Whether a file was included before and is asked for at most once. -/
def PassedOver (d : Directive) (g : Gathered) (resolved : Text) : Prop :=
  d.once.1 = true ∧ resolved.lower ∈ g.visited

theorem reports_includeFound (root : Text) (d : Directive) (raw content resolved : Text)
    (g : Gathered) :
    Reports g (includeFound root d raw content resolved g).gathered
      (resolved.lower ∈ g.active ∧ ¬PassedOver d g resolved) := by
  unfold includeFound
  by_cases hp : PassedOver d g resolved
  · have hc : (g.visited.contains resolved.lower && d.once.1) = true := by
      simpa [PassedOver, and_comm] using hp
    rw [if_pos hc]
    exact Reports.nothing rfl fun h => h.2 hp
  · have hc : ¬(g.visited.contains resolved.lower && d.once.1) = true := by
      simpa [PassedOver, and_comm] using hp
    rw [if_neg hc]
    by_cases ha : resolved.lower ∈ g.active
    · rw [if_pos (by simpa using ha)]
      refine Reports.error (diagnostics_visit g _) ?_
      rw [List.append_assoc]
      exact ⟨fun _ => ⟨ha, hp⟩, fun _ => rfl⟩
    · rw [if_neg (by simpa using ha)]
      exact Reports.nothing (diagnostics_visit g _) fun h => ha h.1

/-- **When recursion is reported**: exactly when an include directive leads to a file that is being
read and that it does not pass over. -/
theorem reports_includeStep (load : Option Loader) (root : Text) (d : Directive) (g : Gathered) :
    Reports g (includeStep load root d g).gathered
      (∃ content resolved, d.resolve? load = some (content, resolved) ∧
        resolved.lower ∈ g.active ∧ ¬PassedOver d g resolved) := by
  have hc := reports_complainOnce g root d
  unfold includeStep
  split
  · rename_i hf
    refine Reports.other rfl rfl ?_
    rintro ⟨content, resolved, hr, -⟩
    simp [Directive.resolve?, hf] at hr
  · rename_i raw hf
    unfold includeNamed
    simp only
    split
    · refine hc.trans (Reports.other rfl rfl ?_)
      rintro ⟨content, resolved, hr, -⟩
      simp [Directive.resolve?, hf] at hr
    · rename_i l
      split
      · rename_i hl
        refine hc.trans (Reports.other rfl rfl ?_)
        rintro ⟨content, resolved, hr, -⟩
        simp [Directive.resolve?, hf, hl] at hr
      · rename_i content resolved hl
        have hr : d.resolve? (some l) = some (content, resolved) := by
          simp [Directive.resolve?, hf, hl]
        obtain ⟨added, ha, hi⟩ := reports_includeFound root d raw content resolved
          ((g.complainOnce root d).request (Text.replace [0x5C] [0x2F] raw) d.span.start.file)
        refine hc.trans ⟨added, ha, hi.trans ?_⟩
        simp only [hr, PassedOver, Gathered.active_complainOnce, Gathered.request,
          visited_complainOnce, Option.some.injEq, Prod.mk.injEq]
        constructor
        · exact fun h => ⟨content, resolved, ⟨rfl, rfl⟩, h⟩
        · rintro ⟨_, _, ⟨rfl, rfl⟩, h⟩
          exact h

namespace Expansion

/-! ## The open files -/

/-- The files remembered as being read are those on the stack, the root file at its bottom, and
their names differ; every name above the root is one the loader answers with. -/
structure Machine.Distinct (names : List Text) (root : Text) (m : Machine) : Prop where
  active : m.gathered.active = m.openNames
  nodup : m.openNames.Nodup
  known : ∃ inner, m.openNames = inner ++ [root.lower] ∧ inner ⊆ names

theorem Machine.distinct_start (names : List Text) (root source : Text) :
    (Machine.start root source).Distinct names root :=
  ⟨rfl, by simp [openNames, start], [], rfl, by simp⟩

/-- A step that leaves the stack as it is, up to the events left in its files. -/
theorem Machine.Distinct.of_eq {names : List Text} {root : Text} {m m' : Machine}
    (h : m.Distinct names root) (hn : m'.openNames = m.openNames)
    (ha : m'.gathered.active = m.gathered.active) : m'.Distinct names root :=
  ⟨by rw [ha, hn]; exact h.active, hn ▸ h.nodup, hn ▸ h.known⟩

theorem active_move {root : Text} {m : Machine} {g : Gathered} (h : (m.move root).gathered = g) :
    g.active = m.gathered.active :=
  h ▸ active_nextMove root m.top.imported m.top.putOff m.top.rest m.gathered

/-- Coming upon an include directive includes nothing yet. -/
theorem visited_move {root : Text} {m : Machine} {d : Directive} {rest : List Event} {g : Gathered}
    (h : m.move root = .include d rest g) : g.visited = m.gathered.visited := by
  unfold Machine.move nextMove at h
  split at h
  · cases h
  · split at h <;> try cases h
    split at h
    · cases h
    · split at h
      · cases h
      · split at h
        · cases h
          rfl
        · cases h

/-- **One step** keeps the open files distinct. -/
theorem Machine.Distinct.step {load : Option Loader} {names : List Text} {root : Text}
    {m m' : Machine} (hl : ∀ l ∈ load, l.NamedBy names) (hm : m.Distinct names root)
    (h : m.step load root = some m') : m'.Distinct names root := by
  cases step_cases h with
  | @leave fault f fs hs hb =>
    have hn : m.openNames = m.top.name.lower :: (f :: fs).map (·.name.lower) := by
      simp [openNames, hb]
    refine ⟨?_, ?_, ?_⟩
    · rw [Gathered.active_pop, hm.active, hn, List.erase_cons_head]
      rfl
    · exact (List.nodup_cons.1 (hn ▸ hm.nodup)).2
    · -- The root file is at the bottom and not the one taken off.
      obtain ⟨inner, hi, hk⟩ := hm.known
      cases inner with
      | nil => simp [hn] at hi
      | cons x inner =>
        rw [hn, List.cons_append] at hi
        exact ⟨inner, (List.cons.inj hi).2, fun y hy => hk (List.mem_cons_of_mem _ hy)⟩
  | stop hs hv => exact hm.of_eq rfl (active_move (by rw [hv]; rfl))
  | advance hs hv => exact hm.of_eq rfl (active_move (by rw [hv]; rfl))
  | @skip d rest g g' hs hv hi =>
    have ha := active_includeStep load root d g
    rw [hi] at ha
    exact hm.of_eq rfl (ha.trans (active_move (by rw [hv]; rfl)))
  | @enter d rest g content resolved g' hs hv hi =>
    have ha := active_includeStep load root d g
    rw [hi] at ha
    have hg : g.active = m.openNames := (active_move (by rw [hv]; rfl)).trans hm.active
    obtain ⟨ho, l, hmem, requested, hr⟩ := includeStep_enter hi
    obtain ⟨inner, hin, hk⟩ := hm.known
    refine ⟨?_, ?_, resolved.lower :: inner, ?_, ?_⟩
    · rw [Gathered.active_push, show g'.active = g.active from ha, hg]
      rfl
    · rw [hg] at ho
      exact List.nodup_cons.2 ⟨ho, hm.nodup⟩
    · exact congrArg (resolved.lower :: ·) hin
    · exact List.cons_subset.2 ⟨hl l hmem hr, hk⟩

theorem Star.distinct {load : Option Loader} {names : List Text} {root : Text} {m m' : Machine}
    {log : List Met} (hl : ∀ l ∈ load, l.NamedBy names) (h : Star load root m log m')
    (hm : m.Distinct names root) : m'.Distinct names root := by
  induction h with
  | refl => exact hm
  | cons hs _ ih => exact ih (hm.step hl hs)

theorem Machine.Distinct.length_le {names : List Text} {root : Text} {m : Machine}
    (h : m.Distinct names root) : m.openNames.length ≤ names.length + 1 := by
  obtain ⟨inner, hi, hk⟩ := h.known
  have hn : inner.Nodup := (List.nodup_append.1 (hi ▸ h.nodup)).1
  have := hn.length_le_of_subset hk
  rw [hi, List.length_append, List.length_singleton]
  omega

/-- **Include recursion ends.** With a loader that answers with finitely many lower-cased names:

the parse returns, and what it returns is the end of a run of the machine;

at every moment of the run the open files have different names, there are at most one more of them
than the loader has names, they are the ones the parse remembers as being read, and, when an include
directive is met, recursion is reported exactly if its file is open and it is not passed over;

and every include directive, also one that ends in a fault, leaves the files being read as they
were. -/
theorem parse?_terminates {load : Loader} {names : List Text} (hn : load.NamedBy names)
    (root source : Text) :
    (∃ t log last fault, Template.parse? root source (some load) = some t ∧
      Star (some load) root (.start root source) log last ∧ last.Halted fault ∧
      t = .ofExpansion root source (last.gathered, fault)) ∧
    (∀ log m, Star (some load) root (.start root source) log m →
      m.openNames.Nodup ∧ m.openNames.length ≤ names.length + 1 ∧
      m.gathered.active = m.openNames ∧
      ∀ d rest g, m.status = .reading → m.move root = .include d rest g →
        ∃ added, (includeStep (some load) root d g).gathered.diagnostics = g.diagnostics ++ added ∧
          ((∃ x ∈ added, x.IsRecursion) ↔
            ∃ content resolved, d.resolve? (some load) = some (content, resolved) ∧
              resolved.lower ∈ m.openNames ∧
              ¬(d.once.1 = true ∧ resolved.lower ∈ m.gathered.visited))) ∧
    ∀ d g g' fault, include? (some load) root d g = some (g', fault) → g'.active = g.active := by
  have hl : ∀ l ∈ some load, l.NamedBy names := by
    intro l hl
    cases hl
    exact hn
  refine ⟨?_, ?_, fun d g g' fault h => active_include? h⟩
  · obtain ⟨t, ht⟩ := Option.isSome_iff_exists.1 (Template.parse?_isSome root source _ names hl)
    obtain ⟨log, m, fault, hs, hh, he⟩ := star_of_parse? ht
    exact ⟨t, log, m, fault, ht, hs, hh, he⟩
  · intro log m hs
    have hm := hs.distinct hl (Machine.distinct_start names root source)
    refine ⟨hm.nodup, hm.length_le, hm.active, ?_⟩
    intro d rest g hr hv
    have ha : g.active = m.openNames := (active_move (by rw [hv]; rfl)).trans hm.active
    have hvis : g.visited = m.gathered.visited := visited_move hv
    obtain ⟨added, hadd, hi⟩ := reports_includeStep (some load) root d g
    rw [ha] at hi
    simp only [PassedOver, hvis] at hi
    exact ⟨added, hadd, hi⟩

/-- Two files that include each other and themselves; one has the name of the root file. -/
def mutualFiles : Loader := fun requested _ =>
  if requested = utf8 "a" then
    some (utf8 "<#@ include file=\"a\" #><#@ include file=\"b\" #>", utf8 "A")
  else some (utf8 "<#@ include file=\"a\" #>", utf8 "R")

theorem parse?_terminates_mutual :
    mutualFiles.NamedBy [utf8 "a", utf8 "r"] ∧
    (∃ t, Template.parse? (utf8 "r") (utf8 "<#@ include file=\"a\" #>") (some mutualFiles) =
      some t) ∧
    ∀ log m, Star (some mutualFiles) (utf8 "r")
        (.start (utf8 "r") (utf8 "<#@ include file=\"a\" #>")) log m →
      m.openNames.Nodup ∧ m.openNames.length ≤ 3 := by
  have hn : mutualFiles.NamedBy [utf8 "a", utf8 "r"] := by
    intro requested from_ content resolved h
    unfold mutualFiles at h
    split at h <;> cases h <;> decide
  obtain ⟨⟨t, _, _, _, ht, _⟩, hopen, _⟩ :=
    parse?_terminates hn (utf8 "r") (utf8 "<#@ include file=\"a\" #>")
  exact ⟨hn, ⟨t, ht⟩, fun log m hs => ⟨(hopen log m hs).1, (hopen log m hs).2.1⟩⟩

end Expansion
end TextTemplate
