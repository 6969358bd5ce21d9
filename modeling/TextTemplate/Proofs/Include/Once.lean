/-
Files asked for at most once. An include directive with the attribute `once` passes over a file that
any include directive before it has led to, be that file finished or still open, and it does so
without a trace: no segment, no complaint. Any other file it leads to is opened in its place.

The root file is the exception. It is being read and yet no directive has led to it, so the first
directive that does is taken for a recursion and reported, whether it asks for the file once or not;
`parse?_once` says where exactly this happens.

`Parsing` is the history of a parse: the states it goes through, with the include directives met on
the way. What carries the proofs is `Machine.Tracked`: the files remembered as included are those
the directives led to, and every open file above the root is one of them.
-/
import TextTemplate.Proofs.Include.Termination

namespace TextTemplate

/-! ## One directive -/

/-- Whether a decision opens a file. -/
def IncludeStep.opens : IncludeStep → Bool
  | skip _ => false
  | enter _ _ _ => true

/-- A directive that asks for a file once has nothing to complain about. -/
theorem complainOnce_of_once (g : Gathered) (root : Text) {d : Directive} (h : d.once.1 = true) :
    g.complainOnce root d = g := by
  have hnone : d.once.2 = none := by
    unfold Directive.once at h ⊢
    split
    · rfl
    · rename_i value hv
      simp only [hv] at h
      split
      · rfl
      · rename_i hb
        simp [hb] at h
  simp [Gathered.complainOnce, hnone]

/-- What is gathered when the file of a directive has been looked for. -/
def Gathered.lookFor (g : Gathered) (root : Text) (d : Directive) (raw : Text) : Gathered :=
  (g.complainOnce root d).request (Text.replace [0x5C] [0x2F] raw) d.span.start.file

theorem includeStep_of_resolve? {load : Option Loader} {d : Directive} {content resolved : Text}
    (h : d.resolve? load = some (content, resolved)) (root : Text) (g : Gathered) :
    ∃ raw, d.attributes.get? (utf8 "file") = some raw ∧
      includeStep load root d g =
        includeFound root d raw content resolved (g.lookFor root d raw) := by
  simp only [Directive.resolve?, Option.bind_eq_bind, Option.bind_eq_some_iff] at h
  obtain ⟨raw, hraw, l, rfl, hl⟩ := h
  refine ⟨raw, hraw, ?_⟩
  simp only [includeStep, hraw, includeNamed, hl]
  rfl

@[simp] theorem active_lookFor (g : Gathered) (root : Text) (d : Directive) (raw : Text) :
    (g.lookFor root d raw).active = g.active := by
  simp [Gathered.lookFor]

@[simp] theorem visited_lookFor (g : Gathered) (root : Text) (d : Directive) (raw : Text) :
    (g.lookFor root d raw).visited = g.visited := by
  simp [Gathered.lookFor, Gathered.request]

theorem mem_visited_visit {g : Gathered} {key x : Text} :
    x ∈ (g.visit key).visited ↔ x ∈ g.visited ∨ x = key := by
  unfold Gathered.visit
  split
  · rename_i h
    simp only [List.contains_eq_mem, decide_eq_true_eq] at h
    constructor
    · exact .inl
    · rintro (hx | rfl)
      · exact hx
      · exact h
  · simp

/-- A directive that leads to no file opens none and remembers none. -/
theorem includeStep_of_resolve?_eq_none {load : Option Loader} {d : Directive}
    (h : d.resolve? load = none) (root : Text) (g : Gathered) :
    ∃ g', includeStep load root d g = .skip g' ∧ g'.visited = g.visited := by
  unfold includeStep
  split
  · exact ⟨_, rfl, rfl⟩
  · rename_i raw hraw
    unfold includeNamed
    simp only
    split
    · exact ⟨_, rfl, visited_complainOnce g root d⟩
    · rename_i l
      split
      · exact ⟨_, rfl, visited_complainOnce g root d⟩
      · rename_i hl
        simp [Directive.resolve?, hraw, hl] at h

/-- The file that is opened is the one the directive leads to. -/
theorem resolve?_of_enter {load : Option Loader} {root : Text} {d : Directive} {g g' : Gathered}
    {content resolved : Text} (h : includeStep load root d g = .enter content resolved g') :
    d.resolve? load = some (content, resolved) := by
  cases hr : d.resolve? load with
  | none =>
    obtain ⟨g', hs, -⟩ := includeStep_of_resolve?_eq_none hr root g
    rw [hs] at h
    cases h
  | some found =>
    obtain ⟨raw, -, hs⟩ := includeStep_of_resolve? hr root g
    rw [hs, includeFound] at h
    split at h
    · cases h
    · split at h
      · cases h
      · cases h
        rfl

/-- A directive remembers the file it leads to, and no other. -/
theorem mem_visited_includeStep {load : Option Loader} {root : Text} {d : Directive} {g : Gathered}
    {x : Text} : x ∈ (includeStep load root d g).gathered.visited ↔
      x ∈ g.visited ∨ ∃ found ∈ d.resolve? load, x = found.2.lower := by
  cases hr : d.resolve? load with
  | none =>
    obtain ⟨g', hs, hv⟩ := includeStep_of_resolve?_eq_none hr root g
    simp [hs, IncludeStep.gathered, hv]
  | some found =>
    obtain ⟨content, resolved⟩ := found
    obtain ⟨raw, -, hs⟩ := includeStep_of_resolve? hr root g
    rw [hs, includeFound]
    split
    · rename_i hc
      simp only [visited_lookFor, List.contains_eq_mem, Bool.and_eq_true, decide_eq_true_eq] at hc
      simp only [IncludeStep.gathered, visited_lookFor, Option.mem_def, Option.some.injEq,
        exists_eq_left', iff_self_or]
      rintro rfl
      exact hc.1
    · split
      · simp only [IncludeStep.gathered, Gathered.error, mem_visited_visit, visited_lookFor,
          Option.mem_def, Option.some.injEq, exists_eq_left']
      · simp only [IncludeStep.gathered, mem_visited_visit, visited_lookFor,
          Option.mem_def, Option.some.injEq, exists_eq_left']

/-- A file that is opened is not open, and if it is asked for once no directive has led to it. -/
theorem not_mem_of_opens {load : Option Loader} {root : Text} {d : Directive} {g : Gathered}
    {content resolved : Text} (h : d.resolve? load = some (content, resolved))
    (ho : (includeStep load root d g).opens = true) :
    resolved.lower ∉ g.active ∧ (d.once.1 = true → resolved.lower ∉ g.visited) := by
  obtain ⟨raw, -, hs⟩ := includeStep_of_resolve? h root g
  rw [hs, includeFound] at ho
  split at ho
  · cases ho
  · rename_i hv
    split at ho
    · cases ho
    · rename_i ha
      constructor
      · simpa using ha
      · intro honce hmem
        simp [honce, hmem] at hv

namespace Expansion

/-! ## The history of a parse -/

/-- An include directive that led to a file: the lower-cased name of the file, whether the directive
asked for it at most once, and whether the file was opened. -/
structure Ask where
  name : Text
  once : Bool
  opened : Bool

/-- The include directive a step meets, if it meets one and a file is found for it. -/
def Machine.asks (load : Option Loader) (root : Text) (m : Machine) : List Ask :=
  match m.status, m.move root with
  | .reading, .include d _ g =>
    match d.resolve? load with
    | some (_, resolved) => [⟨resolved.lower, d.once.1, (includeStep load root d g).opens⟩]
    | none => []
  | _, _ => []

/-- The states of a parse, each with the include directives met before it. -/
inductive Parsing (load : Option Loader) (root source : Text) : Machine → List Ask → Prop
  | start : Parsing load root source (.start root source) []
  | step {m m' : Machine} {asked : List Ask} (h : Parsing load root source m asked)
      (hs : m.step load root = some m') : Parsing load root source m' (asked ++ m.asks load root)

variable {load : Option Loader} {root source : Text}

theorem Parsing.star {m m' : Machine} {asked : List Ask} {log : List Met}
    (h : Parsing load root source m asked) (hs : Star load root m log m') :
    ∃ asked', Parsing load root source m' asked' := by
  induction hs generalizing asked with
  | refl => exact ⟨asked, h⟩
  | cons hstep _ ih => exact ih (h.step hstep)

/-! ## What is remembered -/

/-- The files remembered as included are those a directive has led to; the files remembered as being
read are those on the stack, with the root at the bottom and files a directive has led to above. -/
structure Machine.Tracked (root : Text) (m : Machine) (asked : List Ask) : Prop where
  visited : ∀ key, key ∈ m.gathered.visited ↔ key ∈ asked.map (·.name)
  active : m.gathered.active = m.openNames
  stack : ∃ inner, m.openNames = inner ++ [root.lower] ∧ ∀ key ∈ inner, key ∈ asked.map (·.name)

theorem Machine.tracked_start (root source : Text) : (Machine.start root source).Tracked root [] :=
  ⟨fun key => by simp [start, Gathered.ofRoot], rfl, [], rfl, by simp⟩

theorem Machine.Tracked.mem_active {m : Machine} {asked : List Ask} (h : m.Tracked root asked)
    (key : Text) (hk : key ∈ m.gathered.active) : key = root.lower ∨ key ∈ asked.map (·.name) := by
  obtain ⟨inner, hstack, hin⟩ := h.stack
  rw [h.active, hstack, List.mem_append, List.mem_singleton] at hk
  exact hk.symm.imp_right (hin key)

theorem Machine.Tracked.root_mem_active {m : Machine} {asked : List Ask}
    (h : m.Tracked root asked) : root.lower ∈ m.gathered.active := by
  obtain ⟨inner, hstack, -⟩ := h.stack
  simp [h.active, hstack]

/-- A step that leaves the stack as it is and includes nothing. -/
theorem Machine.Tracked.of_eq {m m' : Machine} {asked : List Ask} (h : m.Tracked root asked)
    (hn : m'.openNames = m.openNames) (ha : m'.gathered.active = m.gathered.active)
    (hv : m'.gathered.visited = m.gathered.visited) : m'.Tracked root asked :=
  ⟨fun key => by rw [hv]; exact h.visited key, by rw [ha, hn]; exact h.active, hn ▸ h.stack⟩

/-- A move includes nothing. -/
theorem visited_gathered_move (root : Text) (m : Machine) :
    (m.move root).gathered.visited = m.gathered.visited := by
  have hpiece : ∀ (g : Gathered) late kind e, (g.addPiece late kind e).visited = g.visited := by
    intro g late kind e
    unfold Gathered.addPiece Gathered.add
    split
    · rfl
    · split <;> rfl
  unfold Machine.move nextMove
  split
  · rfl
  · split
    · exact hpiece _ _ _ _
    · exact hpiece _ _ _ _
    · exact hpiece _ _ _ _
    · exact hpiece _ _ _ _
    · split
      · rfl
      · split
        · rfl
        · split <;> rfl
    · rfl

theorem Machine.asks_of_include {m : Machine} {d : Directive} {rest : List Event} {g : Gathered}
    (hs : m.status = .reading) (hm : m.move root = .include d rest g) :
    m.asks load root = ((d.resolve? load).map fun found =>
      ⟨found.2.lower, d.once.1, (includeStep load root d g).opens⟩).toList := by
  simp only [asks, hs, hm]
  cases d.resolve? load <;> rfl

theorem mem_name_asks {m : Machine} {d : Directive} {rest : List Event} {g : Gathered} {key : Text}
    (hs : m.status = .reading) (hm : m.move root = .include d rest g) :
    key ∈ (m.asks load root).map (·.name) ↔ ∃ found ∈ d.resolve? load, key = found.2.lower := by
  rw [Machine.asks_of_include hs hm]
  cases d.resolve? load with
  | none => simp
  | some found => simp

/-- Behind an include directive exactly the file it leads to is remembered besides those before. -/
theorem Machine.Tracked.visited_include {m : Machine} {asked : List Ask} {d : Directive}
    {rest : List Event} {g : Gathered} (h : m.Tracked root asked) (hs : m.status = .reading)
    (hm : m.move root = .include d rest g) (load : Option Loader) (key : Text) :
    key ∈ (includeStep load root d g).gathered.visited ↔
      key ∈ (asked ++ m.asks load root).map (·.name) := by
  rw [mem_visited_includeStep, visited_move hm, h.visited, List.map_append, List.mem_append,
    mem_name_asks hs hm]

/-- **One step** keeps track. -/
theorem Machine.Tracked.step {m m' : Machine} {asked : List Ask} (h : m.Tracked root asked)
    (hs : m.step load root = some m') : m'.Tracked root (asked ++ m.asks load root) := by
  have hvisited := visited_gathered_move root m
  have hactive : (m.move root).gathered.active = m.gathered.active := active_move rfl
  cases step_cases hs with
  | @leave fault f fs hst hb =>
    have hnone : m.asks load root = [] := by simp [asks, hst]
    have hn : m.openNames = m.top.name.lower :: (f :: fs).map (·.name.lower) := by
      simp [openNames, hb]
    obtain ⟨inner, hstack, hin⟩ := h.stack
    rw [hnone, List.append_nil]
    refine ⟨h.visited, ?_, ?_⟩
    · rw [Gathered.active_pop, h.active, hn, List.erase_cons_head]
      rfl
    · -- The root file is at the bottom and not the one taken off.
      cases inner with
      | nil => simp [hn] at hstack
      | cons x inner =>
        rw [hn, List.cons_append] at hstack
        exact ⟨inner, (List.cons.inj hstack).2, fun key hk => hin key (List.mem_cons_of_mem _ hk)⟩
  | stop hst hm =>
    rw [hm] at hvisited hactive
    have hnone : m.asks load root = [] := by simp [asks, hst, hm]
    rw [hnone, List.append_nil]
    exact h.of_eq rfl hactive hvisited
  | advance hst hm =>
    rw [hm] at hvisited hactive
    have hnone : m.asks load root = [] := by simp [asks, hst, hm]
    rw [hnone, List.append_nil]
    exact h.of_eq rfl hactive hvisited
  | @skip d rest g g' hst hm hi =>
    rw [hm] at hactive
    have hall := h.visited_include hst hm load
    have ha := active_includeStep load root d g
    rw [hi] at hall ha
    obtain ⟨inner, hstack, hin⟩ := h.stack
    refine ⟨hall, (ha.trans hactive).trans h.active, inner, hstack, fun key hk => ?_⟩
    rw [List.map_append]
    exact List.mem_append_left _ (hin key hk)
  | @enter d rest g content resolved g' hst hm hi =>
    rw [hm] at hactive
    have hall := h.visited_include hst hm load
    have ha := active_includeStep load root d g
    rw [hi] at hall ha
    obtain ⟨inner, hstack, hin⟩ := h.stack
    refine ⟨hall, ?_, resolved.lower :: inner, ?_, ?_⟩
    · rw [Gathered.active_push, show g'.active = m.openNames from
        (ha.trans hactive).trans h.active]
      rfl
    · exact congrArg (resolved.lower :: ·) hstack
    · -- The file that is opened is remembered, so a directive has led to it.
      intro key hk
      rcases List.mem_cons.1 hk with rfl | hk
      · rw [List.map_append, List.mem_append, mem_name_asks hst hm]
        exact .inr ⟨_, resolve?_of_enter hi, rfl⟩
      · rw [List.map_append]
        exact List.mem_append_left _ (hin key hk)

theorem Parsing.tracked {m : Machine} {asked : List Ask} (h : Parsing load root source m asked) :
    m.Tracked root asked := by
  induction h with
  | start => exact Machine.tracked_start root source
  | step _ hs ih => exact ih.step hs

/-! ## Directives that ask once -/

/-- Coming upon an include directive gathers the complaints about its tag and nothing else. -/
theorem gathered_of_include {m : Machine} {d : Directive} {rest : List Event} {g : Gathered}
    (h : m.move root = .include d rest g) : ∃ draft, g = m.gathered.note draft := by
  unfold Machine.move nextMove at h
  split at h
  · cases h
  · split at h <;> try cases h
    split at h
    · cases h
    · split at h
      · cases h
      · split at h
        · cases h
          exact ⟨_, rfl⟩
        · cases h

/-- A step meets no include directive that leads to a file, or one. If it opens the file, the file
is not open, and if it asks for it once no directive before has led to it. -/
theorem Machine.Tracked.asks_cases {m : Machine} {asked : List Ask} (h : m.Tracked root asked)
    (load : Option Loader) :
    m.asks load root = [] ∨ ∃ a, m.asks load root = [a] ∧ (a.opened = true →
      a.name ≠ root.lower ∧ (a.once = true → a.name ∉ asked.map (·.name))) := by
  cases hst : m.status with
  | ended fault => exact .inl (by simp [asks, hst])
  | reading =>
    cases hm : m.move root with
    | stop g => exact .inl (by simp [asks, hst, hm])
    | advance late rest g => exact .inl (by simp [asks, hst, hm])
    | «include» d rest g =>
      have hactive : g.active = m.gathered.active := active_move (by rw [hm]; rfl)
      cases hr : d.resolve? load with
      | none => exact .inl (by simp [asks, hst, hm, hr])
      | some found =>
        refine .inr ⟨⟨found.2.lower, d.once.1, (includeStep load root d g).opens⟩,
          by simp only [asks, hst, hm, hr], fun hopen => ?_⟩
        obtain ⟨ha, hv⟩ := not_mem_of_opens hr hopen
        rw [hactive] at ha
        rw [visited_move hm] at hv
        constructor
        · intro heq
          apply ha
          rw [show found.2.lower = root.lower from heq]
          exact h.root_mem_active
        · exact fun honce hmem => hv honce ((h.visited _).2 hmem)

/-- How often the directives of a list opened a file. -/
def openings (key : Text) (asked : List Ask) : Nat :=
  asked.countP fun a => a.name = key && a.opened

theorem openings_eq_zero {key : Text} {asked : List Ask} (h : key ∉ asked.map (·.name)) :
    openings key asked = 0 := by
  rw [openings, List.countP_eq_zero]
  intro a ha hc
  simp only [Bool.and_eq_true, decide_eq_true_eq] at hc
  exact h (List.mem_map.2 ⟨a, ha, hc.1⟩)

/-- A file that is asked for once only is read at most once, its reading as the root file
included. -/
theorem Parsing.openings_le {m : Machine} {asked : List Ask} {key : Text}
    (h : Parsing load root source m asked) (honce : ∀ a ∈ asked, a.name = key → a.once = true) :
    openings key asked + (if key = root.lower then 1 else 0) ≤ 1 := by
  induction h with
  | start =>
    simp only [openings, List.countP_nil]
    split <;> omega
  | @step m m' asked h hs ih =>
    have ih := ih fun a ha => honce a (List.mem_append_left _ ha)
    rcases h.tracked.asks_cases load with hnone | ⟨a, hone, hopen⟩
    · simpa [hnone] using ih
    · have hsum : openings key (asked ++ [a]) =
          openings key asked + if a.name = key && a.opened then 1 else 0 := by
        simp [openings]
      rw [hone, hsum]
      by_cases hc : (a.name = key && a.opened) = true
      · simp only [Bool.and_eq_true, decide_eq_true_eq] at hc
        obtain ⟨rfl, ho⟩ := hc
        have ha : a.once = true := honce a (by simp [hone]) rfl
        obtain ⟨hroot, hnew⟩ := hopen ho
        rw [openings_eq_zero (hnew ha), if_neg hroot]
        split <;> omega
      · rw [if_neg hc]
        exact ih

/-- What becomes of a directive that asks once, by the file it leads to. -/
theorem Machine.Tracked.includeStep_once {m : Machine} {asked : List Ask} {d : Directive}
    {rest : List Event} {g : Gathered} {content resolved : Text} (h : m.Tracked root asked)
    (hm : m.move root = .include d rest g) (ho : d.once.1 = true)
    (hf : d.resolve? load = some (content, resolved)) :
    ∃ raw looked, d.attributes.get? (utf8 "file") = some raw ∧
      looked = g.request (Text.replace [0x5C] [0x2F] raw) d.span.start.file ∧
      includeStep load root d g =
        if resolved.lower ∈ asked.map (·.name) then .skip looked
        else if resolved.lower = root.lower then
          .skip ((looked.visit resolved.lower).error root
            (utf8 "Recursive include of '" ++ raw ++ utf8 "'") d.span.start)
        else .enter content resolved (looked.visit resolved.lower) := by
  obtain ⟨raw, hraw, hfound⟩ := includeStep_of_resolve? hf root g
  refine ⟨raw, g.lookFor root d raw, hraw, ?_, ?_⟩
  · rw [Gathered.lookFor, complainOnce_of_once g root ho]
  have hvisited : ((g.lookFor root d raw).visited.contains resolved.lower && d.once.1) = true ↔
      resolved.lower ∈ asked.map (·.name) := by
    rw [ho, Bool.and_true, List.contains_iff_mem, visited_lookFor, visited_move hm, h.visited]
  have hactive : (g.lookFor root d raw).active = m.gathered.active := by
    rw [active_lookFor]
    exact active_move (by rw [hm]; rfl)
  rw [hfound, includeFound]
  by_cases hv : resolved.lower ∈ asked.map (·.name)
  · rw [if_pos (hvisited.2 hv), if_pos hv]
  · rw [if_neg (mt hvisited.1 hv), if_neg hv]
    by_cases hroot : resolved.lower = root.lower
    · have hopen : (g.lookFor root d raw).active.contains resolved.lower = true := by
        rw [List.contains_iff_mem, hroot, hactive]
        exact h.root_mem_active
      rw [if_pos hroot, if_pos hopen]
    · have hclosed : ¬(g.lookFor root d raw).active.contains resolved.lower = true := by
        rw [List.contains_iff_mem, hactive]
        exact fun hmem => (h.mem_active _ hmem).elim hroot hv
      rw [if_neg hroot, if_neg hclosed]

/-- The directive is passed over: the parse goes on behind it with what it has gathered, and only
the request for the file is remembered. -/
def Machine.PassesOver (load : Option Loader) (root : Text) (m : Machine) (rest : List Event)
    (g : Gathered) : Prop :=
  ∃ requests, m.step load root = some { m with
    top := { m.top with rest := rest }, gathered := { g with requests := requests } }

/-- A file is opened in the place of the directive; no segment or complaint is added on the way. -/
def Machine.Opens (load : Option Loader) (root : Text) (m : Machine) (rest : List Event)
    (g : Gathered) (content resolved : Text) : Prop :=
  ∃ visited requests, m.step load root =
    some ⟨.ofFile resolved content true, { m.top with rest := rest } :: m.below, .reading,
      { g with visited := visited, active := resolved.lower :: g.active, requests := requests }⟩

/-- Nothing is read in the place of the directive, and one complaint is made. -/
def Machine.Refuses (load : Option Loader) (root : Text) (m : Machine) (rest : List Event)
    (g : Gathered) (complaint : Diagnostic) : Prop :=
  ∃ visited requests, m.step load root = some { m with
    top := { m.top with rest := rest }
    gathered := { g with
      diagnostics := g.diagnostics ++ [complaint], visited := visited, requests := requests } }

theorem visit_eq (g : Gathered) (key : Text) :
    ∃ visited, g.visit key = { g with visited := visited } := by
  unfold Gathered.visit
  split
  · exact ⟨g.visited, rfl⟩
  · exact ⟨_, rfl⟩

/-- **Asking for a file once.** In every state of a parse, whatever the files and the loader, an
include directive that asks for its file once and leads to one

passes over the file if any include directive met before has led to it, in any letter case;

opens it otherwise, unless it is the root file;

and if it is the root file, to which no directive has led before, reports a recursion.

A file that is only ever asked for once is read at most once, and every parse that returns is such a
history to its end. -/
theorem parse?_once (load : Option Loader) (root source : Text) :
    (∀ m asked, Parsing load root source m asked →
      (∀ d rest g content resolved, m.status = .reading → m.move root = .include d rest g →
        d.once.1 = true → d.resolve? load = some (content, resolved) →
        (∃ draft, g = m.gathered.note draft) ∧
        (resolved.lower ∈ asked.map (·.name) → m.PassesOver load root rest g) ∧
        (resolved.lower ∉ asked.map (·.name) → resolved.lower ≠ root.lower →
          m.Opens load root rest g content resolved) ∧
        (resolved.lower ∉ asked.map (·.name) → resolved.lower = root.lower →
          ∃ raw, d.attributes.get? (utf8 "file") = some raw ∧
            m.Refuses load root rest g (.atLocation d.span.start root
              (utf8 "Recursive include of '" ++ raw ++ utf8 "'") false))) ∧
      ∀ key, (∀ a ∈ asked, a.name = key → a.once = true) →
        openings key asked + (if key = root.lower then 1 else 0) ≤ 1) ∧
    ∀ t, Template.parse? root source load = some t →
      ∃ m asked fault, Parsing load root source m asked ∧ m.Halted fault ∧
        t = .ofExpansion root source (m.gathered, fault) := by
  refine ⟨fun m asked h => ⟨?_, fun key honce => h.openings_le honce⟩, ?_⟩
  · intro d rest g content resolved hs hm ho hf
    obtain ⟨raw, looked, hraw, rfl, hstep⟩ := h.tracked.includeStep_once hm ho hf
    obtain ⟨visited, hvisit⟩ := visit_eq
      (g.request (Text.replace [0x5C] [0x2F] raw) d.span.start.file) resolved.lower
    rw [hvisit] at hstep
    refine ⟨gathered_of_include hm, fun hv => ?_, fun hv hroot => ?_, fun hv hroot => ?_⟩
    · rw [if_pos hv] at hstep
      exact ⟨_, by simp only [Machine.step, hs, hm, hstep]; rfl⟩
    · rw [if_neg hv, if_neg hroot] at hstep
      exact ⟨visited, _, by simp only [Machine.step, hs, hm, hstep]; rfl⟩
    · rw [if_neg hv, if_pos hroot] at hstep
      exact ⟨raw, hraw, visited, _, by simp only [Machine.step, hs, hm, hstep]; rfl⟩
  · intro t ht
    obtain ⟨log, m, fault, hstar, hhalt, he⟩ := star_of_parse? ht
    obtain ⟨asked, hm⟩ := Parsing.start.star hstar
    exact ⟨m, asked, fault, hm, hhalt, he⟩

/-- A file that asks for itself once, in another letter case. -/
def selfAsking : Text := utf8 "<#@ include file=\"R\" once=\"true\" #>"

/-- Every name leads to that file. -/
def selfFile : Loader := fun requested _ => some (selfAsking, requested)

/-- The include directive that the innermost file stands at, if it stands at one. -/
def Machine.directive? (root : Text) (m : Machine) : Option Directive :=
  match m.move root with
  | .include d _ _ => some d
  | _ => none

/-- The root file asks for itself once, and a recursion is reported all the same. -/
theorem parse?_once_root :
    ∃ d rest g, (Machine.start (utf8 "r") selfAsking).move (utf8 "r") = .include d rest g ∧
      d.once.1 = true ∧ d.resolve? selfFile = some (selfAsking, utf8 "R") ∧
      ∃ raw, (Machine.start (utf8 "r") selfAsking).Refuses selfFile (utf8 "r") rest g
        (.atLocation d.span.start (utf8 "r") (utf8 "Recursive include of '" ++ raw ++ utf8 "'")
          false) := by
  have hasks : ((Machine.start (utf8 "r") selfAsking).directive? (utf8 "r")).map
      (fun d => (d.once.1, d.resolve? selfFile)) = some (true, some (selfAsking, utf8 "R")) := by
    decide +kernel
  obtain ⟨d, hd, hasks⟩ := Option.map_eq_some_iff.1 hasks
  obtain ⟨ho, hf⟩ := Prod.mk.inj hasks
  unfold Machine.directive? at hd
  cases hm : (Machine.start (utf8 "r") selfAsking).move (utf8 "r") with
  | «include» d' rest g =>
    rw [hm] at hd
    cases hd
    have hroot : (utf8 "R").lower = (utf8 "r").lower := by decide +kernel
    obtain ⟨-, -, -, hrefuse⟩ := ((parse?_once selfFile (utf8 "r") selfAsking).1 _ _ .start).1
      d rest g selfAsking (utf8 "R") rfl hm ho hf
    obtain ⟨raw, -, hrefuses⟩ := hrefuse (by simp) hroot
    exact ⟨d, rest, g, rfl, ho, hf, raw, hrefuses⟩
  | _ =>
    rw [hm] at hd
    cases hd

end Expansion
end TextTemplate
