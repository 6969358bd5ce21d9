/-
Where the pieces of a parse come from. The files of a parse are the root file and the files its
loader answers with. `Machine.Sourced` is the invariant: each file being read is one of them, and
what is left of its events is the end of what the scan of its text reports.

`pieces_parse?` and `tags_parse?`: every piece of a parsed template is reported by an event of
one of the files, and every directive is that of a tag in one of them.
-/
import TextTemplate.Proofs.Include.Deferral

namespace TextTemplate.Expansion

/-- The files of a parse, by name and text. -/
inductive FileOf (load : Option Loader) (root source : Text) : (name content : Text) → Prop where
  | root : FileOf load root source root source
  | included {l : Loader} {requested asking name content : Text} (hl : l ∈ load)
      (h : l requested asking = some (content, name)) : FileOf load root source name content

/-- Whether a piece is reported by an event of a file. -/
structure Reported (name content : Text) (p : Piece) (e : Event) : Prop where
  mem : e ∈ (scan name content).1
  kind : pieceKind? e.kind = some p.kind
  text : p.text = e.value
  text_ne_nil : p.text ≠ []
  span : p.span = ⟨e.location, e.tagEnd, e.tagStart⟩

/-- Whether a directive, which is no include directive, is that of a tag in a file: an event opens
the tag and `inside` are the events behind it. -/
structure TagOf (root name content : Text) (inside : List Event) (d : Directive) : Prop where
  tag : ∃ opening : Event, opening :: inside <:+ (scan name content).1 ∧
    opening.kind = .directive ∧ directiveOf? root opening inside = some d
  other : d.is (utf8 "include") = false

variable {load : Option Loader} {root source : Text} {m m' : Machine} {log : List Met}

/-- What is met is reported in one of the files, if it is a piece, and has its tag in one of them, if
it is a directive. -/
structure Met.Traced (load : Option Loader) (root source : Text) (x : Met) : Prop where
  piece : ∀ p, x.segment = .piece p →
    ∃ name content e, FileOf load root source name content ∧ Reported name content p e
  directive : ∀ d, x.segment = .directive d →
    ∃ name content inside, FileOf load root source name content ∧ TagOf root name content inside d

/-- A file being read is one of the files, with the end of its events left. -/
def Frame.Sourced (load : Option Loader) (root source : Text) (f : Frame) : Prop :=
  ∃ content, FileOf load root source f.name content ∧ f.all = (scan f.name content).1 ∧
    f.rest <:+ f.all

/-- Every file being read is one of the files. -/
def Machine.Sourced (load : Option Loader) (root source : Text) (m : Machine) : Prop :=
  ∀ f ∈ m.top :: m.below, f.Sourced load root source

theorem Frame.Sourced.ofFile {name content : Text} (h : FileOf load root source name content)
    (imported : Bool) : (Frame.ofFile name content imported).Sourced load root source :=
  ⟨content, h, rfl, List.suffix_rfl⟩

theorem Frame.Sourced.rest {f : Frame} (h : f.Sourced load root source) {late : Bool}
    {rest : List Event} (hrest : rest <:+ f.rest) :
    Frame.Sourced load root source { f with putOff := late, rest := rest } := by
  obtain ⟨content, hfile, hall, hsuffix⟩ := h
  exact ⟨content, hfile, hall, hrest.trans hsuffix⟩

/-- What is left behind a directive tag is the end of what was left at it. -/
theorem suffix_of_read {opened : Location} {d d' : Draft} {es rest : List Event}
    (h : Draft.read root opened d es = (d', some rest)) : rest <:+ es := by
  induction es generalizing d with
  | nil => cases h
  | cons e es ih =>
    unfold Draft.read at h
    split at h
    · exact (ih h).trans (List.suffix_cons e es)
    · exact (ih h).trans (List.suffix_cons e es)
    · cases h
      exact List.suffix_cons e _

/-- What a move leaves of the events is their end. -/
theorem suffix_of_nextMove {imported late : Bool} {events rest : List Event} {g : Gathered}
    (h : (∃ late' g', nextMove root imported late events g = .advance late' rest g') ∨
      ∃ d g', nextMove root imported late events g = .include d rest g') : rest <:+ events := by
  cases events with
  | nil => simp [nextMove] at h
  | cons e es =>
    rw [nextMove] at h
    cases hk : e.kind with
    | directive =>
      simp only [hk] at h
      rcases hread : Draft.read root e.tagStart .empty es with ⟨draft, _ | behind⟩
      · simp [hread] at h
      · have hbehind : behind = rest := by
          cases hd : draft.directive with
          | none => simpa [hread, hd] using h
          | some d => by_cases hi : d.is (utf8 "include") <;> simpa [hread, hd, hi] using h
        rw [← hbehind]
        exact (suffix_of_read hread).trans (List.suffix_cons e es)
    | _ =>
      simp only [hk, Move.advance.injEq, reduceCtorEq, exists_false, or_false] at h
      obtain ⟨-, -, -, rfl, -⟩ := h
      exact List.suffix_cons e es

/-- What a file meets next is reported in it. -/
theorem Frame.Sourced.traced {f : Frame} (h : f.Sourced load root source) {x : Met}
    (hx : f.MetNext root x) : x.Traced load root source := by
  obtain ⟨content, hfile, hall, hsuffix⟩ := h
  rw [hall] at hsuffix
  cases hx with
  | @piece e _ _ hrest hkind hvalue =>
    refine ⟨fun p hp => ?_, fun d hd => nomatch hd⟩
    cases hp
    exact ⟨f.name, content, e, hfile, hsuffix.subset (hrest ▸ List.mem_cons_self), hkind, rfl,
      hvalue, rfl⟩
  | @directive e inside _ hrest hkind hdirective hother =>
    refine ⟨fun p hp => (nomatch hp), fun d hd => ?_⟩
    cases hd
    exact ⟨f.name, content, inside, hfile, ⟨e, hrest ▸ hsuffix, hkind, hdirective⟩, hother⟩

/-- **One step** goes on reading the files. -/
theorem Machine.Sourced.step (hm : m.Sourced load root source) (h : m.step load root = some m') :
    m'.Sourced load root source := by
  have htop : m.top.Sourced load root source := hm m.top List.mem_cons_self
  have hbelow : ∀ f ∈ m.below, f.Sourced load root source :=
    fun f hf => hm f (List.mem_cons_of_mem _ hf)
  cases step_cases h with
  | leave hs hb => exact fun f hf => hbelow f (hb ▸ hf)
  | stop hs hv => exact hm
  | advance hs hv =>
    exact List.forall_mem_cons.2 ⟨htop.rest (suffix_of_nextMove (.inl ⟨_, _, hv⟩)), hbelow⟩
  | skip hs hv hi =>
    exact List.forall_mem_cons.2 ⟨htop.rest (suffix_of_nextMove (.inr ⟨_, _, hv⟩)), hbelow⟩
  | enter hs hv hi =>
    obtain ⟨-, l, hl, requested, hload⟩ := includeStep_enter hi
    exact List.forall_mem_cons.2 ⟨.ofFile (.included hl hload) true, List.forall_mem_cons.2
      ⟨htop.rest (suffix_of_nextMove (.inr ⟨_, _, hv⟩)), hbelow⟩⟩

/-- What holds of all that the files of a parse meet next holds of a whole run. -/
theorem Star.forall_met {P : Met → Prop}
    (hmet : ∀ f : Frame, f.Sourced load root source → ∀ x, f.MetNext root x → P x)
    (h : Star load root m log m') (hm : m.Sourced load root source) : ∀ x ∈ log, P x := by
  obtain ⟨ms, hcourse, rfl⟩ := h.course
  intro x hx
  obtain ⟨m₁, hm₁, hx⟩ := List.mem_flatMap.1 hx
  have hsourced : m₁.Sourced load root source := hcourse.forall_mem (fun _ _ hm => hm.step) hm m₁ hm₁
  exact hmet m₁.top (hsourced m₁.top List.mem_cons_self) x (Machine.metNext_of_mem hx)

theorem Machine.sourced_start (load : Option Loader) (root source : Text) :
    (Machine.start root source).Sourced load root source := by
  intro f hf
  simp only [start, List.mem_singleton] at hf
  rw [hf]
  exact .ofFile .root false

/-- Every segment of a parsed template is met in a run that ends, and has its origin in one of the
files. -/
theorem exists_met_of_mem {t : Template} (h : Template.parse? root source load = some t)
    {s : Segment} (hs : s ∈ t.segments) : ∃ x : Met, x.segment = s ∧ x.Traced load root source := by
  obtain ⟨log, m, fault, hstar, -, rfl⟩ := star_of_parse? h
  have htraced : ∀ x ∈ log, x.Traced load root source :=
    hstar.forall_met (fun f hf x hx => hf.traced hx) (Machine.sourced_start load root source)
  rw [hstar.segments, kept, putOff, List.mem_append, List.mem_map, List.mem_map] at hs
  rcases hs with ⟨x, hx, rfl⟩ | ⟨x, hx, rfl⟩
  · exact ⟨x, rfl, htraced x (List.mem_of_mem_filter hx)⟩
  · exact ⟨x, rfl, htraced x (List.mem_of_mem_filter hx)⟩

/-- Every piece of a parsed template is reported by an event of one of its files. -/
theorem pieces_parse? {t : Template} (h : Template.parse? root source load = some t) {p : Piece}
    (hp : p ∈ t.pieces) :
    ∃ name content e, FileOf load root source name content ∧ Reported name content p e := by
  obtain ⟨s, hs, hpiece⟩ := List.mem_filterMap.1 hp
  obtain ⟨x, rfl, hx⟩ := exists_met_of_mem h hs
  refine hx.piece p ?_
  unfold Segment.piece? at hpiece
  grind

/-- Every directive of a parsed template is that of a tag in one of its files. -/
theorem tags_parse? {t : Template} (h : Template.parse? root source load = some t)
    {d : Directive} (hd : d ∈ t.directives) :
    ∃ name content inside, FileOf load root source name content ∧
      TagOf root name content inside d := by
  obtain ⟨s, hs, hdirective⟩ := List.mem_filterMap.1 hd
  obtain ⟨x, rfl, hx⟩ := exists_met_of_mem h hs
  refine hx.directive d ?_
  unfold Segment.directive? at hdirective
  grind

end TextTemplate.Expansion
