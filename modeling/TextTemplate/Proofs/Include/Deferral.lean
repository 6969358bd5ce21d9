/-
Where the segments of a parse end up. A parse meets segments one after the other, in the root file
and, in the place of include directives, in the files they name. In an included file the pieces from
its first helper tag on are put off; all other segments keep their place.

`segments_parse?`: the segments of a parsed template are those met that are not put off, in the
order they are met, and then those put off, in that order. Nothing is lost, doubled or moved
otherwise, also when a fault cuts the parse short in the middle of an included file.

The invariant of the machine is `Frame.Marked`: the flag that puts pieces off is set exactly when
the file is an included one and a helper tag is among its events read so far.

The sample at the end, and those of the modules above, run the parser with the equations of its
definitions down to strings and numbers. They are spread over all of Mathlib, which is why it is
imported whole.
-/
import Mathlib
import TextTemplate.Proofs.Include.Machine
import TextTemplate.Proofs.Template.Reports

namespace TextTemplate

/-! ## The shape of a file's events -/

/-- Whether a list of events opens and closes directive tags properly: inside a tag stand names and
values only, and outside there are none. -/
def WellTagged : (inside : Bool) → List Event → Prop
  | _, [] => True
  | false, e :: es =>
    match e.kind with
    | .directive => WellTagged true es
    | .directiveName | .directiveValue => False
    | _ => WellTagged false es
  | true, e :: es =>
    match e.kind with
    | .directiveName | .directiveValue => WellTagged true es
    | .directive => WellTagged false es
    | _ => False

namespace Reader

theorem Shift.wellTagged {inside inside' : Bool} {e : Event} {es : List Event}
    (h : Shift inside e.kind inside') (hes : WellTagged inside' es) :
    WellTagged inside (e :: es) := by
  generalize hkind : e.kind = kind at h
  cases h with
  | eof => simpa [WellTagged, hkind] using hes
  | piece hpiece => rcases hpiece with rfl | rfl | rfl | rfl <;> simpa [WellTagged, hkind] using hes
  | opening => simpa [WellTagged, hkind] using hes
  | part hpart => rcases hpart with rfl | rfl <;> simpa [WellTagged, hkind] using hes
  | closing => simpa [WellTagged, hkind] using hes

/-- **The events of a text open and close directive tags properly.** -/
theorem wellTagged_run (r : Reader) : WellTagged r.inDirective r.run.1 := by
  fun_induction run r with
  | case1 => cases inDirective _ <;> trivial
  | case2 => cases inDirective _ <;> trivial
  | case3 r hlive r' h events fault hrun ih =>
    rw [hrun] at ih
    exact (shift_advance hlive h).wellTagged ih

end Reader

theorem wellTagged_scan (file content : Text) : WellTagged false (scan file content).1 :=
  (Reader.ofFile file content).wellTagged_run

/-- Reading a directive tag takes up its names, values and closing, and no helper tag. -/
theorem Draft.read_eq_append {root : Text} {opened : Location} {d d' : Draft}
    {es rest : List Event} (hw : WellTagged true es) (h : read root opened d es = (d', some rest)) :
    ∃ tag, es = tag ++ rest ∧ (∀ e ∈ tag, e.kind ≠ .helper) ∧ WellTagged false rest := by
  induction es generalizing d with
  | nil => simp [read] at h
  | cons e es ih =>
    have keep : e.kind ≠ .helper → WellTagged true es →
        (∃ d₁, read root opened d₁ es = (d', some rest)) →
        ∃ tag, e :: es = tag ++ rest ∧ (∀ e ∈ tag, e.kind ≠ .helper) ∧ WellTagged false rest := by
      rintro hk hw ⟨d₁, h⟩
      obtain ⟨tag, rfl, ht, hr⟩ := ih hw h
      exact ⟨e :: tag, rfl, by simpa [hk] using ht, hr⟩
    unfold read at h
    cases hk : e.kind <;> simp only [WellTagged, hk] at hw h
    case directiveName => exact keep (by simp [hk]) hw ⟨_, h⟩
    case directiveValue => exact keep (by simp [hk]) hw ⟨_, h⟩
    case directive =>
      cases h
      exact ⟨[e], rfl, by simp [hk], hw⟩

namespace Expansion

/-! ## Kept and put off -/

/-- The segments met that keep their place. -/
def kept (log : List Met) : List Segment := (log.filter (!·.deferred)).map (·.segment)

/-- The segments met that are put off. -/
def putOff (log : List Met) : List Segment := (log.filter (·.deferred)).map (·.segment)

@[simp] theorem kept_append (log log' : List Met) : kept (log ++ log') = kept log ++ kept log' := by
  simp [kept]

@[simp] theorem putOff_append (log log' : List Met) :
    putOff (log ++ log') = putOff log ++ putOff log' := by
  simp [putOff]

/-- What is gathered grows by the segments met. -/
structure Grows (g : Gathered) (log : List Met) (g' : Gathered) : Prop where
  segments : g'.segments = g.segments ++ kept log
  deferred : g'.deferred = g.deferred ++ putOff log

theorem Grows.nil {g g' : Gathered} (hs : g'.segments = g.segments)
    (hd : g'.deferred = g.deferred) : Grows g [] g' :=
  ⟨by simp [hs, kept], by simp [hd, putOff]⟩

theorem Grows.trans {g g' g'' : Gathered} {log log' : List Met} (h : Grows g log g')
    (h' : Grows g' log' g'') : Grows g (log ++ log') g'' :=
  ⟨by simp [h'.segments, h.segments], by simp [h'.deferred, h.deferred]⟩

theorem grows_add (g : Gathered) (late included : Bool) (s : Segment) :
    Grows g [⟨s, included, late⟩] (g.add late s) := by
  cases late <;> constructor <;> simp [Gathered.add, kept, putOff]

/-- A decision about an include directive adds no segment. -/
theorem grows_includeStep (load : Option Loader) (root : Text) (d : Directive) (g : Gathered) :
    Grows g [] (includeStep load root d g).gathered := by
  have once : (g.complainOnce root d).segments = g.segments ∧
      (g.complainOnce root d).deferred = g.deferred := by
    unfold Gathered.complainOnce
    split <;> exact ⟨rfl, rfl⟩
  have visit : ∀ (g : Gathered) key, (g.visit key).segments = g.segments ∧
      (g.visit key).deferred = g.deferred := by
    intro g key
    unfold Gathered.visit
    split <;> exact ⟨rfl, rfl⟩
  unfold includeStep
  split
  · exact Grows.nil rfl rfl
  · unfold includeNamed
    simp only
    split
    · exact Grows.nil once.1 once.2
    · split
      · exact Grows.nil once.1 once.2
      · unfold includeFound
        split
        · exact Grows.nil once.1 once.2
        · split
          · exact Grows.nil ((visit _ _).1.trans once.1) ((visit _ _).2.trans once.2)
          · exact Grows.nil ((visit _ _).1.trans once.1) ((visit _ _).2.trans once.2)

/-! ## The flag of a file -/

/-- The flag of a file is set exactly when it is an included file and a helper tag is among its
events read so far; the events left open and close directive tags properly. -/
def Frame.Marked (f : Frame) : Prop :=
  ∃ before, f.all = before ++ f.rest ∧ WellTagged false f.rest ∧
    f.putOff = (f.imported && before.any (·.kind = .helper))

theorem Frame.marked_ofFile (name content : Text) (imported : Bool) :
    (Frame.ofFile name content imported).Marked :=
  ⟨[], rfl, wellTagged_scan name content, by simp [Frame.ofFile]⟩

theorem Frame.passed_eq {f : Frame} {before : List Event} (h : f.all = before ++ f.rest) :
    f.passed = before := by
  simp [passed, h]

/-- The flag stays right over a stretch of events without a helper tag. -/
theorem Frame.Marked.skip {f : Frame} {before rest : List Event} (stretch : List Event)
    (ha : f.all = before ++ f.rest) (hr : f.rest = stretch ++ rest)
    (hs : ∀ e ∈ stretch, e.kind ≠ .helper) (hw : WellTagged false rest)
    (hp : f.putOff = (f.imported && before.any (·.kind = .helper))) :
    Frame.Marked { f with rest := rest } := by
  refine ⟨before ++ stretch, by simp [ha, hr], hw, ?_⟩
  have hn : stretch.any (·.kind = .helper) = false := by simpa using hs
  simp only [List.any_append, hn, Bool.or_false, hp]

/-- What one move of a marked file does: it gathers the segment met, and leaves the file marked. -/
def Move.Keeps (root : Text) (f : Frame) (g : Gathered) : Move → Prop
  | .stop g' => Grows g (f.met root) g'
  | .advance late rest g' =>
    Grows g (f.met root) g' ∧ Frame.Marked { f with putOff := late, rest := rest }
  | .include _ rest g' => Grows g (f.met root) g' ∧ Frame.Marked { f with rest := rest }

/-- A piece that is no helper: put off when the file's flag is set. -/
theorem keeps_piece {root : Text} {f : Frame} {g : Gathered} {e : Event} {rest : List Event}
    {kind : PieceKind} (hf : f.Marked) (hr : f.rest = e :: rest)
    (hk : pieceKind? e.kind = some kind) (hh : e.kind ≠ .helper) (hw : WellTagged false rest) :
    Move.Keeps root f g (.advance f.putOff rest (g.addPiece f.putOff kind e)) := by
  obtain ⟨before, ha, -, hp⟩ := hf
  refine ⟨?_, Frame.Marked.skip [e] ha hr (by simpa using hh) hw hp⟩
  have hd : (f.imported && (before ++ [e]).any (·.kind = .helper)) = f.putOff := by
    simp [hp, hh]
  simp only [Frame.met, hr, hk, Frame.passed_eq ha, hd, Gathered.addPiece]
  by_cases he : e.value.isEmpty
  · simp only [he, if_true]
    exact Grows.nil rfl rfl
  · simp only [he, Bool.false_eq_true, if_false]
    exact grows_add g f.putOff f.imported _

/-- A helper tag, also an empty one, sets the flag of an included file. -/
theorem keeps_helper {root : Text} {f : Frame} {g : Gathered} {e : Event} {rest : List Event}
    (hf : f.Marked) (hr : f.rest = e :: rest) (hk : e.kind = .helper)
    (hw : WellTagged false rest) :
    Move.Keeps root f g (.advance f.imported rest (g.addPiece f.imported .helper e)) := by
  obtain ⟨before, ha, -, -⟩ := hf
  have hd : (f.imported && (before ++ [e]).any (·.kind = .helper)) = f.imported := by
    simp [hk]
  refine ⟨?_, before ++ [e], by simp [ha, hr], hw, hd.symm⟩
  simp only [Frame.met, hr, hk, pieceKind?, Frame.passed_eq ha, hd, Gathered.addPiece]
  by_cases he : e.value.isEmpty
  · simp only [he, if_true]
    exact Grows.nil rfl rfl
  · simp only [he, Bool.false_eq_true, if_false]
    exact grows_add g f.imported f.imported _

/-- A directive tag: its directive keeps its place, whatever the flag says. -/
theorem keeps_directive (root : Text) {f : Frame} (g : Gathered) {e : Event} {rest : List Event}
    (hf : f.Marked) (hr : f.rest = e :: rest) (hk : e.kind = .directive) :
    Move.Keeps root f g (nextMove root f.imported f.putOff f.rest g) := by
  obtain ⟨before, ha, hw, hp⟩ := hf
  have hmet : f.met root = metDirective f.imported (directiveOf? root e rest) := by
    simp [Frame.met, hr, hk, pieceKind?]
  simp only [nextMove, hr, hk]
  rcases hd : Draft.read root e.tagStart .empty rest with ⟨draft, _ | behind⟩
  · simp only [Move.Keeps, hmet, directiveOf?, hd, metDirective]
    exact Grows.nil rfl rfl
  · rw [hr] at hw
    simp only [WellTagged, hk] at hw
    obtain ⟨tag, rfl, ht, hb⟩ := Draft.read_eq_append hw hd
    have hm : Frame.Marked { f with rest := behind } :=
      Frame.Marked.skip (e :: tag) ha (by simp [hr]) (by simpa [hk] using ht) hb hp
    cases hdir : draft.directive with
    | none =>
      simp only [Move.Keeps, hmet, directiveOf?, hd, hdir, metDirective]
      exact ⟨Grows.nil rfl rfl, hm⟩
    | some d =>
      by_cases hi : d.is (utf8 "include")
      · simp only [Move.Keeps, hmet, directiveOf?, hd, hdir, metDirective, hi, if_true]
        exact ⟨Grows.nil rfl rfl, hm⟩
      · simp only [Move.Keeps, hmet, directiveOf?, hd, hdir, metDirective, hi, Bool.false_eq_true,
          if_false]
        have hn : Grows g [] (g.note draft) := Grows.nil rfl rfl
        exact ⟨hn.trans (grows_add (g.note draft) false f.imported _), hm⟩

/-- **One move of a file** gathers the segment met where it belongs. -/
theorem keeps_nextMove (root : Text) {f : Frame} (g : Gathered) (hf : f.Marked) :
    Move.Keeps root f g (nextMove root f.imported f.putOff f.rest g) := by
  cases hr : f.rest with
  | nil =>
    simp only [nextMove, Move.Keeps, Frame.met, hr]
    exact Grows.nil rfl rfl
  | cons e rest =>
    have hw : WellTagged false (e :: rest) := by
      obtain ⟨_, _, hw, _⟩ := hf
      rwa [hr] at hw
    cases hk : e.kind <;> simp only [WellTagged, hk] at hw
    case content =>
      simpa only [nextMove, hk] using keeps_piece hf hr (by simp [hk, pieceKind?]) (by simp [hk]) hw
    case expression =>
      simpa only [nextMove, hk] using keeps_piece hf hr (by simp [hk, pieceKind?]) (by simp [hk]) hw
    case block =>
      simpa only [nextMove, hk] using keeps_piece hf hr (by simp [hk, pieceKind?]) (by simp [hk]) hw
    case helper => simpa only [nextMove, hk] using keeps_helper hf hr hk hw
    case directive => simpa only [hr] using keeps_directive root g hf hr hk
    case eof =>
      obtain ⟨before, ha, _, hp⟩ := hf
      simp only [nextMove, hk, Move.Keeps, Frame.met, hr, pieceKind?]
      exact ⟨Grows.nil rfl rfl, Frame.Marked.skip [e] ha hr (by simp [hk]) hw hp⟩

/-! ## Steps and runs -/

/-- Every file being read is marked. -/
def Machine.Marked (m : Machine) : Prop := ∀ f ∈ m.top :: m.below, f.Marked

theorem Machine.marked_start (root source : Text) : (Machine.start root source).Marked := by
  intro f hf
  simp only [start, List.mem_singleton] at hf
  rw [hf]
  exact Frame.marked_ofFile root source false

/-- **One step** of the machine gathers the segment it meets, and keeps the files marked. -/
theorem Machine.Marked.step {load : Option Loader} {root : Text} {m m' : Machine}
    (hm : m.Marked) (h : m.step load root = some m') :
    m'.Marked ∧ Grows m.gathered (m.met root) m'.gathered := by
  have hbelow : ∀ f ∈ m.below, f.Marked := fun f hf => hm f (by simp [hf])
  have hk := keeps_nextMove root m.gathered (hm m.top (by simp))
  have stack : ∀ {f : Frame} {fs status g}, f.Marked → (∀ f ∈ fs, f.Marked) →
      Machine.Marked ⟨f, fs, status, g⟩ := fun hf hfs => List.forall_mem_cons.2 ⟨hf, hfs⟩
  cases step_cases h with
  | leave hs hb =>
    have hf := List.forall_mem_cons.1 (hb ▸ hbelow)
    refine ⟨stack hf.1 hf.2, ?_⟩
    simp only [met, hs]
    exact Grows.nil rfl rfl
  | stop hs hv =>
    rw [show nextMove root _ _ _ _ = _ from hv] at hk
    simp only [met, hs]
    exact ⟨hm, hk⟩
  | advance hs hv =>
    rw [show nextMove root _ _ _ _ = _ from hv] at hk
    simp only [met, hs]
    exact ⟨stack hk.2 hbelow, hk.1⟩
  | @skip d rest g g' hs hv hi =>
    rw [show nextMove root _ _ _ _ = _ from hv] at hk
    have hg := grows_includeStep load root d g
    rw [hi] at hg
    simp only [met, hs]
    exact ⟨stack hk.2 hbelow, by simpa [IncludeStep.gathered] using hk.1.trans hg⟩
  | @enter d rest g content resolved g' hs hv hi =>
    rw [show nextMove root _ _ _ _ = _ from hv] at hk
    have hg := grows_includeStep load root d g
    rw [hi] at hg
    have hp : Grows g' [] (g'.push resolved) := Grows.nil rfl rfl
    simp only [met, hs]
    exact ⟨stack (Frame.marked_ofFile resolved content true)
      (List.forall_mem_cons.2 ⟨hk.2, hbelow⟩), by
        simpa [IncludeStep.gathered] using (hk.1.trans hg).trans hp⟩

/-- A run gathers the segments it meets. -/
theorem Star.grows {load : Option Loader} {root : Text} {m m' : Machine} {log : List Met}
    (h : Star load root m log m') (hm : m.Marked) : Grows m.gathered log m'.gathered := by
  induction h with
  | refl => exact Grows.nil rfl rfl
  | cons hs _ ih =>
    obtain ⟨hm', hg⟩ := hm.step hs
    exact hg.trans (ih hm')

/-- Every helper segment of an included file is put off. -/
def HelpersLate (log : List Met) : Prop :=
  ∀ x ∈ log, ∀ p, x.segment = .piece p → p.kind = .helper → x.included = true → x.deferred = true

theorem helpersLate_met (root : Text) (m : Machine) : HelpersLate (m.met root) := by
  intro x hx p hp hkind hincluded
  cases Machine.metNext_of_mem hx with
  | @piece e _ kind hrest hpiece hvalue =>
    cases hp
    have hhelper : e.kind = .helper := by
      subst hkind
      cases h : e.kind <;> simp [h, pieceKind?] at hpiece ⊢
    have himported : m.top.imported = true := hincluded
    simp [himported, hhelper]
  | directive => cases hp

theorem Star.helpersLate {load : Option Loader} {root : Text} {m m' : Machine} {log : List Met}
    (h : Star load root m log m') : HelpersLate log := by
  obtain ⟨ms, -, rfl⟩ := h.course
  intro x hx
  obtain ⟨m, -, hx⟩ := List.mem_flatMap.1 hx
  exact helpersLate_met root m x hx

/-- The segments of what a run from the start has gathered. -/
theorem Star.segments {load : Option Loader} {root source : Text} {m : Machine} {log : List Met}
    (h : Star load root (.start root source) log m) (fault : Option ScanError) :
    (Template.ofExpansion root source (m.gathered, fault)).segments = kept log ++ putOff log := by
  have hgrows := h.grows (Machine.marked_start root source)
  have hkept : m.gathered.segments = kept log := hgrows.segments
  have hputOff : m.gathered.deferred = putOff log := hgrows.deferred
  cases fault <;> simp only [Template.ofExpansion, Gathered.error, hkept, hputOff]

/-- What a parse meets, from its start to its end. -/
def Meets (load : Option Loader) (root source : Text) (log : List Met) : Prop :=
  ∃ m fault, Star load root (.start root source) log m ∧ m.Halted fault

/-- **The segments of a parsed template** are the segments met that are not put off, in the order
they are met, followed by those put off, in the same order. What is met is determined by the root
file and the loader, and all helper segments of included files are among those put off. -/
theorem segments_parse? {load : Option Loader} {root source : Text} {t : Template}
    (h : Template.parse? root source load = some t) :
    ∃ log, Meets load root source log ∧ (∀ log', Meets load root source log' → log' = log) ∧
      t.segments = (log.filter (!·.deferred)).map (·.segment) ++
        (log.filter (·.deferred)).map (·.segment) ∧
      ∀ x ∈ log, ∀ p, x.segment = .piece p → p.kind = .helper → x.included = true →
        x.deferred = true := by
  obtain ⟨log, m, fault, hs, hh, rfl⟩ := star_of_parse? h
  refine ⟨log, ⟨m, fault, hs, hh⟩, ?_, hs.segments fault, hs.helpersLate⟩
  rintro log' ⟨m', fault', hs', hh'⟩
  exact (hs'.det hh' hs hh).1

/-- The file `h` has a helper tag and includes `k` behind it; `k` ends inside a tag. -/
def nestedFiles : Loader := fun requested _ =>
  if requested = utf8 "h" then some (utf8 "C<#+D#>E<#@ include file=\"k\" #>F", utf8 "h")
  else some (utf8 "G<#=", utf8 "k")

/-- The parse stops inside `k`, and what stands behind the helper tag of `h` comes last. -/
theorem segments_parse?_nested :
    ∃ (t : Template) (log : List Met),
      Template.parse? (utf8 "r") (utf8 "A<#@ include file=\"h\" #>B") nestedFiles = some t ∧
      t.pieces.map (·.text) = [utf8 "A", utf8 "C", utf8 "G", utf8 "D", utf8 "E"] ∧
      t.segments = (log.filter (!·.deferred)).map (·.segment) ++
        (log.filter (·.deferred)).map (·.segment) := by
  have hp : ((Template.parse? (utf8 "r") (utf8 "A<#@ include file=\"h\" #>B") nestedFiles).map
      fun t => t.pieces.map (·.text)) =
      some [utf8 "A", utf8 "C", utf8 "G", utf8 "D", utf8 "E"] := by cbv
  obtain ⟨t, ht, hpieces⟩ := Option.map_eq_some_iff.1 hp
  obtain ⟨log, -, -, hs, -⟩ := segments_parse? ht
  exact ⟨t, log, ht, hpieces, hs⟩

end Expansion
end TextTemplate
