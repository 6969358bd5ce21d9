/-
What trails a template. Behind the first helper tag of an included file the pieces of that file are
put off. The mark is the file's own: a file included behind the tag starts without one, and until a
helper tag of its own its pieces keep their place, although the file around it is past a helper tag.

A `Sight` is a segment as it is met, with what has been read by then of every open file.
`parse?_trails` tells which sights trail, and exactly when all that is met behind a helper tag of an
included file, in the file or in a file it includes, to any depth, does.
-/
import TextTemplate.Proofs.Include.Origin

namespace TextTemplate.Expansion

variable {load : Option Loader} {root source : Text}

/-! ## Sights -/

/-- An open file, with its events read so far. -/
structure OpenFile where
  name : Text
  imported : Bool
  read : List Event

/-- Whether an open file is an included one and a helper tag of it has been read. -/
def OpenFile.pastHelper (f : OpenFile) : Bool := f.imported && f.read.any (·.kind = .helper)

/-- A segment as it is met: its file, with the event that reports it among those read, and the files
around, from the innermost to the root. -/
structure Sight where
  segment : Segment
  file : OpenFile
  around : List OpenFile

namespace Sight

/-- Whether a helper tag is read of an included file that is open. -/
def behindHelper (x : Sight) : Bool := x.file.pastHelper || x.around.any (·.pastHelper)

/-- Whether the segment is a piece that stands at or behind a helper tag of its own file. -/
def trails (x : Sight) : Bool := x.segment.piece?.isSome && x.file.pastHelper

end Sight

/-- The file up to its next event, and with it. -/
def Frame.atNext (f : Frame) : OpenFile := ⟨f.name, f.imported, f.passed ++ f.rest.take 1⟩

/-- The file up to its next event. -/
def Frame.soFar (f : Frame) : OpenFile := ⟨f.name, f.imported, f.passed⟩

/-- The sight of what a machine meets. -/
def Machine.sight (m : Machine) (x : Met) : Sight :=
  ⟨x.segment, m.top.atNext, m.below.map (·.soFar)⟩

/-- What a machine meets, as sights. -/
def Machine.sights (root : Text) (m : Machine) : List Sight := (m.met root).map m.sight

/-- What a parse sees, from its start to its end. -/
def Sees (load : Option Loader) (root source : Text) (sights : List Sight) : Prop :=
  ∃ ms m fault, Course load root (.start root source) ms m ∧ m.Halted fault ∧
    sights = ms.flatMap (·.sights root)

/-- What is put off is what trails. -/
theorem Machine.trails_sight {m : Machine} {x : Met} (hx : x ∈ m.met root) :
    (m.sight x).trails = x.deferred := by
  cases metNext_of_mem hx with
  | piece hrest =>
    simp [sight, Sight.trails, Segment.piece?, OpenFile.pastHelper, Frame.atNext, hrest]
  | directive => rfl

/-- The sights that trail, and those that do not, are those of what is put off and what is not. -/
theorem filter_sights (root : Text) (ms : List Machine) (late : Bool) :
    ((ms.flatMap (·.sights root)).filter (·.trails == late)).map (·.segment) =
      ((ms.flatMap (·.met root)).filter (·.deferred == late)).map (·.segment) := by
  induction ms with
  | nil => rfl
  | cons m ms ih =>
    have hfilter : (m.met root).filter ((·.trails == late) ∘ m.sight) =
        (m.met root).filter (·.deferred == late) :=
      List.filter_congr fun x hx => by
        simp only [Function.comp_apply, Machine.trails_sight hx]
    simp only [List.flatMap_cons, List.filter_append, List.map_append, ih]
    simp only [Machine.sights, List.filter_map, hfilter, List.map_map]
    rfl

/-! ## The open files -/

/-- The outermost file is the only one that is no included file. -/
def Machine.Rooted (m : Machine) : Prop :=
  (m.top :: m.below).map (·.imported) = List.replicate m.below.length true ++ [false]

theorem Machine.Rooted.step {m m' : Machine} (hm : m.Rooted) (h : m.step load root = some m') :
    m'.Rooted := by
  unfold Rooted at hm ⊢
  cases step_cases h with
  | leave hs hb =>
    rw [hb] at hm
    exact (List.cons.inj hm).2
  | stop hs hv => exact hm
  | advance hs hv => exact hm
  | skip hs hv hi => exact hm
  | enter hs hv hi => exact congrArg (true :: ·) hm

/-- No piece of the root file trails. -/
theorem Machine.Rooted.trails_eq_false {m : Machine} (hm : m.Rooted) {x : Sight}
    (hx : x ∈ m.sights root) (haround : x.around = []) : x.trails = false := by
  obtain ⟨y, -, rfl⟩ := List.mem_map.1 hx
  have hbelow : m.below = [] := by simpa [sight] using haround
  have htop : m.top.imported = false := by simpa [Rooted, hbelow] using hm
  simp [sight, Sight.trails, OpenFile.pastHelper, Frame.atNext, htop]

/-- What is read of an open file is the start of what the scan of its text reports. -/
theorem Machine.Sourced.read {m : Machine} (hm : m.Sourced load root source) {x : Sight}
    (hx : x ∈ m.sights root) {f : OpenFile} (hf : f ∈ x.file :: x.around) :
    ∃ content, FileOf load root source f.name content ∧ f.read <+: (scan f.name content).1 := by
  obtain ⟨y, -, rfl⟩ := List.mem_map.1 hx
  rcases List.mem_cons.1 hf with rfl | hf
  · obtain ⟨content, hfile, hall, before, hbefore⟩ := hm m.top List.mem_cons_self
    refine ⟨content, hfile, m.top.rest.drop 1, ?_⟩
    simp only [sight, Frame.atNext, Frame.passed_eq hbefore.symm, ← hall, ← hbefore,
      List.append_assoc, List.take_append_drop]
  · obtain ⟨g, hg, rfl⟩ := List.mem_map.1 hf
    obtain ⟨content, hfile, hall, before, hbefore⟩ := hm g (List.mem_cons_of_mem _ hg)
    refine ⟨content, hfile, g.rest, ?_⟩
    simp only [Frame.soFar, Frame.passed_eq hbefore.symm, ← hall, ← hbefore]

/-! ## What a parse returns -/

/-- **What trails a template**: what a parse sees is told by the root file and the loader, and every
open file of it is one of the parse's, read up to there. The segments are those that do not trail
and, behind them, those that do, each in the order they are seen. So whatever trails stands behind
the root file, of which nothing does. All pieces seen behind a helper tag of an open included file
trail exactly if those of the files included behind one stand behind one of their own file, too. -/
theorem parse?_trails {t : Template} (h : Template.parse? root source load = some t) :
    ∃ sights, Sees load root source sights ∧
      (∀ sights', Sees load root source sights' → sights' = sights) ∧
      (∀ x ∈ sights, ∀ f ∈ x.file :: x.around, ∃ content,
        FileOf load root source f.name content ∧ f.read <+: (scan f.name content).1) ∧
      t.segments = (sights.filter (!·.trails)).map (·.segment) ++
        (sights.filter (·.trails)).map (·.segment) ∧
      (∀ x ∈ sights, x.around = [] → x.trails = false) ∧
      ((∀ x ∈ sights, x.segment.piece?.isSome → x.behindHelper → x.trails) ↔
        ∀ x ∈ sights, x.segment.piece?.isSome → (∃ f ∈ x.around, f.pastHelper) →
          x.file.pastHelper) := by
  obtain ⟨log, m, fault, hstar, hhalted, rfl⟩ := star_of_parse? h
  have hall := hstar.segments fault
  obtain ⟨ms, hcourse, rfl⟩ := hstar.course
  refine ⟨_, ⟨ms, m, fault, hcourse, hhalted, rfl⟩, ?_, ?_, ?_, ?_, ?_⟩
  · rintro sights' ⟨ms', m', fault', hcourse', hhalted', rfl⟩
    rw [(hcourse'.det hhalted' hcourse hhalted).1]
  · intro x hx
    obtain ⟨m', hm', hx⟩ := List.mem_flatMap.1 hx
    have hsourced : m'.Sourced load root source := hcourse.forall_mem (fun _ _ hm => hm.step)
      (Machine.sourced_start load root source) m' hm'
    exact fun f hf => hsourced.read hx hf
  · have hfront := filter_sights root ms false
    have htail := filter_sights root ms true
    simp only [beq_false, beq_true] at hfront htail
    rw [hfront, htail, hall]
    rfl
  · intro x hx haround
    obtain ⟨m', hm', hx⟩ := List.mem_flatMap.1 hx
    have hstart : (Machine.start root source).Rooted := rfl
    have hrooted : m'.Rooted := hcourse.forall_mem (fun _ _ hm => hm.step) hstart m' hm'
    exact hrooted.trails_eq_false hx haround
  · constructor
    · intro hlaw x hx hpiece haround
      have htrails := hlaw x hx hpiece (by simp [Sight.behindHelper, List.any_eq_true, haround])
      simpa [Sight.trails, hpiece] using htrails
    · intro hown x hx hpiece hbehind
      simp only [Sight.behindHelper, Bool.or_eq_true, List.any_eq_true] at hbehind
      simpa [Sight.trails, hpiece] using hbehind.elim id (hown x hx hpiece)

/-- The file `h` includes `k` behind its helper tag; `k` has none. -/
def behindFiles : Loader := fun requested _ =>
  if requested = utf8 "h" then some (utf8 "<#+D#><#@ include file=\"k\" #>", utf8 "h")
  else some (utf8 "G", utf8 "k")

/-- The piece of `k` is seen behind the helper tag of `h`, and stands in front of the root file's. -/
theorem parse?_trails_behind :
    ∃ t sights, Template.parse? (utf8 "r") (utf8 "<#@ include file=\"h\" #>B") behindFiles = some t ∧
      t.pieces.map (·.text) = [utf8 "G", utf8 "B", utf8 "D"] ∧
      Sees behindFiles (utf8 "r") (utf8 "<#@ include file=\"h\" #>B") sights ∧
      t.segments = (sights.filter (!·.trails)).map (·.segment) ++
        (sights.filter (·.trails)).map (·.segment) := by
  have hparse : ((Template.parse? (utf8 "r") (utf8 "<#@ include file=\"h\" #>B") behindFiles).map
      fun t => t.pieces.map (·.text)) = some [utf8 "G", utf8 "B", utf8 "D"] := by cbv
  obtain ⟨t, ht, hpieces⟩ := Option.map_eq_some_iff.1 hparse
  obtain ⟨sights, hsees, -, -, hsegments, -⟩ := parse?_trails ht
  exact ⟨t, sights, ht, hpieces, hsees, hsegments⟩

end TextTemplate.Expansion
