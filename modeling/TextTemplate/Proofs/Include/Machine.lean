/-
The expansion of includes one move at a time: a machine that keeps the files being read on a stack,
each with the events still to be read. A step takes one move of the innermost file; where the move
is an include directive whose file is to be read, that file is put on the stack. A file at its end
is taken off, and a fault takes the others off with it. Every segment the parse meets is met in one
step (`Frame.MetNext`), so a run has a log of them; a `Course` keeps the machines it goes through.

`star_of_parse?`: whatever a parse returns is the end of a finite run of this machine.
-/
import TextTemplate.Template.Parsed

namespace TextTemplate.Expansion

/-- A file being read: its events, those still to be read, and the fault that cut them short. -/
structure Frame where
  name : Text
  imported : Bool
  putOff : Bool
  all : List Event
  rest : List Event
  fault : Option ScanError

namespace Frame

/-- A file at its start. -/
def ofFile (name content : Text) (imported : Bool) : Frame :=
  ⟨name, imported, false, (scan name content).1, (scan name content).1, (scan name content).2⟩

/-- The events read so far. -/
def passed (f : Frame) : List Event := f.all.take (f.all.length - f.rest.length)

end Frame

/-- The innermost file is being read, or it is at its end, with or without a fault. -/
inductive Status where
  | reading
  | ended (fault : Option ScanError)
  deriving DecidableEq

/-- How reading goes on in a file when one it includes is at its end. -/
def Status.resume : Option ScanError → Status
  | none => reading
  | some e => ended (some e)

/-- A parse under way: the innermost file, the files around it, and what is gathered. -/
structure Machine where
  top : Frame
  below : List Frame
  status : Status
  gathered : Gathered

namespace Machine

/-- The parse of a root file at its start. -/
def start (root source : Text) : Machine :=
  ⟨.ofFile root source false, [], .reading, .ofRoot root⟩

/-- The lower-cased names of the files being read, from the innermost to the root. -/
def openNames (m : Machine) : List Text := (m.top :: m.below).map (·.name.lower)

/-- The next move of the innermost file. -/
def move (root : Text) (m : Machine) : Move :=
  nextMove root m.top.imported m.top.putOff m.top.rest m.gathered

/-- Takes the innermost file off the stack. The root file stays. -/
def leave (m : Machine) (fault : Option ScanError) : Option Machine :=
  match m.below with
  | [] => none
  | f :: fs => some ⟨f, fs, .resume fault, m.gathered.pop m.top.name⟩

/-- One step, if the parse is not at its end. -/
def step (load : Option Loader) (root : Text) (m : Machine) : Option Machine :=
  match m.status with
  | .ended fault => m.leave fault
  | .reading =>
    match m.move root with
    | .stop g => some { m with status := .ended m.top.fault, gathered := g }
    | .advance putOff rest g =>
      some { m with top := { m.top with putOff := putOff, rest := rest }, gathered := g }
    | .include d rest g =>
      match includeStep load root d g with
      | .skip g => some { m with top := { m.top with rest := rest }, gathered := g }
      | .enter content resolved g =>
        some ⟨.ofFile resolved content true, { m.top with rest := rest } :: m.below, .reading,
          g.push resolved⟩

/-- What a step can do. -/
inductive Step (load : Option Loader) (root : Text) (m : Machine) : Machine → Prop
  | leave {fault f fs} (hs : m.status = .ended fault) (hb : m.below = f :: fs) :
    Step load root m ⟨f, fs, .resume fault, m.gathered.pop m.top.name⟩
  | stop {g} (hs : m.status = .reading) (hm : m.move root = .stop g) :
    Step load root m { m with status := .ended m.top.fault, gathered := g }
  | advance {putOff rest g} (hs : m.status = .reading) (hm : m.move root = .advance putOff rest g) :
    Step load root m { m with top := { m.top with putOff := putOff, rest := rest }, gathered := g }
  | skip {d rest g g'} (hs : m.status = .reading) (hm : m.move root = .include d rest g)
      (hi : includeStep load root d g = .skip g') :
    Step load root m { m with top := { m.top with rest := rest }, gathered := g' }
  | enter {d rest g content resolved g'} (hs : m.status = .reading)
      (hm : m.move root = .include d rest g)
      (hi : includeStep load root d g = .enter content resolved g') :
    Step load root m ⟨.ofFile resolved content true, { m.top with rest := rest } :: m.below,
      .reading, g'.push resolved⟩

theorem step_cases {load : Option Loader} {root : Text} {m m' : Machine}
    (h : m.step load root = some m') : Step load root m m' := by
  unfold step at h
  split at h
  · rename_i fault hs
    unfold leave at h
    split at h
    · cases h
    · rename_i hb
      cases h
      exact .leave hs hb
  · rename_i hs
    split at h
    · rename_i hm
      cases h
      exact .stop hs hm
    · rename_i hm
      cases h
      exact .advance hs hm
    · rename_i hm
      split at h
      · rename_i hi
        cases h
        exact .skip hs hm hi
      · rename_i hi
        cases h
        exact .enter hs hm hi

end Machine

/-! ## What is met -/

/-- A segment as the parse meets it: whether it stands in an included file, and whether it is put
off. -/
structure Met where
  segment : Segment
  included : Bool
  deferred : Bool

/-- The kind of piece an event reports, if it reports one. -/
def pieceKind? : EventKind → Option PieceKind
  | .content => some .content
  | .expression => some .expression
  | .block => some .block
  | .helper => some .helper
  | _ => none

/-- The directive of the tag that an event opens, if the tag closes and has a name. -/
def directiveOf? (root : Text) (e : Event) (rest : List Event) : Option Directive :=
  match Draft.read root e.tagStart .empty rest with
  | (draft, some _) => draft.directive
  | (_, none) => none

/-- A directive as it is met; an include directive is no segment. -/
def metDirective (included : Bool) : Option Directive → List Met
  | some d => if d.is (utf8 "include") then [] else [⟨.directive d, included, false⟩]
  | none => []

/-- The segment the next event of a file stands for, if any. A piece of an included file is put off
when a helper tag stands at or before it in the file; a directive never is. -/
def Frame.met (root : Text) (f : Frame) : List Met :=
  match f.rest with
  | [] => []
  | e :: rest =>
    match pieceKind? e.kind with
    | some kind =>
      if e.value.isEmpty then []
      else [⟨.piece ⟨kind, e.value, ⟨e.location, e.tagEnd, e.tagStart⟩⟩, f.imported,
        f.imported && (f.passed ++ [e]).any (·.kind = .helper)⟩]
    | none =>
      if e.kind = .directive then metDirective f.imported (directiveOf? root e rest) else []

/-- The segment a step of the machine meets, if any. -/
def Machine.met (root : Text) (m : Machine) : List Met :=
  match m.status with
  | .reading => m.top.met root
  | .ended _ => []

/-- What a file meets next: the piece that its next event reports, or the directive of its next tag.
-/
inductive Frame.MetNext (root : Text) (f : Frame) : Met → Prop where
  | piece {e : Event} {rest : List Event} {kind : PieceKind} (hrest : f.rest = e :: rest)
      (hkind : pieceKind? e.kind = some kind) (hvalue : e.value ≠ []) :
      f.MetNext root ⟨.piece ⟨kind, e.value, ⟨e.location, e.tagEnd, e.tagStart⟩⟩, f.imported,
        f.imported && (f.passed ++ [e]).any (·.kind = .helper)⟩
  | directive {e : Event} {rest : List Event} {d : Directive} (hrest : f.rest = e :: rest)
      (hkind : e.kind = .directive) (hdirective : directiveOf? root e rest = some d)
      (hother : d.is (utf8 "include") = false) : f.MetNext root ⟨.directive d, f.imported, false⟩

theorem Frame.metNext_of_mem {root : Text} {f : Frame} {x : Met} (hx : x ∈ f.met root) :
    f.MetNext root x := by
  unfold met at hx
  split at hx
  · cases hx
  · next e rest hrest =>
    split at hx
    · next kind hkind =>
      split at hx
      · cases hx
      · next hvalue =>
        rw [List.mem_singleton] at hx
        subst hx
        exact .piece hrest hkind (by simpa using hvalue)
    · split at hx
      · next hkind =>
        unfold metDirective at hx
        split at hx
        · next d hdirective =>
          split at hx
          · cases hx
          · next hother =>
            rw [List.mem_singleton] at hx
            subst hx
            exact .directive hrest hkind hdirective (by simpa using hother)
        · cases hx
      · cases hx

/-- What a machine meets, its innermost file does. -/
theorem Machine.metNext_of_mem {root : Text} {m : Machine} {x : Met} (hx : x ∈ m.met root) :
    m.top.MetNext root x := by
  unfold met at hx
  split at hx
  · exact Frame.metNext_of_mem hx
  · cases hx

/-! ## Runs -/

/-- Zero or more steps, with the segments they meet in order. -/
inductive Star (load : Option Loader) (root : Text) : Machine → List Met → Machine → Prop
  | refl {m : Machine} : Star load root m [] m
  | cons {m m' m'' : Machine} {log : List Met} (h : m.step load root = some m')
      (hs : Star load root m' log m'') : Star load root m (m.met root ++ log) m''

/-- A machine at the end of its run: the root file is at its end. -/
def Machine.Halted (m : Machine) (fault : Option ScanError) : Prop :=
  m.status = .ended fault ∧ m.below = []

variable {load : Option Loader} {root : Text}

theorem Star.one {m m' : Machine} (h : m.step load root = some m') :
    Star load root m (m.met root) m' := by
  simpa using Star.cons h .refl

theorem Star.trans {m m' m'' : Machine} {log log' : List Met} (h : Star load root m log m')
    (h' : Star load root m' log' m'') : Star load root m (log ++ log') m'' := by
  induction h with
  | refl => exact h'
  | cons hs _ ih =>
    rw [List.append_assoc]
    exact .cons hs (ih h')

theorem Machine.Halted.step_eq_none {m : Machine} {fault : Option ScanError} (h : m.Halted fault) :
    m.step load root = none := by
  simp only [step, h.1, leave, h.2]

/-- Zero or more steps, with the machines the steps are taken from. -/
inductive Course (load : Option Loader) (root : Text) : Machine → List Machine → Machine → Prop
  | refl {m : Machine} : Course load root m [] m
  | cons {m m' m'' : Machine} {ms : List Machine} (h : m.step load root = some m')
      (hs : Course load root m' ms m'') : Course load root m (m :: ms) m''

/-- What a run meets is met at its machines. -/
theorem Star.course {m m' : Machine} {log : List Met} (h : Star load root m log m') :
    ∃ ms, Course load root m ms m' ∧ log = ms.flatMap (·.met root) := by
  induction h with
  | refl => exact ⟨[], .refl, rfl⟩
  | @cons m _ _ _ h _ ih =>
    obtain ⟨ms, hms, rfl⟩ := ih
    exact ⟨m :: ms, .cons h hms, rfl⟩

/-- An invariant of the steps holds at all machines of a run. -/
theorem Course.forall_mem {P : Machine → Prop}
    (hstep : ∀ m m', P m → m.step load root = some m' → P m') {m m' : Machine} {ms : List Machine}
    (h : Course load root m ms m') (hm : P m) : ∀ x ∈ ms, P x := by
  induction h with
  | refl => simp
  | cons h _ ih => exact List.forall_mem_cons.2 ⟨hm, ih (hstep _ _ hm h)⟩

/-- A run to the end is the only one: its machines and its last state are determined. -/
theorem Course.det {m m₁ m₂ : Machine} {ms₁ ms₂ : List Machine} {f₁ f₂ : Option ScanError}
    (h₁ : Course load root m ms₁ m₁) (e₁ : m₁.Halted f₁) (h₂ : Course load root m ms₂ m₂)
    (e₂ : m₂.Halted f₂) : ms₁ = ms₂ ∧ m₁ = m₂ := by
  induction h₁ generalizing ms₂ with
  | refl =>
    cases h₂ with
    | refl => exact ⟨rfl, rfl⟩
    | cons h _ => rw [e₁.step_eq_none] at h; cases h
  | cons h _ ih =>
    cases h₂ with
    | refl => rw [e₂.step_eq_none] at h; cases h
    | cons h' hs' =>
      rw [h] at h'
      cases h'
      obtain ⟨rfl, rfl⟩ := ih e₁ hs'
      exact ⟨rfl, rfl⟩

/-- What a run to the end meets is determined, too. -/
theorem Star.det {m m₁ m₂ : Machine} {log₁ log₂ : List Met} {f₁ f₂ : Option ScanError}
    (h₁ : Star load root m log₁ m₁) (e₁ : m₁.Halted f₁) (h₂ : Star load root m log₂ m₂)
    (e₂ : m₂.Halted f₂) : log₁ = log₂ ∧ m₁ = m₂ := by
  obtain ⟨ms₁, hms₁, rfl⟩ := h₁.course
  obtain ⟨ms₂, hms₂, rfl⟩ := h₂.course
  obtain ⟨rfl, rfl⟩ := hms₁.det e₁ hms₂ e₂
  exact ⟨rfl, rfl⟩

/-! ## What a parse returns -/

/-- The machine reads the innermost file to its end. -/
def Reads (load : Option Loader) (root : Text) (m : Machine) (g : Gathered)
    (fault : Option ScanError) : Prop :=
  ∃ log top, Star load root m log ⟨top, m.below, .ended fault, g⟩ ∧ top.name = m.top.name

theorem Reads.cons {m m' : Machine} {log : List Met} {g : Gathered} {fault : Option ScanError}
    (hs : Star load root m log m') (hb : m'.below = m.below) (hn : m'.top.name = m.top.name)
    (h : Reads load root m' g fault) : Reads load root m g fault := by
  obtain ⟨log', top, h', hn'⟩ := h
  rw [hb] at h'
  exact ⟨_, top, hs.trans h', hn'.trans hn⟩

/-- Behind an include directive: the step onto the file it names, and the reading of that file. -/
def Included (load : Option Loader) (root : Text) (d : Directive) (g g' : Gathered)
    (fault : Option ScanError) : Prop :=
  (includeStep load root d g = .skip g' ∧ fault = none) ∨
  ∃ content resolved g₁ g₂, includeStep load root d g = .enter content resolved g₁ ∧
    (∀ below, Reads load root ⟨.ofFile resolved content true, below, .reading, g₁.push resolved⟩
      g₂ fault) ∧
    g' = g₂.pop resolved

/-- The steps of an include directive. -/
theorem Included.star {m : Machine} {d : Directive} {rest : List Event} {g g' : Gathered}
    {fault : Option ScanError} (hr : m.status = .reading) (hm : m.move root = .include d rest g)
    (h : Included load root d g g' fault) :
    ∃ log, Star load root m log ⟨{ m.top with rest := rest }, m.below, .resume fault, g'⟩ := by
  rcases h with ⟨hs, rfl⟩ | ⟨content, resolved, g₁, g₂, hs, hread, rfl⟩
  · refine ⟨_, Star.one ?_⟩
    simp only [Machine.step, hr, hm, hs, Status.resume]
  · obtain ⟨log, top, hstar, hn⟩ := hread ({ m.top with rest := rest } :: m.below)
    refine ⟨_, Star.cons ?_ (hstar.trans (Star.one ?_))⟩
    · simp only [Machine.step, hr, hm, hs]
    · simp only [Machine.step, Machine.leave, hn, Frame.ofFile]

/-- Whatever an expansion returns, the machine reads the file to the same end. -/
theorem reads_of_expand? (load : Option Loader) (root : Text) :
    (∀ file g r, expand? load root file g = some r → ∀ name all below, Reads load root
      ⟨⟨name, file.imported, file.putOff, all, file.events, file.fault⟩, below, .reading, g⟩
        r.1 r.2) ∧
    (∀ d g r, include? load root d g = some r → Included load root d g r.1 r.2) := by
  refine expand?.mutual_partial_correctness load root
    (fun file g r => ∀ name all below, Reads load root
      ⟨⟨name, file.imported, file.putOff, all, file.events, file.fault⟩, below, .reading, g⟩
        r.1 r.2)
    (fun d g r => Included load root d g r.1 r.2) ?_ ?_
  · intro expand include_ ihe ihi file g r h name all below
    split at h
    · rename_i g' hm
      cases h
      exact ⟨_, _, Star.one (by simp only [Machine.step, Machine.move, hm]), rfl⟩
    · rename_i putOff rest g' hm
      have hs : Machine.step load root
          ⟨⟨name, file.imported, file.putOff, all, file.events, file.fault⟩, below, .reading, g⟩ =
          some ⟨⟨name, file.imported, putOff, all, rest, file.fault⟩, below, .reading, g'⟩ := by
        simp only [Machine.step, Machine.move, hm]
      exact Reads.cons (Star.one hs) rfl rfl (ihe _ _ _ h name all below)
    · rename_i d rest' g' hm
      simp only [Option.bind_eq_bind, Option.bind_eq_some_iff] at h
      obtain ⟨⟨g'', fault'⟩, hi, h⟩ := h
      obtain ⟨log, hs⟩ := (ihi _ _ _ hi).star
        (m := ⟨⟨name, file.imported, file.putOff, all, file.events, file.fault⟩, below, .reading,
          g⟩) rfl hm
      cases fault' with
      | some e =>
        cases h
        exact ⟨_, _, hs, rfl⟩
      | none => exact Reads.cons hs rfl rfl (ihe _ _ _ h name all below)
  · intro expand ihe d g r h
    split at h
    · rename_i g' hs
      cases h
      exact .inl ⟨hs, rfl⟩
    · rename_i content resolved g' hs
      simp only [Option.bind_eq_bind, Option.bind_eq_some_iff, Option.some.injEq] at h
      obtain ⟨⟨g'', fault'⟩, he, rfl⟩ := h
      exact .inr ⟨content, resolved, g', g'', hs, fun below => ihe _ _ _ he _ _ below, rfl⟩

/-- **Whatever a parse returns is the end of a run**: the machine, started on the root file, halts,
and the template is that of what it has gathered. -/
theorem star_of_parse? {source : Text} {t : Template}
    (h : Template.parse? root source load = some t) :
    ∃ log m fault, Star load root (.start root source) log m ∧ m.Halted fault ∧
      t = .ofExpansion root source (m.gathered, fault) := by
  simp only [Template.parse?, Option.map_eq_some_iff] at h
  obtain ⟨⟨g, fault⟩, he, rfl⟩ := h
  obtain ⟨log, top, hs, -⟩ := (reads_of_expand? load root).1 _ _ _ he root
    (scan root source).1 []
  exact ⟨log, _, fault, hs, ⟨rfl, rfl⟩, rfl⟩

end TextTemplate.Expansion
