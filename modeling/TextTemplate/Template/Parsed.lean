/-
Parsing a template together with everything it includes.

The events of a file become segments; an include directive is replaced by the segments of the file
it names. Behind the first helper tag of an included file its pieces are put off to the end of the
template. A file is not opened again while it is being read, so the files that are open at one time
have different names, and when a source of includes answers with finitely many names the expansion
ends (`expand?_isSome`): `Includes.closed` counts the names that are not open. Any other source may
lead into ever new files; `Template.parse?` has no answer then.
-/
import TextTemplate.Diagnostic
import TextTemplate.Template.Scan
import TextTemplate.Template.Segment

namespace TextTemplate

/-- Gives the text of a requested file and the name it is known by, if there is one; the file that
asks is known. -/
abbrev Loader := (requested from_ : Text) → Option (Text × Text)

/-- Whether a list holds every lower-cased name a loader answers with. -/
def Loader.NamedBy (load : Loader) (names : List Text) : Prop :=
  ∀ {requested from_ content resolved : Text},
    load requested from_ = some (content, resolved) → resolved.lower ∈ names

/-- Where included files come from. Whatever is requested, only finitely many lower-cased names are
answered with. -/
structure Includes where
  load : Loader
  finite : ∃ names : List Text, load.NamedBy names

namespace Includes

/-- The includes of a table from requested name to text and resolved name. -/
def ofTable (table : List (Text × Text × Text)) : Includes where
  load requested _ := (table.find? (·.1 == requested)).map (·.2)
  finite := by
    refine ⟨table.map (·.2.2.lower), ?_⟩
    intro requested from_ content resolved h
    simp only [Option.map_eq_some_iff] at h
    obtain ⟨entry, he, hr⟩ := h
    exact List.mem_map.2 ⟨entry, List.mem_of_find?_eq_some he, by rw [hr]⟩

/-- How many names are not open. -/
def closed (names opened : List Text) : Nat := names.countP (!opened.contains ·)

theorem closed_cons_le (names opened : List Text) (key : Text) :
    closed names (key :: opened) ≤ closed names opened := by
  apply List.countP_mono_left
  intro x _ hx
  simp only [List.contains_cons, Bool.not_or, Bool.and_eq_true] at hx
  exact hx.2

/-- Opening a name of the list leaves fewer that are not open. -/
theorem closed_cons_lt {names opened : List Text} {key : Text} (hk : key ∈ names)
    (ho : key ∉ opened) : closed names (key :: opened) < closed names opened := by
  induction names with
  | nil => simp at hk
  | cons n ns ih =>
    have hle := closed_cons_le ns opened key
    simp only [closed, List.countP_cons] at ih hle ⊢
    by_cases hn : n = key
    · subst hn
      simp [ho] at hle ⊢
      omega
    · have := ih ((List.mem_cons.1 hk).resolve_left (Ne.symm hn))
      simp only [List.contains_cons, beq_eq_false_iff_ne.2 hn, Bool.false_or] at this ⊢
      split <;> simp_all

end Includes

/-! ## Directives out of events -/

/-- A directive tag while its names and values are read. -/
structure Draft where
  directive : Option Directive
  pending : Option (Text × Location)
  diagnostics : Diagnostics

namespace Draft

def empty : Draft := ⟨none, none, []⟩

def error (d : Draft) (root text : Text) (l : Location) : Draft :=
  { d with diagnostics := d.diagnostics ++ [.atLocation l root text false] }

/-- Reports a name that is still without a value. -/
def flush (d : Draft) (root : Text) : Draft :=
  match d.pending with
  | none => d
  | some (name, l) =>
    { d.error root (utf8 "Attribute '" ++ name ++ utf8 "' has no value") l with pending := none }

/-- Takes up a name: that of the directive first, then those of attributes. -/
def name (d : Draft) (root : Text) (e : Event) : Draft :=
  match d.directive with
  | none => { d with directive := some ⟨e.value, .empty, ⟨e.location, e.location, e.tagStart⟩⟩ }
  | some _ => { d.flush root with pending := some (e.value, e.location) }

/-- Takes up a value, which belongs to the name before it. -/
def value (d : Draft) (root : Text) (e : Event) : Draft :=
  match d.directive, d.pending with
  | some dir, some (name, _) =>
    { d with
      directive := some { dir with attributes := dir.attributes.set name e.value }
      pending := none }
  | _, _ => d.error root (utf8 "Directive value without name") e.location

/-- Ends the directive at the closing of its tag. -/
def close (d : Draft) (root : Text) (opened : Location) (e : Event) : Draft :=
  let d := d.flush root
  match d.directive with
  | none => d.error root (utf8 "Directive has no name") opened
  | some dir => { d with directive := some { dir with span := { dir.span with stop := e.tagEnd } } }

/-- Reads the events of a directive tag opened at `opened`. The events behind its closing come
with the draft, or nothing when the events end before it. -/
def read (root : Text) (opened : Location) : Draft → List Event → Draft × Option (List Event)
  | d, [] => (d, none)
  | d, e :: es =>
    match e.kind with
    | .directiveName => read root opened (d.name root e) es
    | .directiveValue => read root opened (d.value root e) es
    | _ => (d.close root opened e, some es)

theorem length_read_lt {root : Text} {opened : Location} {d d' : Draft} {es rest : List Event}
    (h : read root opened d es = (d', some rest)) : rest.length < es.length := by
  induction es generalizing d with
  | nil => simp [read] at h
  | cons e es ih =>
    unfold read at h
    split at h
    · exact Nat.lt_succ_of_lt (ih h)
    · exact Nat.lt_succ_of_lt (ih h)
    · simp only [Prod.mk.injEq, Option.some.injEq] at h
      obtain ⟨_, rfl⟩ := h
      exact Nat.lt_succ_self _

end Draft

/-! ## Include requests -/

/-- What a parse has gathered so far: the segments, those put off to the end, the diagnostics, the
lower-cased names of the files included and, innermost first, of the files being read, and the
requests made. -/
structure Gathered where
  segments : List Segment
  deferred : List Segment
  diagnostics : Diagnostics
  visited : List Text
  active : List Text
  requests : List (Text × Text)

namespace Gathered

/-- Nothing is gathered yet, and the root file is being read. -/
def ofRoot (root : Text) : Gathered := ⟨[], [], [], [], [root.lower], []⟩

def error (g : Gathered) (root text : Text) (l : Location) : Gathered :=
  { g with diagnostics := g.diagnostics ++ [.atLocation l root text false] }

/-- Takes over the diagnostics of a directive tag. -/
def note (g : Gathered) (draft : Draft) : Gathered :=
  { g with diagnostics := g.diagnostics ++ draft.diagnostics }

/-- Adds a segment, behind all others when it is put off. -/
def add (g : Gathered) (putOff : Bool) (s : Segment) : Gathered :=
  if putOff then { g with deferred := g.deferred ++ [s] }
  else { g with segments := g.segments ++ [s] }

/-- Adds the piece an event reports; an empty one is dropped. -/
def addPiece (g : Gathered) (putOff : Bool) (kind : PieceKind) (e : Event) : Gathered :=
  if e.value.isEmpty then g
  else g.add putOff (.piece ⟨kind, e.value, ⟨e.location, e.tagEnd, e.tagStart⟩⟩)

/-- Remembers that a file is being read. -/
def push (g : Gathered) (name : Text) : Gathered := { g with active := name.lower :: g.active }

/-- Forgets one reading of a file. -/
def pop (g : Gathered) (name : Text) : Gathered := { g with active := g.active.erase name.lower }

/-- Remembers a request for a file. -/
def request (g : Gathered) (file from_ : Text) : Gathered :=
  { g with requests := g.requests ++ [(file, from_)] }

/-- Remembers that a file was included. -/
def visit (g : Gathered) (key : Text) : Gathered :=
  if g.visited.contains key then g else { g with visited := g.visited ++ [key] }

end Gathered

/-- Whether the directive asks for a file at most once, and a complaint about its value. -/
def Directive.once (d : Directive) : Bool × Option Text :=
  match d.attributes.get? (utf8 "once") with
  | none => (false, none)
  | some value =>
    match readBool? value with
    | some b => (b, none)
    | none =>
      (false, some (utf8 "Include once attribute has unknown value '" ++ value ++ utf8 "'"))

/-- Reports a value of the attribute `once` that cannot be read. -/
def Gathered.complainOnce (g : Gathered) (root : Text) (d : Directive) : Gathered :=
  match d.once.2 with
  | some complaint => g.error root complaint d.span.start
  | none => g

/-- What an include directive asks for. -/
inductive IncludeStep where
  /-- Nothing is read; the parse goes on with what was gathered. -/
  | skip (gathered : Gathered)
  /-- A file is read in place of the directive. -/
  | enter (content resolved : Text) (gathered : Gathered)

/-- Decides what becomes of an include directive whose file was found under the name `resolved`:
asked for once only, a file included before is passed over; a file that is being read is not
opened again. -/
def includeFound (root : Text) (d : Directive) (raw content resolved : Text) (g : Gathered) :
    IncludeStep :=
  if g.visited.contains resolved.lower && d.once.1 then .skip g
  else if g.active.contains resolved.lower then
    .skip ((g.visit resolved.lower).error root
      (utf8 "Recursive include of '" ++ raw ++ utf8 "'") d.span.start)
  else .enter content resolved (g.visit resolved.lower)

/-- Looks for the file an include directive names, with slashes for backslashes. -/
def includeNamed (load : Option Loader) (root : Text) (d : Directive) (raw : Text) (g : Gathered) :
    IncludeStep :=
  let file := Text.replace [0x5C] [0x2F] raw
  let from_ := d.span.start.file
  let unresolved := utf8 "Could not resolve include file '" ++ raw ++ utf8 "'."
  match load with
  | none => .skip (g.error root unresolved d.span.start)
  | some load =>
    match load file from_ with
    | none => .skip ((g.request file from_).error root unresolved d.span.start)
    | some (content, resolved) =>
      includeFound root d raw content resolved (g.request file from_)

/-- Decides what becomes of an include directive. -/
def includeStep (load : Option Loader) (root : Text) (d : Directive) (g : Gathered) : IncludeStep :=
  match d.attributes.get? (utf8 "file") with
  | none => .skip (g.error root (utf8 "Include directive has no file attribute") d.span.start)
  | some raw => includeNamed load root d raw (g.complainOnce root d)

/-! ## Expansion -/

/-- What the next event of a file asks for. -/
inductive Move where
  /-- The events are at their end, or end inside a directive tag. -/
  | stop (gathered : Gathered)
  /-- Reading goes on with the events left; `putOff` says whether pieces are put off from here. -/
  | advance (putOff : Bool) (rest : List Event) (gathered : Gathered)
  /-- An include directive; its file is read before the events left. -/
  | include (d : Directive) (rest : List Event) (gathered : Gathered)

/-- The next move in a file. `imported` says that the file is an included one, and `putOff` that a
helper tag of it has been met. -/
def nextMove (root : Text) (imported putOff : Bool) (events : List Event) (g : Gathered) : Move :=
  match events with
  | [] => .stop g
  | e :: rest =>
    match e.kind with
    | .content => .advance putOff rest (g.addPiece putOff .content e)
    | .expression => .advance putOff rest (g.addPiece putOff .expression e)
    | .block => .advance putOff rest (g.addPiece putOff .block e)
    | .helper => .advance imported rest (g.addPiece imported .helper e)
    | .directive =>
      match Draft.read root e.tagStart .empty rest with
      | (draft, none) => .stop (g.note draft)
      | (draft, some behind) =>
        match draft.directive with
        | none => .advance putOff behind (g.note draft)
        | some d =>
          if d.is (utf8 "include") then .include d behind (g.note draft)
          else .advance putOff behind ((g.note draft).add false (.directive d))
    | _ => .advance putOff rest g

/-- What is left to read of a file: whether it is an included one, whether pieces are put off from
here, the events left and the fault that cut the events short. -/
structure FileRest where
  imported : Bool
  putOff : Bool
  events : List Event
  fault : Option ScanError

section Expansion

variable (load : Option Loader) (root : Text)

-- A call written with `binop%` leaves no mark of its place in the source in the term.
mutual

/-- Gathers the segments of a file's events, each include directive replaced by the segments of the
file it names. The fault that cut the events of a file short stops the whole expansion. There is no
answer when the expansion does not end. -/
def expand? (file : FileRest) (g : Gathered) : Option (Gathered × Option ScanError) :=
  match nextMove root file.imported file.putOff file.events g with
  | .stop g => some (g, file.fault)
  | .advance putOff rest g => binop% expand? { file with putOff := putOff, events := rest } g
  | .include d rest g => do
    match ← binop% include? d g with
    | (g, some e) => some (g, some e)
    | (g, none) => binop% expand? { file with events := rest } g
partial_fixpoint

/-- Gathers the segments of the file an include directive names. -/
def include? (d : Directive) (g : Gathered) : Option (Gathered × Option ScanError) :=
  match includeStep load root d g with
  | .skip g => some (g, none)
  | .enter content resolved g => do
    let (events, fault) := scan resolved content
    let (g, fault) ← binop% expand? ⟨true, false, events, fault⟩ (g.push resolved)
    some (g.pop resolved, fault)
partial_fixpoint

end

end Expansion

/-! ## The files being read -/

namespace Gathered

@[simp] theorem active_error (g : Gathered) (root text : Text) (l : Location) :
    (g.error root text l).active = g.active := rfl

@[simp] theorem active_note (g : Gathered) (draft : Draft) : (g.note draft).active = g.active := rfl

@[simp] theorem active_request (g : Gathered) (file from_ : Text) :
    (g.request file from_).active = g.active := rfl

@[simp] theorem active_push (g : Gathered) (name : Text) :
    (g.push name).active = name.lower :: g.active := rfl

@[simp] theorem active_pop (g : Gathered) (name : Text) :
    (g.pop name).active = g.active.erase name.lower := rfl

@[simp] theorem active_add (g : Gathered) (putOff : Bool) (s : Segment) :
    (g.add putOff s).active = g.active := by
  unfold add
  split <;> rfl

@[simp] theorem active_addPiece (g : Gathered) (putOff : Bool) (kind : PieceKind) (e : Event) :
    (g.addPiece putOff kind e).active = g.active := by
  unfold addPiece
  split
  · rfl
  · exact active_add g putOff _

@[simp] theorem active_visit (g : Gathered) (key : Text) : (g.visit key).active = g.active := by
  unfold visit
  split <;> rfl

@[simp] theorem active_complainOnce (g : Gathered) (root : Text) (d : Directive) :
    (g.complainOnce root d).active = g.active := by
  unfold complainOnce
  split <;> rfl

end Gathered

/-- What is gathered after the decision. -/
def IncludeStep.gathered : IncludeStep → Gathered
  | skip g => g
  | enter _ _ g => g

/-- A file that is entered was found by the loader, and it is not being read. -/
theorem includeStep_enter {load : Option Loader} {root : Text} {d : Directive} {g g' : Gathered}
    {content resolved : Text} (h : includeStep load root d g = .enter content resolved g') :
    resolved.lower ∉ g.active ∧
      ∃ l ∈ load, ∃ requested, l requested d.span.start.file = some (content, resolved) := by
  unfold includeStep at h
  split at h
  · simp at h
  · unfold includeNamed at h
    simp only at h
    split at h
    · simp at h
    · rename_i l
      split at h
      · simp at h
      · rename_i c r hl
        unfold includeFound at h
        split at h
        · simp at h
        · split at h
          · simp at h
          · rename_i ho
            simp only [IncludeStep.enter.injEq] at h
            obtain ⟨rfl, rfl, -⟩ := h
            exact ⟨by simpa using ho, l, rfl, _, hl⟩

/-- Deciding on an include directive opens no file. -/
theorem active_includeStep (load : Option Loader) (root : Text) (d : Directive) (g : Gathered) :
    (includeStep load root d g).gathered.active = g.active := by
  unfold includeStep
  split
  · rfl
  · unfold includeNamed
    simp only
    split
    · exact Gathered.active_complainOnce g root d
    · split
      · exact Gathered.active_complainOnce g root d
      · unfold includeFound
        split
        · simp [IncludeStep.gathered]
        · split <;> simp [IncludeStep.gathered]

/-- What is gathered after the move. -/
def Move.gathered : Move → Gathered
  | stop g => g
  | advance _ _ g => g
  | «include» _ _ g => g

/-- A move opens no file. -/
theorem active_nextMove (root : Text) (imported putOff : Bool) (events : List Event)
    (g : Gathered) : (nextMove root imported putOff events g).gathered.active = g.active := by
  cases events with
  | nil => rfl
  | cons e rest =>
    rw [nextMove]
    cases e.kind with
    | directive =>
      obtain ⟨draft, _ | behind⟩ := Draft.read root e.tagStart .empty rest
      · rfl
      · cases hd : draft.directive with
        | none => simp [hd, Move.gathered]
        | some d => by_cases hi : d.is (utf8 "include") <;> simp [hd, hi, Move.gathered]
    | _ => simp [Move.gathered]

/-- A move that does not stop consumes an event. -/
theorem length_lt_of_nextMove {root : Text} {imported putOff : Bool} {events rest : List Event}
    {g : Gathered}
    (h : (∃ putOff' g', nextMove root imported putOff events g = .advance putOff' rest g') ∨
      ∃ d g', nextMove root imported putOff events g = .include d rest g') :
    rest.length < events.length := by
  cases events with
  | nil => simp [nextMove] at h
  | cons e es =>
    rw [nextMove] at h
    cases hk : e.kind with
    | directive =>
      simp only [hk] at h
      rcases hr : Draft.read root e.tagStart .empty es with ⟨draft, _ | behind⟩
      · simp [hr] at h
      · have hl := Draft.length_read_lt hr
        cases hd : draft.directive with
        | none =>
          simp only [hr, hd, Move.advance.injEq, reduceCtorEq, exists_false, or_false] at h
          obtain ⟨_, _, _, rfl, _⟩ := h
          exact Nat.lt_succ_of_lt hl
        | some d =>
          have hb : behind = rest := by
            by_cases hi : d.is (utf8 "include") <;> simp [hr, hd, hi] at h <;> exact h
          rw [← hb]
          exact Nat.lt_succ_of_lt hl
    | _ =>
      simp only [hk, Move.advance.injEq, reduceCtorEq, exists_false, or_false] at h
      obtain ⟨_, _, _, rfl, _⟩ := h
      exact Nat.lt_succ_self _

/-- **The files being read are the same after an expansion**, and after an include directive, as
before it, whether a fault stopped it or not. -/
theorem active_expand?_include? (load : Option Loader) (root : Text) :
    (∀ file g r, expand? load root file g = some r → r.1.active = g.active) ∧
    (∀ d g r, include? load root d g = some r → r.1.active = g.active) := by
  refine expand?.mutual_partial_correctness load root
    (fun _ g r => r.1.active = g.active) (fun _ g r => r.1.active = g.active) ?_ ?_
  · intro expand include_ ihe ihi file g r h
    have hm := active_nextMove root file.imported file.putOff file.events g
    split at h
    · rename_i g' hn
      rw [hn] at hm
      simp only [Option.some.injEq] at h
      subst h
      exact hm
    · rename_i putOff' rest g' hn
      rw [hn] at hm
      exact (ihe _ _ _ h).trans hm
    · rename_i d rest g' hn
      rw [hn] at hm
      simp only [Option.bind_eq_bind, Option.bind_eq_some_iff] at h
      obtain ⟨⟨g'', fault'⟩, hi, h⟩ := h
      have hi := (ihi _ _ _ hi).trans hm
      cases fault' with
      | some e =>
        simp only [Option.some.injEq] at h
        subst h
        exact hi
      | none => exact (ihe _ _ _ h).trans hi
  · intro expand ihe d g r h
    have hs := active_includeStep load root d g
    split at h
    · rename_i g' hn
      rw [hn] at hs
      simp only [Option.some.injEq] at h
      subst h
      exact hs
    · rename_i content resolved g' hn
      rw [hn] at hs
      simp only [Option.bind_eq_bind, Option.bind_eq_some_iff, Option.some.injEq] at h
      obtain ⟨⟨g'', fault'⟩, he, rfl⟩ := h
      have he := ihe _ _ _ he
      simp only [Gathered.active_push] at he
      simp only [Gathered.active_pop, he, List.erase_cons_head]
      exact hs

theorem active_include? {load : Option Loader} {root : Text} {d : Directive} {g : Gathered}
    {r : Gathered × Option ScanError} (h : include? load root d g = some r) :
    r.1.active = g.active := (active_expand?_include? load root).2 d g r h

/-- **Expansion ends** when the loader answers with finitely many names: inside an included file
fewer names are left that are not open, and otherwise there are fewer events. -/
theorem expand?_isSome {load : Option Loader} {names : List Text}
    (hn : ∀ l ∈ load, l.NamedBy names) (root : Text) (file : FileRest) (g : Gathered) :
    (expand? load root file g).isSome := by
  have hm := active_nextMove root file.imported file.putOff file.events g
  rw [expand?]
  cases hv : nextMove root file.imported file.putOff file.events g with
  | stop g' => rfl
  | advance putOff' rest g' =>
    have hl := length_lt_of_nextMove (.inl ⟨_, _, hv⟩)
    have ha : g'.active = g.active := by simpa [hv, Move.gathered] using hm
    exact expand?_isSome hn root { file with putOff := putOff', events := rest } g'
  | «include» d rest g' =>
    have hl := length_lt_of_nextMove (.inr ⟨_, _, hv⟩)
    have ha : g'.active = g.active := by simpa [hv, Move.gathered] using hm
    have hi : (include? load root d g').isSome := by
      have hs := active_includeStep load root d g'
      rw [include?]
      cases hd : includeStep load root d g' with
      | skip g'' => rfl
      | enter content resolved g'' =>
        obtain ⟨ho, l, hl, requested, hr⟩ := includeStep_enter hd
        have hc : Includes.closed names (g''.push resolved).active <
            Includes.closed names g.active := by
          rw [hd] at hs
          rw [Gathered.active_push, ← ha, show g''.active = g'.active from hs]
          exact Includes.closed_cons_lt (hn l hl hr) ho
        obtain ⟨r, hr⟩ := Option.isSome_iff_exists.1 (expand?_isSome hn root
          ⟨true, false, (scan resolved content).1, (scan resolved content).2⟩ (g''.push resolved))
        simp [hr]
    obtain ⟨⟨g'', fault'⟩, hr⟩ := Option.isSome_iff_exists.1 hi
    have ha' : g''.active = g.active := (active_include? hr).trans ha
    simp only [hr, Option.bind_eq_bind, Option.bind_some]
    cases fault' with
    | some e => rfl
    | none => exact expand?_isSome hn root { file with events := rest } g''
termination_by (Includes.closed names g.active, file.events.length)
decreasing_by
  · rw [ha]
    exact Prod.Lex.right _ hl
  · exact Prod.Lex.left _ _ hc
  · rw [ha']
    exact Prod.Lex.right _ hl

/-- A template and everything it includes: the segments in order, what went wrong, the text of the
root file, and the includes that were asked for, each with the file asking. -/
structure Template where
  root : Text
  source : Text
  segments : List Segment
  diagnostics : Diagnostics
  requests : List (Text × Text)

namespace Template

/-- A template made by hand. -/
def ofSegments (root source : Text) (segments : List Segment) : Template :=
  ⟨root, source, segments, [], []⟩

/-- The template of what was gathered. A fault becomes a diagnostic; the pieces put off come last
either way. -/
def ofExpansion (root source : Text) : Gathered × Option ScanError → Template
  | (g, fault) =>
    let g := match fault with
      | none => g
      | some e => g.error root e.fault.message e.location
    ⟨root, source, g.segments ++ g.deferred, g.diagnostics, g.requests⟩

/-- Parses the text of the root file. A fault ends the parse. There is no answer when the includes
never end. -/
def parse? (root source : Text) (load : Option Loader) : Option Template :=
  let (events, fault) := scan root source
  (expand? load root ⟨false, false, events, fault⟩ (.ofRoot root)).map (ofExpansion root source)

theorem parse?_isSome (root source : Text) (load : Option Loader) (names : List Text)
    (h : ∀ l ∈ load, l.NamedBy names) : (parse? root source load).isSome := by
  rw [parse?, Option.isSome_map]
  exact expand?_isSome h root _ _

theorem parse?_includes_isSome (root source : Text) (includes : Option Includes) :
    (parse? root source (includes.map (·.load))).isSome := by
  cases includes with
  | none => exact parse?_isSome root source none [] (by simp)
  | some i =>
    obtain ⟨names, hn⟩ := i.finite
    exact parse?_isSome root source (some i.load) names fun l hl => by
      simp only [Option.mem_def, Option.some.injEq] at hl
      exact hl ▸ hn

/-- Parses the text of the root file with includes under finitely many names. -/
def parse (root source : Text) (includes : Option Includes) : Template :=
  (parse? root source (includes.map (·.load))).get (parse?_includes_isSome root source includes)

def directives (t : Template) : List Directive := t.segments.filterMap Segment.directive?

def pieces (t : Template) : List Piece := t.segments.filterMap Segment.piece?

end Template
end TextTemplate
