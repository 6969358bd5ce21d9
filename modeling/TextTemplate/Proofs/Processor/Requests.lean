/-
A registry asked call after call. `serve` makes one call, and tells beside its answer whose
declaration the call changed, which name it asked for, and in which worlds it began and ended. How
often a type is loaded is read off the world: `Loading.counting` is a loader that counts its successes
in a number beside it, and a run with it goes as the run without does (`serve_counting`).

Loads are paid for in advance: a registry without a factory of a name has room for one
(`Registry.room`), a load uses it up, and only a change of the name's declaration makes room again.

`answers_as_declared`: whatever calls are made on a new registry, each is answered as if nothing were
remembered, and a processor is loaded at most once for each declaration.
-/
import Mathlib.Algebra.Ring.Nat
import TextTemplate.Proofs.Processor.Cache

namespace TextTemplate

variable {σ τ : Type}

/-! ## Calls one after the other -/

namespace Registry

/-- A call on a registry. -/
inductive Request (σ : Type) where
  | register (name : Text) (f : Factory σ)
  | addExternal (name type assembly : Text)
  | names
  | resolve (name : Text)
  | create (name : Text)

/-- What a call answers. -/
inductive Reply (σ : Type) where
  | done
  | names (names : List Text)
  | factory (result : Except RegistryError (Factory σ))
  | processor (result : Except RegistryError (Processor σ))

/-- A call that was made: its answer, the name whose declaration it changed, the name it asked a
factory or a processor of, and the world it began and ended in. -/
structure Served (σ : Type) where
  reply : Reply σ
  changed : Option Text
  asked : Option Text
  before : σ
  after : σ

/-- Makes one call. Declaring a processor as it is declared changes nothing. -/
def serve (l : Loading σ) (r : Registry σ) (s : σ) : Request σ → Served σ × Registry σ × σ
  | .register name f => (⟨.done, some name, none, s, s⟩, r.register name f, s)
  | .addExternal name type assembly =>
    let changed := if r.external.find? name = some ⟨type, assembly⟩ then none else some name
    (⟨.done, changed, none, s, s⟩, r.addExternal name type assembly, s)
  | .names => (⟨.names r.names, none, none, s, s⟩, r, s)
  | .resolve name =>
    let (result, r', s') := r.resolve l name s
    (⟨.factory result, none, some name, s, s'⟩, r', s')
  | .create name =>
    let (result, r', s') := r.create l name s
    (⟨.processor result, none, some name, s, s'⟩, r', s')

/-- Makes calls one after the other. -/
def serveAll (l : Loading σ) : List (Request σ) → Registry σ → σ → List (Served σ) × Registry σ × σ
  | [], r, s => ([], r, s)
  | q :: qs, r, s =>
    let (x, r, s) := serve l r s q
    let (xs, r, s) := serveAll l qs r s
    (x :: xs, r, s)

end Registry

namespace Declarations

open Registry (Request Reply)

/-- Makes one call on declarations alone. -/
def serve (l : Loading σ) (d : Declarations σ) (s : σ) : Request σ → Reply σ × Declarations σ × σ
  | .register name f => (.done, d.register name f, s)
  | .addExternal name type assembly => (.done, d.addExternal name type assembly, s)
  | .names => (.names d.names, d, s)
  | .resolve name => (.factory (d.resolve l name s).1, d, (d.resolve l name s).2)
  | .create name => (.processor (d.create l name s).1, d, (d.create l name s).2)

/-- Makes calls one after the other. -/
def serveAll (l : Loading σ) : List (Request σ) → Declarations σ → σ → List (Reply σ) × σ
  | [], _, s => ([], s)
  | q :: qs, d, s =>
    let (x, d, s) := d.serve l s q
    let (xs, s) := serveAll l qs d s
    (x :: xs, s)

end Declarations

namespace Registry

variable {l : Loading σ} {r : Registry σ} {d : Declarations σ}

/-- One call: it is answered as declared, and leaves a coherent registry. -/
theorem serve_eq_declared (h : r.Declares d) (hc : r.Coherent l) (hl : l.Pure) (s : σ)
    (q : Request σ) :
    (serve l r s q).1.reply = (d.serve l s q).1 ∧
      (serve l r s q).2.1.Declares (d.serve l s q).2.1 ∧ (serve l r s q).2.1.Coherent l ∧
      (serve l r s q).2.2 = (d.serve l s q).2.2 := by
  cases q with
  | register name f => exact ⟨rfl, h.register name f, hc.register name f, rfl⟩
  | addExternal name type assembly =>
    exact ⟨rfl, h.addExternal name type assembly, hc.addExternal name type assembly, rfl⟩
  | names => exact ⟨congrArg Reply.names h.names_eq, h, hc, rfl⟩
  | resolve name =>
    obtain ⟨hfactory, hworld⟩ := resolve_eq_declared h hc hl name s
    exact ⟨congrArg Reply.factory hfactory, h.resolve l name s, hc.resolve hl name s, hworld⟩
  | create name =>
    obtain ⟨hprocessor, hworld⟩ := create_eq_declared h hc hl name s
    refine ⟨congrArg Reply.processor hprocessor, ?_, ?_, hworld⟩
    · simp only [serve, create_registry]
      exact h.resolve l name s
    · simp only [serve, create_registry]
      exact hc.resolve hl name s

theorem serveAll_eq_declared (h : r.Declares d) (hc : r.Coherent l) (hl : l.Pure)
    (qs : List (Request σ)) (s : σ) :
    (serveAll l qs r s).1.map (·.reply) = (d.serveAll l qs s).1 ∧
      (serveAll l qs r s).2.2 = (d.serveAll l qs s).2 := by
  induction qs generalizing r d s with
  | nil => exact ⟨rfl, rfl⟩
  | cons q qs ih =>
    obtain ⟨hreply, hdeclares, hcoherent, hworld⟩ := serve_eq_declared h hc hl s q
    obtain ⟨hreplies, hlast⟩ := ih hdeclares hcoherent (serve l r s q).2.2
    simp only [serveAll, Declarations.serveAll, List.map_cons, hreply]
    rw [← hworld, hreplies]
    exact ⟨rfl, hlast⟩

end Registry

/-! ## A world with something beside it -/

/-- A call in a world with something beside it, which it neither reads nor changes. -/
def beside {α : Type} (call : σ → α × σ) (x : σ × τ) : α × (σ × τ) :=
  ((call x.1).1, ((call x.1).2, x.2))

def Processor.beside (p : Processor σ) : Processor (σ × τ) where
  setUp := TextTemplate.beside p.setUp
  takeParameters := p.takeParameters.map fun take x => (take x.1, x.2)
  supports := p.supports
  start w source := TextTemplate.beside (p.start w source)
  process values w directive attributes :=
    TextTemplate.beside (p.process values w directive attributes)
  finish := TextTemplate.beside p.finish
  imports := TextTemplate.beside p.imports
  references := TextTemplate.beside p.references
  classAttributes := TextTemplate.beside p.classAttributes
  notes call x := p.notes call x.1

def Factory.beside (f : Factory σ) : Factory (σ × τ) := fun x =>
  ((f x.1).1.beside, ((f x.1).2, x.2))

/-- The loader that counts its successes in a number beside the world. -/
def Loading.counting (l : Loading σ) : Loading (σ × Nat) where
  assemblies := l.assemblies
  loader := l.loader.map fun load location type x =>
    match load location type x.1 with
    | (.error err, s) => (.error err, (s, x.2))
    | (.ok f, s) => (.ok (Factory.beside f), (s, x.2 + 1))

namespace Registry

def beside (r : Registry σ) : Registry (σ × τ) :=
  ⟨r.builtins.mapValues Factory.beside, r.external, r.loaded.mapValues Factory.beside⟩

def Request.beside : Request σ → Request (σ × τ)
  | .register name f => .register name (Factory.beside f)
  | .addExternal name type assembly => .addExternal name type assembly
  | .names => .names
  | .resolve name => .resolve name
  | .create name => .create name

def Reply.beside : Reply σ → Reply (σ × τ)
  | .done => .done
  | .names all => .names all
  | .factory result => .factory (result.map Factory.beside)
  | .processor result => .processor (result.map Processor.beside)

theorem beside_standard : (standard : Registry σ).beside = (standard : Registry (σ × τ)) := rfl

/-! ## Counting loads -/

variable {l : Loading σ} {r : Registry σ}

/-- The loads that resolving a name takes. -/
def loadCount (r : Registry σ) (l : Loading σ) (name : Text) (s : σ) : Nat :=
  match r.look name with
  | .atHand _ => 0
  | .declared e => if (load l name e s).1.isOk then 1 else 0

/-- The loads that a call takes. -/
def Request.loadCount (r : Registry σ) (l : Loading σ) (s : σ) : Request σ → Nat
  | .resolve name | .create name => r.loadCount l name s
  | _ => 0

/-- A call with the number of loads before and behind it. -/
def Served.counted (x : Served σ) (before after : Nat) : Served (σ × Nat) :=
  ⟨x.reply.beside, x.changed, x.asked, (x.before, before), (x.after, after)⟩

theorem load_counting (l : Loading σ) (name : Text) (e : External) (s : σ) (n : Nat) :
    load l.counting name e (s, n) = ((load l name e s).1.map Factory.beside,
      ((load l name e s).2, n + if (load l name e s).1.isOk then 1 else 0)) := by
  have hlocate : locate l.counting name e = locate l name e := rfl
  unfold load
  rw [hlocate]
  cases locate l name e with
  | error err => rfl
  | ok location =>
    cases hloader : l.loader with
    | none => simp only [Loading.counting, hloader]; rfl
    | some loader =>
      simp only [Loading.counting, hloader, Option.map_some]
      obtain ⟨result, s', hr⟩ : ∃ result s', loader location e.type s = (result, s') := ⟨_, _, rfl⟩
      simp only [hr]
      cases result <;> rfl

theorem look_beside (r : Registry σ) (name : Text) :
    (r.beside (τ := τ)).look name =
      match r.look name with
      | .atHand result => .atHand (result.map Factory.beside)
      | .declared e => .declared e := by
  unfold look
  simp only [beside, NameMap.find?_mapValues]
  cases r.builtins.find? name with
  | some f => rfl
  | none =>
    cases r.loaded.find? name with
    | some f => rfl
    | none => cases r.external.find? name <;> rfl

theorem keep_beside (r : Registry σ) (name : Text) (loaded : Except RegistryError (Factory σ)) :
    (r.beside (τ := τ)).keep name (loaded.map Factory.beside) = (r.keep name loaded).beside := by
  cases loaded with
  | error err => rfl
  | ok f => simp [keep, beside, Except.map, NameMap.mapValues_insert]

theorem resolve_counting (r : Registry σ) (l : Loading σ) (name : Text) (s : σ) (n : Nat) :
    r.beside.resolve l.counting name (s, n) =
      ((r.resolve l name s).1.map Factory.beside, (r.resolve l name s).2.1.beside,
        ((r.resolve l name s).2.2, n + r.loadCount l name s)) := by
  rw [resolve_eq, resolve_eq, look_beside, loadCount]
  cases r.look name with
  | atHand result => rfl
  | declared e => simp only [load_counting, keep_beside]

theorem create_counting (r : Registry σ) (l : Loading σ) (name : Text) (s : σ) (n : Nat) :
    r.beside.create l.counting name (s, n) =
      ((r.create l name s).1.map Processor.beside, (r.create l name s).2.1.beside,
        ((r.create l name s).2.2, n + r.loadCount l name s)) := by
  unfold create
  rw [resolve_counting]
  rcases r.resolve l name s with ⟨_ | f, r', s'⟩
  · rfl
  · simp only [Except.map, Factory.beside, Processor.beside, TextTemplate.beside]
    rcases (f s').1.setUp (f s').2 with ⟨_ | err, _⟩ <;> rfl

/-- **Counting changes nothing else.** A call in a run that counts loads is the call in the run that
does not, with its loads added to the number. -/
theorem serve_counting (l : Loading σ) (r : Registry σ) (s : σ) (n : Nat) (q : Request σ) :
    serve l.counting r.beside (s, n) q.beside =
      ((serve l r s q).1.counted n (n + q.loadCount r l s), (serve l r s q).2.1.beside,
        ((serve l r s q).2.2, n + q.loadCount r l s)) := by
  cases q with
  | register name f =>
    simp only [serve, Request.beside, register, beside, NameMap.mapValues_insert,
      NameMap.mapValues_erase]
    rfl
  | addExternal name type assembly =>
    have hexternal : (r.beside (τ := Nat)).external = r.external := rfl
    simp only [serve, Request.beside, addExternal, hexternal]
    split
    · rfl
    · simp only [beside, NameMap.mapValues_erase]
      rfl
  | names => simp only [serve, Request.beside, names, beside, NameMap.names_mapValues]; rfl
  | resolve name => simp only [serve, Request.beside, resolve_counting]; rfl
  | create name => simp only [serve, Request.beside, create_counting]; rfl

theorem serveAll_counting (l : Loading σ) (qs : List (Request σ)) (r : Registry σ) (s : σ)
    (n : Nat) :
    (serveAll l.counting (qs.map Request.beside) r.beside (s, n)).1.map (·.reply) =
        (serveAll l qs r s).1.map (·.reply.beside) ∧
      (serveAll l.counting (qs.map Request.beside) r.beside (s, n)).2.2.1 =
        (serveAll l qs r s).2.2 := by
  induction qs generalizing r s n with
  | nil => exact ⟨rfl, rfl⟩
  | cons q qs ih =>
    obtain ⟨hreplies, hworld⟩ :=
      ih (serve l r s q).2.1 (serve l r s q).2.2 (n + q.loadCount r l s)
    simp only [serveAll, List.map_cons, serve_counting, hreplies]
    exact ⟨rfl, hworld⟩

/-! ## Loading once -/

/-- The loads that a registry may still do for a name as it is declared. -/
def room (r : Registry σ) (name : Text) : Nat := if (r.loaded.find? name).isSome then 0 else 1

/-- A name is loaded when it has no factory, and has one then. -/
theorem resolve_room (r : Registry σ) (l : Loading σ) (other : Text) (s : σ) (name : Text) :
    (if other = name then r.loadCount l other s else 0) + (r.resolve l other s).2.1.room name ≤
      r.room name := by
  rw [resolve_eq, loadCount]
  cases hlook : r.look other with
  | atHand result => simp
  | declared e =>
    simp only
    cases (load l other e s).1 with
    | error err => simp [keep, Except.isOk, Except.toBool]
    | ok f =>
      by_cases ho : other = name
      · subst ho
        simp [room, keep, (look_eq_declared hlook).2.1, Except.isOk, Except.toBool]
      · simp [room, keep, ho, NameMap.find?_insert_other (Ne.symm ho)]

/-- One call: as long as it does not change the declaration of a name, its loads are paid for. -/
theorem serve_room {s : σ} {q : Request σ} {name : Text}
    (hq : (serve l r s q).1.changed ≠ some name) :
    (if (serve l r s q).1.asked = some name then q.loadCount r l s else 0) +
      (serve l r s q).2.1.room name ≤ r.room name := by
  cases q with
  | register other f =>
    have ho : name ≠ other := fun ho => hq (congrArg some ho.symm)
    simp [serve, register, room, NameMap.find?_erase_other ho]
  | addExternal other type assembly =>
    simp only [serve, addExternal] at hq ⊢
    split at hq
    · next hsame => simp [hsame]
    · next hnew =>
      have ho : name ≠ other := fun ho => hq (congrArg some ho.symm)
      simp [hnew, room, NameMap.find?_erase_other ho]
  | names => simp [serve]
  | resolve other => simpa [serve, Request.loadCount] using resolve_room r l other s name
  | create other =>
    simpa [serve, Request.loadCount, create_registry] using resolve_room r l other s name

/-- The successful loads in the calls that ask for a name. -/
def loadsFor (name : Text) (xs : List (Served (σ × Nat))) : Nat :=
  ((xs.filter (·.asked = some name)).map fun x => x.after.2 - x.before.2).sum

theorem loadsFor_cons (name : Text) (x : Served σ) (n k : Nat) (xs : List (Served (σ × Nat))) :
    loadsFor name (x.counted n (n + k) :: xs) =
      (if x.asked = some name then k else 0) + loadsFor name xs := by
  by_cases h : x.asked = some name <;> simp [loadsFor, Served.counted, h]

/-- Calls from the start of a run on: as long as none changes the declaration of a name, there is
room for its loads. -/
theorem loads_prefix {name : Text} {qs : List (Request σ)} {s : σ} {n : Nat}
    {xs : List (Served (σ × Nat))}
    (hxs : xs <+: (serveAll l.counting (qs.map Request.beside) r.beside (s, n)).1)
    (hsame : ∀ x ∈ xs, x.changed ≠ some name) : loadsFor name xs ≤ r.room name := by
  induction qs generalizing r s n xs with
  | nil =>
    rw [List.map_nil, serveAll, List.prefix_nil] at hxs
    subst hxs
    exact Nat.zero_le _
  | cons q qs ih =>
    cases xs with
    | nil => exact Nat.zero_le _
    | cons x xs =>
      simp only [List.map_cons, serveAll, serve_counting, List.cons_prefix_cons] at hxs
      obtain ⟨rfl, hxs⟩ := hxs
      have hfirst : (serve l r s q).1.changed ≠ some name := hsame _ List.mem_cons_self
      have hroom := serve_room hfirst
      have hrest := ih hxs fun y hy => hsame y (List.mem_cons_of_mem _ hy)
      rw [loadsFor_cons]
      omega

/-- Between two changes of a name's declaration it is loaded at most once. -/
theorem loads_infix {name : Text} {qs : List (Request σ)} {s : σ} {n : Nat}
    {xs : List (Served (σ × Nat))}
    (hxs : xs <:+: (serveAll l.counting (qs.map Request.beside) r.beside (s, n)).1)
    (hsame : ∀ x ∈ xs, x.changed ≠ some name) : loadsFor name xs ≤ 1 := by
  induction qs generalizing r s n with
  | nil =>
    rw [List.map_nil, serveAll, List.infix_nil] at hxs
    subst hxs
    exact Nat.zero_le _
  | cons q qs ih =>
    rw [List.map_cons, serveAll, List.infix_cons_iff] at hxs
    rcases hxs with hprefix | hlater
    · replace hprefix : xs <+:
          (serveAll l.counting ((q :: qs).map Request.beside) r.beside (s, n)).1 := hprefix
      have hroom : r.room name ≤ 1 := by
        unfold room
        split <;> omega
      have hloads : loadsFor name xs ≤ r.room name := loads_prefix hprefix hsame
      omega
    · rw [serve_counting] at hlater
      exact ih hlater

/-- **The memory of a registry is never seen.** Whatever calls are made one after the other on a new
registry, with assemblies found and types loaded by functions or not at all: each is answered as by
declarations that nothing is kept beside, and the world goes the same way. With a loader that counts,
the calls are answered alike, and wherever no call changes the declaration of a name, the loader
succeeds for it at most once. -/
theorem answers_as_declared (l : Loading σ) (hl : l.Pure) (qs : List (Request σ)) (s : σ) :
    let run := serveAll l qs .standard s
    let counted := serveAll l.counting (qs.map Request.beside) .standard (s, 0)
    run.1.map (·.reply) = (Declarations.standard.serveAll l qs s).1 ∧
    run.2.2 = (Declarations.standard.serveAll l qs s).2 ∧
    counted.1.map (·.reply) = run.1.map (·.reply.beside) ∧
    counted.2.2.1 = run.2.2 ∧
    ∀ name xs, xs <:+: counted.1 → (∀ x ∈ xs, x.changed ≠ some name) → loadsFor name xs ≤ 1 := by
  obtain ⟨hreplies, hworld⟩ :=
    serveAll_eq_declared declares_standard (coherent_of_loaded_nil rfl) hl qs s
  obtain ⟨hcounted, hsame⟩ := serveAll_counting l qs .standard s 0
  rw [beside_standard] at hcounted hsame
  refine ⟨hreplies, hworld, hcounted, hsame, fun name xs hxs hkept => ?_⟩
  rw [← beside_standard] at hxs
  exact loads_infix hxs hkept

/-- A processor declared, used, declared as it is, used, declared otherwise, and used twice. -/
def sampleRequests : List (Request Unit) :=
  let declare (type : String) : Request Unit := .addExternal (utf8 "P") (utf8 type) (utf8 "lib")
  let use : Request Unit := .create (utf8 "P")
  [use, declare "T", use, declare "T", use, declare "V", use, declare "U", use, .resolve (utf8 "P")]

/-- Only the first use behind each declaration that can be loaded loads it. -/
theorem answers_as_declared_sample :
    let counted := serveAll sampleLoading.counting (sampleRequests.map .beside) .standard ((), 0)
    counted.1.map (·.after.2) = [0, 0, 1, 1, 1, 1, 1, 1, 2, 2] ∧
    counted.1.map (·.changed) = [none, some (utf8 "P"), none, none, none, some (utf8 "P"), none,
      some (utf8 "P"), none, none] ∧
    (serveAll sampleLoading sampleRequests .standard ()).1.map (·.reply) =
      (Declarations.standard.serveAll sampleLoading sampleRequests ()).1 ∧
    loadsFor (utf8 "P") ((counted.1.drop 2).take 3) ≤ 1 := by
  obtain ⟨hreplies, -, -, -, honce⟩ :=
    answers_as_declared sampleLoading sampleLoading_pure sampleRequests ()
  refine ⟨by decide +kernel, by decide +kernel, hreplies, honce _ _ ?_ (by decide +kernel)⟩
  exact (List.take_prefix _ _).isInfix.trans (List.drop_suffix _ _).isInfix

end Registry
end TextTemplate
