/-
Runs of programs on the code writer: what a run can do to the writer, and what it calls.

An operation that runs no others is plain; the rest are statements with bodies, which share one form
(`Conditional`), and nested writers. `Cases` is the induction over programs that follows from this.
Every run is a row of edits of the writer (`Edits`), and it closes scopes and opens new ones but never
opens one again that was closed (`Moves`); `moves_run` says so once for all operations, so a property
that each edit keeps is kept by every run.

`Calls` gives the operations a run calls, each with the session it is called in. A nested writer is a
writer of its own, with scopes of its own, and its operations are called on it.
-/
import Mathlib.Logic.Relation
import TextTemplate.Proofs.Code.Balance

namespace TextTemplate

/-! ## Edits of a writer -/

namespace Writer

section Edits

variable {allowed : Int → Writer → Prop} {w w' : Writer}

/-- One change to a writer. `allowed` says which counts of blank lines are asked for, and where. -/
inductive Edit (allowed : Int → Writer → Prop) : Writer → Writer → Prop where
  | write (w : Writer) (s : Text) : Edit allowed w (w.write s)
  | rawWrite (w : Writer) (s : Text) : Edit allowed w (w.rawWrite s)
  | writeLiteral (w : Writer) (s : Text) : Edit allowed w (w.writeLiteral s)
  | endLine (w : Writer) : Edit allowed w w.endLine
  | blankLine {w : Writer} {n : Int} (h : allowed n w) : Edit allowed w (w.blankLine n)
  | pushIndent (w : Writer) (s : Text) : Edit allowed w (w.pushIndent s)
  | popIndent (w : Writer) : Edit allowed w w.popIndent
  | clearIndent (w : Writer) : Edit allowed w w.clearIndent
  | reset (w : Writer) (s : Text) : Edit allowed w (w.reset s)
  | remember (w : Writer) (file : Text) (last : Option (Int64 × Text)) (usings : Nat) :
    Edit allowed w { w with lineFile := file, lastLine := last, usings := usings }

/-- Changes to a writer, one after the other. -/
abbrev Edits (allowed : Int → Writer → Prop) : Writer → Writer → Prop :=
  Relation.ReflTransGen (Edit allowed)

namespace Edits

theorem next {v : Writer} (h : Edits allowed w w') (hedit : Edit allowed w' v) :
    Edits allowed w v :=
  h.tail hedit

theorem writeLine (h : Edits allowed w w') (s : Text) : Edits allowed w (w'.writeLine s) :=
  (h.next (.write w' s)).next (.endLine _)

theorem rawWriteLine (h : Edits allowed w w') (s : Text) : Edits allowed w (w'.rawWriteLine s) := by
  have heq : w'.rawWriteLine s = (w'.rawWrite s).endLine := by
    cases s with
    | nil => simp [Writer.rawWriteLine, rawWrite]
    | cons b s => simp [Writer.rawWriteLine, rawWrite, endLine]
  rw [heq]
  exact (h.next (.rawWrite w' s)).next (.endLine _)

theorem ensureNewline (h : Edits allowed w w') : Edits allowed w w'.ensureNewline := by
  unfold Writer.ensureNewline
  split
  · exact h.rawWriteLine []
  · exact h

theorem addIndent (h : Edits allowed w w') : Edits allowed w w'.addIndent :=
  h.next (.pushIndent w' _)

theorem openScope (h : Edits allowed w w') (tag : Text) : Edits allowed w (w'.openScope tag) :=
  (h.writeLine tag).addIndent

theorem closeScope (h : Edits allowed w w') (tag : Text) : Edits allowed w (w'.closeScope tag) :=
  (h.next (.popIndent w')).writeLine tag

theorem close (h : Edits allowed w w') (scope : Scope) : Edits allowed w (scope.close w').1 := by
  unfold Scope.close
  split
  · exact h
  · dsimp only
    split
    · exact (h.closeScope _).rawWriteLine []
    · exact h.closeScope _

theorem linePragma (h : Edits allowed w w') (line : Int64) (file : Text) :
    Edits allowed w (w'.linePragma line file) := by
  unfold Writer.linePragma
  generalize w'.layout.lineFile (if file.isEmpty then w'.lineFile else file) = name
  by_cases hforce : w'.lastLine = some (line, name)
  · simpa [hforce] using h
  · simp only [hforce, if_false]
    exact (h.next (.remember w' w'.lineFile _ w'.usings)).ensureNewline.rawWriteLine _

theorem lineDefault (h : Edits allowed w w') : Edits allowed w w'.lineDefault :=
  (h.next (.remember w' w'.lineFile none w'.usings)).ensureNewline.rawWriteLine _

theorem lineHidden (h : Edits allowed w w') : Edits allowed w w'.lineHidden :=
  (h.next (.remember w' w'.lineFile none w'.usings)).ensureNewline.rawWriteLine _

/-- One blank line is the end of a line. -/
theorem fileScopedNamespace (h : Edits allowed w w') (name : Text) :
    Edits allowed w (w'.fileScopedNamespace name) := by
  have hend (v : Writer) : v.blankLine 1 = v.endLine := by simp [Writer.blankLine, endLine]
  unfold Writer.fileScopedNamespace
  rw [hend]
  exact (h.writeLine _).next (.endLine _)

end Edits

theorem Balanced.edits (h : Balanced w w') : Edits allowed w w' := by
  induction h with
  | refl => exact .refl
  | write _ s ih => exact ih.next (.write _ s)
  | endLine _ ih => exact ih.next (.endLine _)
  | remember _ usings ih => exact ih.next (.remember _ _ _ usings)
  | further _ _ ih ihin => exact (ih.addIndent.trans ihin).tail (.popIndent _)

theorem Opened.edits (h : Opened w w') : Edits allowed w w' := by
  obtain ⟨v, hv, rfl⟩ := h
  exact (Balanced.edits hv).addIndent

end Edits
end Writer

namespace CodeOp

open Writer (Edit Edits)

/-! ## Programs -/

/-- Whether an operation runs no others. -/
def IsPlain : CodeOp → Prop
  | .ifThen .. => False
  | .elseIf .. => False
  | .otherwise _ => False
  | .nested .. => False
  | _ => True

/-- A statement with a body: the line in front of it, the body, and what is done otherwise. -/
structure Conditional where
  line : Writer → Writer
  body : List CodeOp
  other : Option (List CodeOp)

/-- The statement an operation writes, if it is one with a body. -/
def conditional? : CodeOp → Option Conditional
  | .ifThen condition body other => some ⟨(·.ifLine condition), body, other⟩
  | .elseIf condition body other => some ⟨(·.elseIfLine condition), body, other⟩
  | .otherwise body => some ⟨Writer.elseLine, body, none⟩
  | _ => none

/-- The session a body behind a line starts in. -/
def enter (line : Writer → Writer) (s : Session) : Session :=
  enterBody { s with writer := line s.writer }

theorem run_conditional {op : CodeOp} {c : Conditional} (h : op.conditional? = some c)
    (s : Session) :
    op.run s = match c.other with
      | none => runBody c.body (enter c.line s)
      | some other =>
        match runBody c.body (enter c.line s) with
        | (s, .nothing) => runBody other (enter Writer.elseLine s)
        | failed => failed := by
  cases op with
  | ifThen condition body other | elseIf condition body other =>
    cases h
    cases other <;> rfl
  | otherwise body =>
    cases h
    rfl
  | _ => cases h

/-- The line of a statement is written like any other. -/
theorem line_conditional {op : CodeOp} {c : Conditional} (h : op.conditional? = some c) :
    ∃ text, c.line = (·.writeLine text) := by
  cases op with
  | ifThen | elseIf | otherwise =>
    cases h
    exact ⟨_, rfl⟩
  | _ => cases h

/-- The cases of an induction over programs: over the operations, and over the lists of them that
bodies and nested writers run. -/
structure Cases (motive : CodeOp → Prop) (motives : List CodeOp → Prop) : Prop where
  plain (op : CodeOp) : op.IsPlain → motive op
  conditional (op : CodeOp) (c : Conditional) : op.conditional? = some c → motives c.body →
    (∀ other, c.other = some other → motives other) → motive op
  nested (ops : List CodeOp) (splice : Bool) : motives ops → motive (.nested ops splice)
  nil : motives []
  cons (op : CodeOp) (ops : List CodeOp) : motive op → motives ops → motives (op :: ops)

section Induction

variable {motive : CodeOp → Prop} {motives : List CodeOp → Prop}

mutual

theorem Cases.op (h : Cases motive motives) (op : CodeOp) : motive op := by
  cases op with
  | ifThen condition body other | elseIf condition body other =>
    refine h.conditional _ _ rfl (h.ops body) fun ops hops => ?_
    cases other with
    | none => cases hops
    | some other =>
      obtain rfl : other = ops := Option.some.inj hops
      exact h.ops other
  | otherwise body => exact h.conditional _ _ rfl (h.ops body) fun ops hops => by cases hops
  | nested ops splice => exact h.nested ops splice (h.ops ops)
  | _ => exact h.plain _ trivial

theorem Cases.ops (h : Cases motive motives) (ops : List CodeOp) : motives ops := by
  cases ops with
  | nil => exact h.nil
  | cons op ops => exact h.cons op ops (h.op op) (h.ops ops)

end

end Induction

/-! ## What a run calls -/

mutual

/-- An operation that is called in a session calls itself, and what its bodies call, or what the
operations on its nested writer call. -/
inductive Calls : CodeOp → Session → CodeOp → Session → Prop where
  | self (op : CodeOp) (s : Session) : Calls op s op s
  | body {op o : CodeOp} {c : Conditional} {s t : Session} (h : op.conditional? = some c)
      (ho : RunCalls true c.body (enter c.line s) o t) : Calls op s o t
  | other {op o : CodeOp} {c : Conditional} {other : List CodeOp} {s s' t : Session}
      (h : op.conditional? = some c) (hother : c.other = some other)
      (hbody : runBody c.body (enter c.line s) = (s', .nothing))
      (ho : RunCalls true other (enter Writer.elseLine s') o t) : Calls op s o t
  | nested {ops : List CodeOp} {splice : Bool} {o : CodeOp} {s t : Session}
      (ho : RunCalls false ops (.ofWriter s.writer.nested) o t) :
      Calls (.nested ops splice) s o t

/-- What operations call that are run one after the other; in a body one that names an unknown access
is the last. -/
inductive RunCalls : (inBody : Bool) → List CodeOp → Session → CodeOp → Session → Prop where
  | here {inBody : Bool} {op o : CodeOp} {ops : List CodeOp} {s t : Session}
      (ho : Calls op s o t) : RunCalls inBody (op :: ops) s o t
  | later {inBody : Bool} {op o : CodeOp} {ops : List CodeOp} {s t : Session}
      (hgoes : inBody = true → ∀ n, (op.run s).2 ≠ .unknownAccess n)
      (ho : RunCalls inBody ops (op.run s).1 o t) : RunCalls inBody (op :: ops) s o t

end

section Unfolding

variable {inBody : Bool} {op o : CodeOp} {ops : List CodeOp} {s t : Session}

/-- An operation that runs no others calls itself alone. -/
theorem Calls.of_plain (h : Calls op s o t) (hop : op.IsPlain) : o = op ∧ t = s := by
  have hnone : op.conditional? = none := by cases op <;> first | rfl | exact hop.elim
  cases h with
  | self => exact ⟨rfl, rfl⟩
  | body hc | other hc => simp [hnone] at hc
  | nested => exact hop.elim

theorem not_runCalls_nil : ¬RunCalls inBody [] s o t := by
  intro h
  cases h

theorem runCalls_cons : RunCalls false (op :: ops) s o t ↔
    Calls op s o t ∨ RunCalls false ops (op.run s).1 o t := by
  constructor
  · intro h
    cases h with
    | here ho => exact .inl ho
    | later _ ho => exact .inr ho
  · rintro (ho | ho)
    · exact .here ho
    · exact .later (fun h => by cases h) ho

end Unfolding

mutual

theorem Calls.trans {op o u : CodeOp} {s t v : Session} :
    Calls op s o t → Calls o t u v → Calls op s u v
  | .self .., h' => h'
  | .body hc ho, h' => .body hc (ho.trans h')
  | .other hc hother hbody ho, h' => .other hc hother hbody (ho.trans h')
  | .nested ho, h' => .nested (ho.trans h')

theorem RunCalls.trans {inBody : Bool} {ops : List CodeOp} {o u : CodeOp} {s t v : Session} :
    RunCalls inBody ops s o t → Calls o t u v → RunCalls inBody ops s u v
  | .here ho, h' => .here (ho.trans h')
  | .later hgoes ho, h' => .later hgoes (ho.trans h')

end

end CodeOp

/-! ## What a run does -/

namespace Session

open Writer (Edit Edits)

variable {allowed : Int → Writer → Prop} {s s' t : Session}

/-- From one session the other comes by edits of the writer and by opening and closing scopes: a
scope that is closed stays as it is. -/
structure Moves (allowed : Int → Writer → Prop) (s s' : Session) : Prop where
  edits : Edits allowed s.writer s'.writer
  closed (k : Nat) (scope : Scope) : s.scopes[k]? = some scope → scope.closed = true →
    s'.scopes[k]? = some scope

namespace Moves

theorem refl (s : Session) : Moves allowed s s := ⟨.refl, fun _ _ h _ => h⟩

theorem trans (h : Moves allowed s s') (h' : Moves allowed s' t) : Moves allowed s t :=
  ⟨h.edits.trans h'.edits, fun k scope hk hc => h'.closed k scope (h.closed k scope hk hc) hc⟩

theorem written {f : Writer → Writer} (h : Edits allowed s.writer (f s.writer)) :
    Moves allowed s (CodeOp.written s f).1 :=
  ⟨h, fun _ _ hk _ => hk⟩

theorem opened {f : Writer → Writer × Scope} (h : Edits allowed s.writer (f s.writer).1) :
    Moves allowed s (CodeOp.opened s f).1 := by
  refine ⟨h, fun k scope hk _ => ?_⟩
  exact (List.getElem?_append_left (List.getElem?_eq_some_iff.1 hk).1).trans hk

theorem withAccess {n : Int} {f : Access → Session × CodeAnswer}
    (h : ∀ a, Moves allowed s (f a).1) : Moves allowed s (CodeOp.withAccess s n f).1 := by
  unfold CodeOp.withAccess
  split
  · exact h _
  · exact refl s

theorem close (s : Session) (n : Int) : Moves allowed s (s.close n) := by
  unfold Session.close
  split
  · next k =>
    split
    · exact refl s
    · next scope hscope =>
      refine ⟨Edits.close .refl scope, fun j other hj hclosed => ?_⟩
      by_cases hjk : k = j
      · subst hjk
        obtain rfl : scope = other := Option.some.inj (hscope.symm.trans hj)
        have hlt := (List.getElem?_eq_some_iff.1 hscope).1
        simp [Scope.close, hclosed, hlt]
      · exact (List.getElem?_set_ne hjk).trans hj
  · exact refl s

theorem enter (s : Session) (text : Text) :
    Moves allowed s (CodeOp.enter (·.writeLine text) s) :=
  ⟨(Edits.writeLine .refl text).openScope _, fun _ _ hk _ => hk⟩

theorem leaveBody (s : Session) : Moves allowed s (CodeOp.leaveBody s) :=
  ⟨Edits.close .refl _, fun _ _ hk _ => hk⟩

end Moves

theorem close_of_closed {k : Nat} {scope : Scope} (hk : s.scopes[k]? = some scope)
    (hclosed : scope.closed = true) : s.close k = s := by
  have hlt := (List.getElem?_eq_some_iff.1 hk).1
  have hself : s.scopes.set k scope = s.scopes := by
    rw [← (List.getElem?_eq_some_iff.1 hk).2]
    exact List.set_getElem_self hlt
  simp [Session.close, hk, Scope.close, hclosed, hself]

theorem closed_close {k : Nat} (hk : k < s.scopes.length) :
    ∃ scope, (s.close k).scopes[k]? = some scope ∧ scope.closed = true := by
  have hscope : s.scopes[k]? = some s.scopes[k] := List.getElem?_eq_getElem hk
  by_cases hclosed : s.scopes[k].closed = true
  · rw [close_of_closed hscope hclosed]
    exact ⟨_, hscope, hclosed⟩
  · refine ⟨{ s.scopes[k] with closed := true }, ?_, rfl⟩
    simp [Session.close, Scope.close, hclosed, hk]

/-- **A scope that was closed is not closed again**, whatever was done in between. -/
theorem Moves.close_again {k : Nat} (hk : k < s.scopes.length) (h : Moves allowed (s.close k) t) :
    t.close k = t := by
  obtain ⟨scope, hscope, hclosed⟩ := closed_close hk
  exact close_of_closed (h.closed k scope hscope hclosed) hclosed

end Session

namespace CodeOp

open Writer (Edit Edits)
open Session (Moves)

variable {allowed : Int → Writer → Prop} {s t : Session} {op o : CodeOp} {ops : List CodeOp}

/-- What an operation does that runs no others. -/
theorem moves_plain (hop : op.IsPlain)
    (hblank : ∀ n, op = .blankLine n → allowed n s.writer) : Moves allowed s (op.run s).1 := by
  have hwrites {f : Writer → Writer} (h : op.writes? = some f) : Moves allowed s (op.run s).1 := by
    obtain ⟨hrun, hbalanced⟩ := run_writes h s
    rw [hrun]
    exact .written hbalanced.edits
  have hopens {f : Writer → Writer × Scope} (h : op.opens? = some f) :
      Moves allowed s (op.run s).1 := by
    obtain ⟨hrun, hopened, -⟩ := run_opens h s
    rw [hrun]
    exact .opened hopened.edits
  cases op with
  | ifThen | elseIf | otherwise | nested => exact hop.elim
  | write | writeLine | writeBlock | comment | summary | attributeLine | usingLine =>
    exact hwrites rfl
  | enum _ access | emptyMethod _ _ access | readonlyProperty _ _ _ access =>
    cases ha : Access.ofNumber? access with
    | none =>
      rw [run, withAccess, ha]
      exact .refl s
    | some a => exact hwrites (by rw [writes?, ha]; rfl)
  | autoProperty _ _ _ access setter =>
    cases hb : Access.ofNumber? setter with
    | none =>
      rw [run, withAccess, hb]
      exact .refl s
    | some b =>
      cases ha : Access.ofNumber? access with
      | none =>
        rw [run, withAccess_eq hb, withAccess, ha]
        exact .refl s
      | some a => exact hwrites (by rw [writes?, hb, ha]; rfl)
  | block | namespaceBlock | localMethod | staticConstructor | pragmaIf => exact hopens rfl
  | classType _ _ access | interfaceType _ _ access | beginEnum _ access | method _ _ access
  | constructorBlock _ _ access =>
    cases ha : Access.ofNumber? access with
    | none =>
      rw [run, withAccess, ha]
      exact .refl s
    | some a => exact hopens (by rw [opens?, ha]; rfl)
  | rawWrite text => exact .written (.single (.rawWrite _ text))
  | rawWriteLine text => exact .written (Edits.rawWriteLine .refl text)
  | writeLiteral text => exact .written (.single (.writeLiteral _ text))
  | pushIndent text => exact .written (.single (.pushIndent _ text))
  | openScope text => exact .written (Edits.openScope .refl text)
  | closeScope text => exact .written (Edits.closeScope .refl text)
  | reset text => exact .written (.single (.reset _ text))
  | setLineFile file => exact .written (.single (.remember _ file _ _))
  | ensureNewline => exact .written (Edits.ensureNewline .refl)
  | addIndent => exact .written (Edits.addIndent .refl)
  | popIndent => exact .written (.single (.popIndent _))
  | clearIndent => exact .written (.single (.clearIndent _))
  | pragmaElse => exact .written (Edits.closeScope .refl _).addIndent
  | lineDefault => exact .written (Edits.lineDefault .refl)
  | lineHidden => exact .written (Edits.lineHidden .refl)
  | blankLine count => exact .written (.single (.blankLine (hblank count rfl)))
  | fileScopedNamespace name => exact .written (Edits.fileScopedNamespace .refl name)
  | linePragma line file => exact .written (Edits.linePragma .refl line file)
  | close scope => exact .close s scope
  | quote text => exact .refl s
  | quoteEscaped text => exact .refl s
  | lineFile file => exact .refl s

/-- The counts of blank lines asked for in a run are allowed. -/
abbrev BlanksAllowed (allowed : Int → Writer → Prop) (calls : CodeOp → Session → Prop) : Prop :=
  ∀ n t, calls (.blankLine n) t → allowed n t.writer

theorem moves_enter {c : Conditional} (hc : op.conditional? = some c) (s : Session) :
    Moves allowed s (enter c.line s) := by
  obtain ⟨text, hline⟩ := line_conditional hc
  rw [hline]
  exact .enter s text

theorem moves_cases : Cases
    (fun op => ∀ s, BlanksAllowed allowed (op.Calls s) → Moves allowed s (op.run s).1)
    (fun ops => ∀ s,
      (BlanksAllowed allowed (RunCalls true ops s) → Moves allowed s (runBody ops s).1) ∧
      (BlanksAllowed allowed (RunCalls false ops s) → Moves allowed s (runSteps ops s).1)) where
  plain op hop s h := moves_plain hop fun n hn => h n s (by subst hn; exact .self _ s)
  conditional op c hc hbody hother s h := by
    have hrun := (moves_enter hc s).trans
      ((hbody (enter c.line s)).1 fun n t ht => h n t (.body hc ht))
    rw [run_conditional hc]
    split
    · exact hrun
    · next other hsome =>
      split
      · next s' hs' =>
        rw [hs'] at hrun
        have helse := (hother other hsome (enter Writer.elseLine s')).1 fun n t ht =>
          h n t (.other hc hsome hs' ht)
        exact hrun.trans ((Moves.enter s' _).trans helse)
      · exact hrun
  nested ops splice hops s h := by
    simp only [run]
    cases splice with
    | false => exact .refl s
    | true => exact ⟨.single (.rawWrite _ _), fun _ _ hk _ => hk⟩
  nil s := ⟨fun _ => .leaveBody s, fun _ => .refl s⟩
  cons op ops hop hops s := by
    constructor
    · intro h
      have hfirst := hop s fun n t ht => h n t (.here ht)
      simp only [runBody]
      split
      · next s' n hs' =>
        rw [hs'] at hfirst
        exact hfirst.trans (.leaveBody s')
      · next s' answer hne hs' =>
        have hgoes : ∀ n, (op.run s).2 ≠ .unknownAccess n := by
          intro n hn
          rw [hs'] at hn
          exact hne n hn
        rw [hs'] at hfirst
        refine hfirst.trans ((hops s').1 fun n t ht => h n t (.later (fun _ => hgoes) ?_))
        rw [hs']
        exact ht
    · intro h
      have hfirst := hop s fun n t ht => h n t (.here ht)
      refine hfirst.trans ((hops _).2 fun n t ht => h n t (.later (fun hfalse => ?_) ht))
      cases hfalse

/-- **What a run does**: edits of the writer, scopes opened and closed. -/
theorem moves_run (op : CodeOp) (s : Session) (h : BlanksAllowed allowed (op.Calls s)) :
    Moves allowed s (op.run s).1 :=
  moves_cases.op op s h

mutual

/-- What a run does up to a call in it. -/
theorem Calls.edits {op o : CodeOp} {s t : Session} : Calls op s o t →
    BlanksAllowed allowed (op.Calls s) → Edits allowed s.writer t.writer
  | .self .., _ => .refl
  | .body hc ho, h =>
    (moves_enter hc s).edits.trans (ho.edits fun n u hu => h n u (.body hc hu))
  | .other hc hother hbody ho, h =>
    have hrun := (moves_cases.ops _ _).1 fun n u hu => h n u (.body hc hu)
    have helse := ho.edits fun n u hu => h n u (.other hc hother hbody hu)
    (moves_enter hc s).edits.trans ((hbody ▸ hrun).edits.trans
      ((Moves.enter _ _).edits.trans helse))
  | .nested ho, h =>
    (Edits.next .refl (.reset s.writer _)).trans (ho.edits fun n u hu => h n u (.nested hu))

theorem RunCalls.edits {inBody : Bool} {ops : List CodeOp} {o : CodeOp} {s t : Session} :
    RunCalls inBody ops s o t → BlanksAllowed allowed (RunCalls inBody ops s) →
    Edits allowed s.writer t.writer
  | .here ho, h => ho.edits fun n u hu => h n u (.here hu)
  | .later hgoes ho, h =>
    (moves_run _ s fun n u hu => h n u (.here hu)).edits.trans
      (ho.edits fun n u hu => h n u (.later hgoes hu))

end

end CodeOp
end TextTemplate
