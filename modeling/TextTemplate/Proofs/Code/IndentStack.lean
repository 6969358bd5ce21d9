/-
The indent stack: the indent is made of the texts that are pushed and not yet popped.

The writer keeps the lengths of the levels and their texts as one. `Holds` says that the two fit a
list of levels, and each change of the stack keeps them fitting (`Holds.apply`). What an operation
does to the stack is a row of changes that can be read off it (`CodeOp.changes`, `follows_cases`).
So the levels behind a run are what is left of its changes, and a cut by the length of a level cuts
off that level.

The operations that cut a text are stated once more so that a cut of more bytes than there are fails
(`popIndent?`, `write?`). No edit on the way of a run makes them fail (`Edits.holds`).
-/
import TextTemplate.Proofs.Code.Runs

namespace TextTemplate

/-! ## Changes of the stack -/

/-- A change of the stack of levels. -/
inductive LevelChange where
  | push (text : Text)
  | pop
  | clear
  /-- Starts over, with a text for the only level if it is not empty. -/
  | restart (text : Text)
  deriving DecidableEq, Repr

namespace LevelChange

/-- The levels of a writer that starts at an indent. -/
def startLevels (indent : Text) : List Text := if indent.isEmpty then [] else [indent]

/-- The texts that are pushed and not yet popped after a change, innermost first. -/
def pending (levels : List Text) : LevelChange → List Text
  | push text => text :: levels
  | pop => levels.tail
  | clear => []
  | restart text => startLevels text

/-- What a change does to a writer. -/
def apply (w : Writer) : LevelChange → Writer
  | push text => w.pushIndent text
  | pop => w.popIndent
  | clear => w.clearIndent
  | restart text => w.reset text

/-- Changes in which each level that is pushed is popped, and no other. -/
inductive Matched : List LevelChange → Prop where
  | nil : Matched []
  | level {inner rest : List LevelChange} (text : Text) (hin : Matched inner)
    (hrest : Matched rest) : Matched (push text :: (inner ++ pop :: rest))

theorem Matched.pending {cs : List LevelChange} (h : Matched cs) (levels : List Text) :
    cs.foldl pending levels = levels := by
  induction h generalizing levels with
  | nil => rfl
  | level text _ _ ihin ihrest =>
    rw [List.foldl_cons, List.foldl_append, ihin, List.foldl_cons, LevelChange.pending,
      LevelChange.pending, List.tail_cons, ihrest]

end LevelChange

open LevelChange (startLevels pending Matched)

/-! ## Cuts -/

/-- A text without its last bytes, if it has as many. -/
def Text.cutEnd? (n : Nat) (s : Text) : Option Text :=
  if n ≤ s.length then some (s.take (s.length - n)) else none

theorem Text.cutEnd?_append (s t : Text) : cutEnd? t.length (s ++ t) = some s := by
  simp [cutEnd?]

namespace Writer

variable {w v u : Writer} {levels : List Text} {cs cs' : List LevelChange}

/-- Taking the innermost level away, by a cut that fails out of range. -/
def popIndent? (w : Writer) : Option Writer :=
  match w.lengths with
  | [] => some w
  | n :: ns =>
    (Text.cutEnd? n w.indent).map fun indent => { w with indent := indent, lengths := ns }

/-- A text with an indent behind each of its line feeds but a last one, by a cut that fails out of
range. -/
def indented? (indent s : Text) : Option Text :=
  let all := s.flatMap fun b => if b = 0x0A then b :: indent else [b]
  if endsWithLF s then Text.cutEnd? indent.length all else some all

/-- Writing at the current indent, by a cut that fails out of range. -/
def write? (w : Writer) (s : Text) : Option Writer :=
  if s.isEmpty then some w
  else
    let w := w.beginLine
    (indented? w.indent s).map fun t => { w with out := w.out ++ t, endsLine := endsWithLF s }

/-- A cut by the indent is in range behind every text that ends a line. -/
theorem indented?_eq (indent s : Text) : indented? indent s = some (indented indent s) := by
  by_cases hs : endsWithLF s = true
  · have hall := behindFeeds_eq indent s
    rw [if_pos hs] at hall
    have hcut : indented? indent s = Text.cutEnd? indent.length (Text.behindFeeds indent s) := by
      rw [indented?, if_pos hs]
      rfl
    rw [hcut, hall, Text.cutEnd?_append]
  · have hlast : endsWithLF s = false := by simpa using hs
    rw [indented?, if_neg hs, indented_eq hlast]
    rfl

theorem write?_eq (w : Writer) (s : Text) : w.write? s = some (w.write s) := by
  rw [write?, write]
  split
  · rfl
  · dsimp only
    rw [indented?_eq]
    rfl

/-! ## The levels of a writer -/

/-- The writer's indent is made of the levels, and its lengths are theirs. -/
structure Holds (w : Writer) (levels : List Text) : Prop where
  indent : w.indent = levels.reverse.flatten
  lengths : w.lengths = levels.map List.length

namespace Holds

theorem pop_nil (h : w.Holds []) : w.popIndent? = some w ∧ w.popIndent = w := by
  have hlengths : w.lengths = [] := h.lengths
  simp [popIndent?, popIndent, hlengths]

/-- The cut by the length of the innermost level leaves the others. -/
theorem pop_cons {text : Text} (h : w.Holds (text :: levels)) :
    w.popIndent? = some w.popIndent ∧
      w.popIndent = { w with
        indent := levels.reverse.flatten, lengths := levels.map List.length } := by
  have hlengths : w.lengths = text.length :: levels.map List.length := h.lengths
  have hindent : w.indent = levels.reverse.flatten ++ text := by simpa using h.indent
  simp [popIndent?, popIndent, hlengths, hindent, Text.cutEnd?_append]

theorem popIndent?_eq (h : w.Holds levels) : w.popIndent? = some w.popIndent := by
  cases levels with
  | nil =>
    rw [h.pop_nil.2]
    exact h.pop_nil.1
  | cons text levels => exact h.pop_cons.1

theorem reset (w : Writer) (text : Text) : (w.reset text).Holds (startLevels text) := by
  cases text with
  | nil => exact ⟨rfl, rfl⟩
  | cons b text => exact ⟨by simp [Writer.reset, startLevels], rfl⟩

/-- **One change** of the stack is one of the levels. -/
theorem apply (h : w.Holds levels) (c : LevelChange) : (c.apply w).Holds (pending levels c) := by
  cases c with
  | push text =>
    refine ⟨?_, congrArg (text.length :: ·) h.lengths⟩
    simp [LevelChange.apply, pushIndent, pending, h.indent]
  | pop =>
    cases levels with
    | nil =>
      rw [LevelChange.apply, h.pop_nil.2]
      exact h
    | cons text levels =>
      rw [LevelChange.apply, h.pop_cons.2]
      exact ⟨rfl, rfl⟩
  | clear => exact ⟨rfl, rfl⟩
  | restart text => exact .reset w text

theorem foldl (h : w.Holds levels) (cs : List LevelChange) :
    (cs.foldl LevelChange.apply w).Holds (cs.foldl pending levels) := by
  induction cs generalizing w levels with
  | nil => exact h
  | cons c cs ih => exact ih (h.apply c)

end Holds

/-! ## Writing beside the stack -/

/-- Layout and stack are the same. -/
structure SameStack (w v : Writer) : Prop where
  layout : v.layout = w.layout
  indent : v.indent = w.indent
  lengths : v.lengths = w.lengths

namespace SameStack

theorem refl (w : Writer) : SameStack w w := ⟨rfl, rfl, rfl⟩

theorem trans (h : SameStack w v) (h' : SameStack v u) : SameStack w u :=
  ⟨h'.layout.trans h.layout, h'.indent.trans h.indent, h'.lengths.trans h.lengths⟩

theorem of_balanced (h : Balanced w v) : SameStack w v :=
  ⟨h.layout_indent.1, h.layout_indent.2.1, h.layout_indent.2.2⟩

theorem write (w : Writer) (s : Text) : SameStack w (w.write s) := .of_balanced (.write (.refl w) s)

theorem writeLine (w : Writer) (s : Text) : SameStack w (w.writeLine s) :=
  .of_balanced (.writeLine (.refl w) s)

theorem rawWrite (w : Writer) (s : Text) : SameStack w (w.rawWrite s) := by
  unfold Writer.rawWrite
  split <;> exact ⟨rfl, rfl, rfl⟩

theorem writeLiteral (w : Writer) (s : Text) : SameStack w (w.writeLiteral s) := by
  unfold Writer.writeLiteral
  split
  · exact .refl w
  · refine trans ?_ (.rawWrite _ s)
    unfold beginLine
    split <;> exact ⟨rfl, rfl, rfl⟩

theorem ensureNewline (w : Writer) : SameStack w w.ensureNewline := by
  unfold Writer.ensureNewline
  split <;> exact ⟨rfl, rfl, rfl⟩

/-- A directive stands on a line of its own. -/
theorem directive (w : Writer) (last : Option (Int64 × Text)) (s : Text) :
    SameStack w ({ w with lastLine := last }.ensureNewline.rawWriteLine s) := by
  have hstart : SameStack w { w with lastLine := last } := ⟨rfl, rfl, rfl⟩
  have hline := hstart.trans (.ensureNewline _)
  exact ⟨hline.layout, hline.indent, hline.lengths⟩

theorem linePragma (w : Writer) (line : Int64) (file : Text) :
    SameStack w (w.linePragma line file) := by
  unfold Writer.linePragma
  generalize w.layout.lineFile (if file.isEmpty then w.lineFile else file) = name
  dsimp only
  split
  · exact .refl w
  · exact .directive w _ _

theorem fileScopedNamespace (w : Writer) (name : Text) :
    SameStack w (w.fileScopedNamespace name) :=
  (SameStack.writeLine w _).trans ⟨rfl, rfl, rfl⟩

/-- What a change makes of the stack depends on the stack alone. -/
theorem apply (h : SameStack w v) (c : LevelChange) : SameStack (c.apply w) (c.apply v) := by
  obtain ⟨hlayout, hindent, hlengths⟩ := h
  cases c with
  | push text =>
    exact ⟨hlayout, congrArg (· ++ text) hindent, congrArg (text.length :: ·) hlengths⟩
  | pop =>
    simp only [LevelChange.apply, popIndent, hlengths]
    split
    · exact ⟨hlayout, hindent, hlengths⟩
    · exact ⟨hlayout, by simp [hindent], rfl⟩
  | clear => exact ⟨hlayout, rfl, rfl⟩
  | restart text => exact ⟨hlayout, rfl, rfl⟩

theorem foldl (h : SameStack w v) (cs : List LevelChange) :
    SameStack (cs.foldl LevelChange.apply w) (cs.foldl LevelChange.apply v) := by
  induction cs generalizing w v with
  | nil => exact h
  | cons c cs ih => exact ih (h.apply c)

end SameStack

theorem Holds.same (hw : w.Holds levels) (h : SameStack w v) : v.Holds levels :=
  ⟨h.indent.trans hw.indent, h.lengths.trans hw.lengths⟩

/-! ## Rows of changes -/

/-- The second writer has the layout of the first and the stack that the changes make of it. -/
def Follows (w : Writer) (cs : List LevelChange) (v : Writer) : Prop :=
  SameStack (cs.foldl LevelChange.apply w) v

namespace Follows

theorem refl (w : Writer) : Follows w [] w := SameStack.refl w

theorem trans (h : Follows w cs v) (h' : Follows v cs' u) : Follows w (cs ++ cs') u := by
  rw [Follows, List.foldl_append]
  exact (SameStack.foldl h cs').trans h'

/-- Writing beside the stack, behind the changes. -/
theorem same (h : Follows w cs v) (h' : SameStack v u) : Follows w cs u := SameStack.trans h h'

theorem change (h : Follows w cs v) (c : LevelChange) : Follows w (cs ++ [c]) (c.apply v) :=
  h.trans (.refl (c.apply v))

theorem addIndent (h : SameStack w v) : Follows w [.push w.layout.unit] v.addIndent := by
  rw [Writer.addIndent, h.layout]
  exact SameStack.apply h (.push w.layout.unit)

theorem of_opened (h : Opened w v) : Follows w [.push w.layout.unit] v := by
  obtain ⟨x, hx, rfl⟩ := h
  exact .addIndent (.of_balanced hx)

theorem closeScope (w : Writer) (tag : Text) : Follows w [.pop] (w.closeScope tag) :=
  ((Follows.refl w).change .pop).same (.writeLine _ tag)

theorem close (w : Writer) {scope : Scope} (hopen : scope.closed = false) :
    Follows w [.pop] (scope.close w).1 := by
  have hclosed := closeScope w scope.closeTag
  rw [Scope.close, hopen, if_neg (by decide)]
  dsimp only
  split
  · exact hclosed.same ⟨rfl, rfl, rfl⟩
  · exact hclosed

theorem pragmaElse (w : Writer) : Follows w [.pop, .push w.layout.unit] w.pragmaElse := by
  have hlayout : w.popIndent.layout = w.layout := by
    unfold popIndent
    split <;> rfl
  have hpop := (Follows.refl w).change .pop
  rw [← hlayout]
  exact hpop.trans (.addIndent (.writeLine w.popIndent (utf8 "#else")))

theorem holds (h : Follows w cs v) (hw : w.Holds levels) : v.Holds (cs.foldl pending levels) :=
  (hw.foldl cs).same h

end Follows

/-- Each edit leaves a stack whose indent is made of its levels. -/
theorem Edit.holds {allowed : Int → Writer → Prop} (h : Edit allowed w v) (hw : w.Holds levels) :
    ∃ levels', v.Holds levels' := by
  cases h with
  | write s => exact ⟨_, hw.same (.write w s)⟩
  | rawWrite s => exact ⟨_, hw.same (.rawWrite w s)⟩
  | writeLiteral s => exact ⟨_, hw.same (.writeLiteral w s)⟩
  | endLine | blankLine | remember => exact ⟨levels, hw.same ⟨rfl, rfl, rfl⟩⟩
  | pushIndent s => exact ⟨_, hw.apply (.push s)⟩
  | popIndent => exact ⟨_, hw.apply .pop⟩
  | clearIndent => exact ⟨_, hw.apply .clear⟩
  | reset s => exact ⟨_, .reset w s⟩

theorem Edits.holds {allowed : Int → Writer → Prop} (h : Edits allowed w v)
    (hw : w.Holds levels) : ∃ levels', v.Holds levels' := by
  induction h with
  | refl => exact ⟨levels, hw⟩
  | tail _ hedit ih =>
    obtain ⟨levels', hlevels⟩ := ih
    exact hedit.holds hlevels

end Writer

/-! ## Programs -/

/-- Whether a scope can still be closed. -/
def Session.isOpen (s : Session) : Int → Bool
  | .ofNat k => s.scopes[k]?.any (!·.closed)
  | .negSucc _ => false

/-- One more level of the layout's indent. -/
def Session.level (s : Session) : LevelChange := .push s.writer.layout.unit

namespace CodeOp

open Writer (SameStack Follows Edits)

mutual

/-- The changes an operation makes to the stack. A level that a builder opens and closes itself is
none of them. -/
def changes : CodeOp → Session → List LevelChange
  | .pushIndent text, _ => [.push text]
  | .addIndent, s => [s.level]
  | .openScope _, s => [s.level]
  | .popIndent, _ => [.pop]
  | .closeScope _, _ => [.pop]
  | .clearIndent, _ => [.clear]
  | .reset text, _ => [.restart text]
  | .pragmaElse, s => [.pop, s.level]
  | .close n, s => if s.isOpen n then [.pop] else []
  | .ifThen condition body none, s => s.level :: bodyChanges body (enter (·.ifLine condition) s)
  | .ifThen condition body (some other), s =>
    let inner := enter (·.ifLine condition) s
    s.level :: bodyChanges body inner ++ match runBody body inner with
      | (s, .nothing) => s.level :: bodyChanges other (enter Writer.elseLine s)
      | _ => []
  | .elseIf condition body none, s =>
    s.level :: bodyChanges body (enter (·.elseIfLine condition) s)
  | .elseIf condition body (some other), s =>
    let inner := enter (·.elseIfLine condition) s
    s.level :: bodyChanges body inner ++ match runBody body inner with
      | (s, .nothing) => s.level :: bodyChanges other (enter Writer.elseLine s)
      | _ => []
  | .otherwise body, s => s.level :: bodyChanges body (enter Writer.elseLine s)
  | op, s => if op.opens?.isSome then [s.level] else []

/-- The changes of the rest of a body and the brace that closes it. -/
def bodyChanges : List CodeOp → Session → List LevelChange
  | [], _ => [.pop]
  | op :: ops, s =>
    changes op s ++ match op.run s with
      | (_, .unknownAccess _) => [.pop]
      | (s, _) => bodyChanges ops s

/-- The changes of operations that are run one after the other. -/
def stepChanges : List CodeOp → Session → List LevelChange
  | [], _ => []
  | op :: ops, s => changes op s ++ stepChanges ops (op.run s).1

end

variable {op : CodeOp} {c : Conditional}

/-- The changes of a statement with a body are those of the body, and of the other body if the first
is run to its end. -/
theorem changes_conditional (h : op.conditional? = some c) (s : Session) :
    op.changes s = s.level :: bodyChanges c.body (enter c.line s) ++
      match c.other with
      | none => []
      | some other =>
        match runBody c.body (enter c.line s) with
        | (s, .nothing) => s.level :: bodyChanges other (enter Writer.elseLine s)
        | _ => [] := by
  cases op with
  | ifThen condition body other | elseIf condition body other =>
    cases h
    cases other with
    | none => rw [changes, List.append_nil]
    | some other => simp only [changes]
  | otherwise body =>
    cases h
    rw [changes, List.append_nil]
  | _ => cases h

theorem changes_opens {f : Writer → Writer × Scope} (h : op.opens? = some f) (s : Session) :
    op.changes s = [s.level] := by
  cases op with
  | block | namespaceBlock | classType | interfaceType | beginEnum | method | localMethod
  | constructorBlock | staticConstructor | pragmaIf => simp [changes, h]
  | _ => cases h

theorem follows_close (s : Session) (n : Int) :
    Follows s.writer ((close n).changes s) (s.close n).writer := by
  cases n with
  | negSucc k => exact .refl s.writer
  | ofNat k =>
    rw [changes, Session.isOpen, Session.close]
    cases s.scopes[k]? with
    | none => exact .refl s.writer
    | some scope =>
      cases hclosed : scope.closed with
      | true =>
        simp only [Option.any_some, hclosed, Scope.close]
        exact .refl s.writer
      | false =>
        simp only [Option.any_some, hclosed]
        exact .close s.writer hclosed

/-- What an operation makes of the stack that runs no others. -/
theorem follows_plain (hop : op.IsPlain) (s : Session) :
    Follows s.writer (op.changes s) (op.run s).1.writer := by
  have hwrites {f : Writer → Writer} (h : op.writes? = some f) :
      Follows s.writer [] (op.run s).1.writer := by
    obtain ⟨hrun, hbalanced⟩ := run_writes h s
    rw [hrun]
    exact SameStack.of_balanced hbalanced
  have hopens {f : Writer → Writer × Scope} (h : op.opens? = some f) :
      Follows s.writer (op.changes s) (op.run s).1.writer := by
    obtain ⟨hrun, hopened, -⟩ := run_opens h s
    rw [hrun, changes_opens h]
    exact .of_opened hopened
  cases op with
  | ifThen | elseIf | otherwise | nested => exact hop.elim
  | write | writeLine | writeBlock | comment | summary | attributeLine | usingLine =>
    exact hwrites rfl
  | enum _ access | emptyMethod _ _ access | readonlyProperty _ _ _ access =>
    cases ha : Access.ofNumber? access with
    | none =>
      rw [run, withAccess, ha]
      exact .refl s.writer
    | some a => exact hwrites (by rw [writes?, ha]; rfl)
  | autoProperty _ _ _ access setter =>
    cases hb : Access.ofNumber? setter with
    | none =>
      rw [run, withAccess, hb]
      exact .refl s.writer
    | some b =>
      cases ha : Access.ofNumber? access with
      | none =>
        rw [run, withAccess_eq hb, withAccess, ha]
        exact .refl s.writer
      | some a => exact hwrites (by rw [writes?, hb, ha]; rfl)
  | block | namespaceBlock | localMethod | staticConstructor | pragmaIf => exact hopens rfl
  | classType _ _ access | interfaceType _ _ access | beginEnum _ access | method _ _ access
  | constructorBlock _ _ access =>
    cases ha : Access.ofNumber? access with
    | none =>
      simp only [run, withAccess, ha, changes, opens?]
      exact .refl s.writer
    | some a => exact hopens (by rw [opens?, ha]; rfl)
  | rawWrite text => exact SameStack.rawWrite s.writer text
  | writeLiteral text => exact SameStack.writeLiteral s.writer text
  | ensureNewline => exact SameStack.ensureNewline s.writer
  | lineDefault | lineHidden => exact SameStack.directive s.writer none _
  | linePragma line file => exact SameStack.linePragma s.writer line file
  | fileScopedNamespace name => exact SameStack.fileScopedNamespace s.writer name
  | rawWriteLine | setLineFile | blankLine | quote | quoteEscaped | lineFile =>
    exact ⟨rfl, rfl, rfl⟩
  | openScope text => exact .addIndent (.writeLine s.writer text)
  | addIndent => exact .addIndent (.refl s.writer)
  | pushIndent text => exact (Follows.refl s.writer).change (.push text)
  | popIndent => exact (Follows.refl s.writer).change .pop
  | clearIndent => exact (Follows.refl s.writer).change .clear
  | reset text => exact (Follows.refl s.writer).change (.restart text)
  | closeScope text => exact .closeScope s.writer text
  | pragmaElse => exact .pragmaElse s.writer
  | close n => exact follows_close s n

theorem follows_enter (text : Text) (s : Session) :
    Follows s.writer [s.level] (enter (·.writeLine text) s).writer :=
  .addIndent ((SameStack.writeLine s.writer text).trans (.writeLine _ _))

theorem follows_cases : Cases
    (fun op => ∀ s, Follows s.writer (op.changes s) (op.run s).1.writer)
    (fun ops => ∀ s, Follows s.writer (bodyChanges ops s) (runBody ops s).1.writer ∧
      Follows s.writer (stepChanges ops s) (runSteps ops s).1.writer) where
  plain op hop s := follows_plain hop s
  conditional op c hc hbody hother s := by
    obtain ⟨text, hline⟩ := line_conditional hc
    have henter : Follows s.writer [s.level] (enter c.line s).writer := by
      rw [hline]
      exact follows_enter text s
    have hrun := henter.trans (hbody (enter c.line s)).1
    rw [run_conditional hc, changes_conditional hc]
    cases hsome : c.other with
    | none =>
      rw [List.append_nil]
      exact hrun
    | some other =>
      dsimp only
      rcases hs' : runBody c.body (enter c.line s) with ⟨s', answer⟩
      rw [hs'] at hrun
      cases answer with
      | nothing =>
        have helse := (hother other hsome (enter Writer.elseLine s')).1
        exact hrun.trans ((follows_enter _ s').trans helse)
      | _ =>
        rw [List.append_nil]
        exact hrun
  nested ops splice hops s := by
    simp only [run]
    cases splice with
    | false => exact .refl s.writer
    | true => exact SameStack.rawWrite s.writer _
  nil s := ⟨.close s.writer rfl, .refl s.writer⟩
  cons op ops hop hops s := by
    refine ⟨?_, (hop s).trans (hops _).2⟩
    have hfirst := hop s
    rw [bodyChanges, runBody]
    rcases hs' : op.run s with ⟨s', answer⟩
    rw [hs'] at hfirst
    cases answer with
    | unknownAccess n => exact hfirst.trans (.close s'.writer rfl)
    | _ => exact hfirst.trans (hops s').1

theorem edits_runSteps (ops : List CodeOp) (s : Session) :
    Edits (fun _ _ => True) s.writer (runSteps ops s).1.writer := by
  have hmoves : Session.Moves (fun _ _ => True) s (runSteps ops s).1 :=
    (moves_cases.ops ops s).2 fun _ _ _ => trivial
  exact hmoves.edits

/-- Where a writer comes from. The writer of a nested program is nested in the one it is run on. -/
inductive Origin where
  | fresh (layout : Layout)
  | nestedIn (outer : Writer)

def Origin.session : Origin → Session
  | fresh layout => .ofWriter (.ofLayout layout)
  | nestedIn outer => .ofWriter outer.nested

/-- The levels at the start. -/
def Origin.levels : Origin → List Text
  | fresh _ => []
  | nestedIn outer => startLevels outer.indent

theorem Origin.holds (origin : Origin) : origin.session.writer.Holds origin.levels := by
  cases origin with
  | fresh layout => exact ⟨rfl, rfl⟩
  | nestedIn outer => exact .reset outer outer.indent

/-- **The indent stack, in every run.** On a writer that is new or nested in another, the indent is
made of the texts that are pushed and not yet popped, and the lengths are theirs. What an operation
does that is called, on it or on a writer nested in it, is a row of edits. On each writer that edits
lead to, a pop of no level does nothing, a pop gives back the indent from before the push that it
matches, and the cuts of a pop and of every text that is written are in range. -/
theorem indent_pending (origin : Origin) :
    (∀ ops, let s := (runSteps ops origin.session).1
      let levels := (stepChanges ops origin.session).foldl pending origin.levels
      s.writer.indent = levels.reverse.flatten ∧ s.writer.lengths = levels.map List.length ∧
      Edits (fun _ _ => True) origin.session.writer s.writer ∧
      ∀ o t, RunCalls false ops origin.session o t →
        Edits (fun _ _ => True) origin.session.writer t.writer ∧
        Edits (fun _ _ => True) t.writer (o.run t).1.writer) ∧
    ∀ w, Edits (fun _ _ => True) origin.session.writer w →
      (w.lengths = [] → w.popIndent = w) ∧
      (∀ scopes ops text inner, stepChanges ops ⟨w, scopes⟩ = .push text :: inner → Matched inner →
        let v := (runSteps ops ⟨w, scopes⟩).1.writer
        v.popIndent.indent = w.indent ∧ v.popIndent.lengths = w.lengths) ∧
      w.popIndent? = some w.popIndent ∧ ∀ text, w.write? text = some (w.write text) := by
  -- The levels of the run are known; those of a writer on the way need only be some levels.
  refine ⟨fun ops => ?_, fun w hw => ?_⟩
  · have hrun := ((follows_cases.ops ops origin.session).2).holds origin.holds
    refine ⟨hrun.indent, hrun.lengths, edits_runSteps ops _, fun o t ho => ?_⟩
    exact ⟨ho.edits fun _ _ _ => trivial, (moves_run o t fun _ _ _ => trivial).edits⟩
  · obtain ⟨levels, hlevels⟩ := hw.holds origin.holds
    refine ⟨fun hnil => by rw [Writer.popIndent, hnil], fun scopes ops text inner hops hinner => ?_,
      hlevels.popIndent?_eq, w.write?_eq⟩
    have hrun := ((follows_cases.ops ops ⟨w, scopes⟩).2).holds hlevels
    rw [hops, List.foldl_cons, hinner.pending] at hrun
    have hpop := hrun.apply .pop
    exact ⟨hpop.indent.trans hlevels.indent.symm, hpop.lengths.trans hlevels.lengths.symm⟩

/-- More pops than pushes on a nested writer, and a class with a base between a push and its pop. -/
theorem indent_pending_nested :
    let origin := Origin.nestedIn (Writer.pushIndent (.ofLayout .standard) (utf8 "\t"))
    let ops : List CodeOp := [.block, .popIndent, .popIndent, .popIndent, .pushIndent (utf8 "> ")]
    let w := (runSteps ops origin.session).1.writer
    let more : List CodeOp :=
      [.pushIndent (utf8 "| "), .classType (utf8 "A") (utf8 "B") 0 0, .close 0]
    let v := (runSteps more ⟨w, []⟩).1.writer
    origin.session.writer.indent = utf8 "\t" ∧ w.indent = utf8 "> " ∧
      stepChanges more ⟨w, []⟩ = [.push (utf8 "| "), .push (utf8 "    "), .pop] ∧
      v.indent = utf8 "> | " ∧ v.popIndent.indent = utf8 "> " ∧
      v.popIndent? = some v.popIndent := by
  intro origin ops w more v
  obtain ⟨hrun, hreached⟩ := indent_pending origin
  obtain ⟨hindent, -, hw, -⟩ := hrun ops
  have hpending : w.indent = utf8 "> " := hindent.trans (by decide +kernel)
  have hmore : stepChanges more ⟨w, []⟩ = [.push (utf8 "| "), .push (utf8 "    "), .pop] := by
    decide +kernel
  have hinner : Matched [.push (utf8 "    "), .pop] := .level _ .nil .nil
  obtain ⟨-, hpop, -⟩ := hreached w hw
  obtain ⟨-, -, hcut, -⟩ := hreached v (hw.trans (edits_runSteps more ⟨w, []⟩))
  exact ⟨by decide +kernel, hpending, hmore, by decide +kernel,
    (hpop [] more _ _ hmore hinner).1.trans hpending, hcut⟩

end CodeOp
end TextTemplate
