/-
Balance: what the builders of the code writer do to the indent.

`Balanced` are the edits that come back to the indent they started from: text, line ends, and parts
one level further in, each closed by the level it opened. The writing operations (`writes?`) are
balanced, and those that open a scope (`opens?`) are so up to the level they leave open, whatever
their names, modifiers and parameters are (`run_writes`, `run_opens`).
-/
import TextTemplate.Code.Program
import TextTemplate.Proofs.Code.Chunks

namespace TextTemplate

/-! ## Balanced edits -/

namespace Writer

/-- Edits that come back to the indent they started from. -/
inductive Balanced : Writer → Writer → Prop where
  | refl (w : Writer) : Balanced w w
  | write {w v : Writer} (h : Balanced w v) (s : Text) : Balanced w (v.write s)
  | endLine {w v : Writer} (h : Balanced w v) : Balanced w v.endLine
  | remember {w v : Writer} (h : Balanced w v) (usings : Nat) :
    Balanced w { v with usings := usings }
  | further {w v u : Writer} (h : Balanced w v) (hin : Balanced v.addIndent u) :
    Balanced w u.popIndent

/-- Balanced edits, and a level that is left open behind them. -/
def Opened (w w' : Writer) : Prop := ∃ v, Balanced w v ∧ w' = v.addIndent

variable {w v u : Writer}

namespace Balanced

theorem trans (h : Balanced w v) (h' : Balanced v u) : Balanced w u := by
  induction h' with
  | refl => exact h
  | write _ s ih => exact (ih h).write s
  | endLine _ ih => exact (ih h).endLine
  | remember _ usings ih => exact (ih h).remember usings
  | further _ hin ih _ => exact (ih h).further hin

theorem writeLine (h : Balanced w v) (s : Text) : Balanced w (v.writeLine s) := (h.write s).endLine

theorem skipLine (h : Balanced w v) : Balanced w (v.rawWriteLine []) := by
  have heq : v.rawWriteLine [] = v.endLine := by simp [rawWriteLine, Writer.endLine]
  rw [heq]
  exact h.endLine

theorem writeBlock (h : Balanced w v) (block : Text) : Balanced w (v.writeBlock block) := by
  unfold Writer.writeBlock
  generalize linesOf block = lines
  induction lines generalizing v with
  | nil => exact h
  | cons line lines ih =>
    rw [List.foldl_cons]
    apply ih
    split
    · exact h.skipLine
    · exact h.writeLine line

theorem summary (h : Balanced w v) (text : Text) : Balanced w (v.summary text) := by
  have lines (ls : List Text) {v : Writer} (hv : Balanced w v) :
      Balanced w (ls.foldl (fun v line =>
        v.writeLine (utf8 "/// " ++ line.runes.flatMap Rune.escapeElement)) v) := by
    induction ls generalizing v with
    | nil => exact hv
    | cons line ls ih => exact ih (hv.writeLine _)
  unfold Writer.summary
  split
  · exact h
  · exact (lines _ (h.writeLine _)).writeLine _

theorem enumTags (h : Balanced w v) (tags : List Text) : Balanced w (v.enumTags tags) := by
  induction tags generalizing v with
  | nil => exact h
  | cons tag tags ih =>
    cases tags with
    | nil => exact h.writeLine tag
    | cons next tags => exact ih (h.writeLine _)

theorem usingLine (h : Balanced w v) (name : Text) : Balanced w (v.usingLine name) :=
  (h.writeLine _).remember _

theorem innerLine (h : Balanced w v) (s : Text) : Balanced w (v.innerLine s) :=
  h.further ((refl _).writeLine s)

theorem openScope (h : Balanced w v) (tag : Text) : Opened w (v.openScope tag) :=
  ⟨_, h.writeLine tag, rfl⟩

theorem classType (h : Balanced w v) (name base : Text) (access : Access) (mods : Modifiers) :
    Opened w (v.classType name base access mods).1 := by
  unfold Writer.classType
  dsimp only
  split
  · exact (h.writeLine _).openScope _
  · exact ((h.writeLine _).innerLine _).openScope _

theorem constructorBlock (h : Balanced w v) (name base : Text) (access : Access)
    (mods : Modifiers) (ps : List Parameter) :
    Opened w (v.constructorBlock name base access mods ps).1 := by
  unfold Writer.constructorBlock
  dsimp only
  split
  · exact (h.writeLine _).openScope _
  · exact ((h.writeLine _).innerLine _).openScope _

end Balanced

namespace Opened

theorem closeScope (h : Opened w v) (hin : Balanced v u) (tag : Text) :
    Balanced w (u.closeScope tag) := by
  obtain ⟨x, hx, rfl⟩ := h
  exact (hx.further hin).writeLine tag

theorem close (h : Opened w v) (hin : Balanced v u) (scope : Scope)
    (hscope : scope.closed = false) : Balanced w (scope.close u).1 := by
  unfold Scope.close
  rw [hscope]
  simp only [Bool.false_eq_true, if_false]
  split
  · exact (h.closeScope hin _).skipLine
  · exact h.closeScope hin _

/-- The other part of a region takes the place of the first: the level is closed and opened again. -/
theorem pragmaElse (h : Opened w v) (hin : Balanced v u) : Opened w u.pragmaElse :=
  ⟨_, h.closeScope hin _, rfl⟩

end Opened

theorem Balanced.layout_indent (h : Balanced w v) :
    v.layout = w.layout ∧ v.indent = w.indent ∧ v.lengths = w.lengths := by
  induction h with
  | refl => exact ⟨rfl, rfl, rfl⟩
  | write _ s ih =>
    by_cases hs : s = []
    · subst hs
      exact ih
    · rw [write_eq _ hs]
      exact ih
  | endLine _ ih => exact ih
  | remember _ _ ih => exact ih
  | @further _ v u _ _ ih ihin =>
    obtain ⟨hlayout, hindent, hlengths⟩ := ihin
    have hpop : u.popIndent = { u with indent := v.indent, lengths := v.lengths } := by
      have hlevels : u.lengths = v.layout.unit.length :: v.lengths := hlengths
      rw [popIndent, hlevels]
      simp [hindent, addIndent, pushIndent]
    rw [hpop]
    exact ⟨hlayout.trans ih.1, ih.2⟩

end Writer

/-! ## Operations -/

namespace CodeOp

open Writer (Balanced Opened)

/-- What an operation writes that comes back to the indent, if it is one and names known accesses. -/
def writes? : CodeOp → Option (Writer → Writer)
  | .write text => some (·.write text)
  | .writeLine text => some (·.writeLine text)
  | .writeBlock text => some (·.writeBlock text)
  | .comment text => some (·.comment text)
  | .summary text => some (·.summary text)
  | .attributeLine text => some (·.attributeLine text)
  | .usingLine name => some (·.usingLine name)
  | .enum name access tags =>
    (Access.ofNumber? access).map fun a w => w.enum name a tags
  | .emptyMethod name type access mods ps =>
    (Access.ofNumber? access).map fun a w => w.emptyMethod name type a mods ps
  | .autoProperty type name initializer access setter mods =>
    (Access.ofNumber? setter).bind fun b =>
      (Access.ofNumber? access).map fun a w => w.autoProperty type name initializer a b mods
  | .readonlyProperty type name value access mods =>
    (Access.ofNumber? access).map fun a w => w.readonlyProperty type name value a mods
  | _ => none

/-- The scope an operation opens, if it opens one and names a known access. -/
def opens? : CodeOp → Option (Writer → Writer × Scope)
  | .block => some Writer.block
  | .namespaceBlock name => some (·.namespaceBlock name)
  | .classType name base access mods =>
    (Access.ofNumber? access).map fun a w => w.classType name base a mods
  | .interfaceType name base access =>
    (Access.ofNumber? access).map fun a w => w.interfaceType name base a
  | .beginEnum name access =>
    (Access.ofNumber? access).map fun a w => w.beginEnum name a
  | .method name type access mods ps =>
    (Access.ofNumber? access).map fun a w => w.method name type a mods ps
  | .localMethod name isStatic type ps => some (·.localMethod name isStatic type ps)
  | .constructorBlock name base access mods ps =>
    (Access.ofNumber? access).map fun a w => w.constructorBlock name base a mods ps
  | .staticConstructor name => some (·.staticConstructor name)
  | .pragmaIf condition => some (·.pragmaIf condition)
  | _ => none

variable {op : CodeOp} {ops : List CodeOp} {s t : Session}

theorem withAccess_eq {n : Int} {a : Access} (ha : Access.ofNumber? n = some a) (s : Session)
    (f : Access → Session × CodeAnswer) : withAccess s n f = f a := by
  rw [withAccess, ha]

theorem run_writes {f : Writer → Writer} (h : op.writes? = some f) (s : Session) :
    op.run s = written s f ∧ Balanced s.writer (f s.writer) := by
  have hstart := Balanced.refl s.writer
  cases op with
  | write text =>
    cases h
    exact ⟨rfl, hstart.write text⟩
  | writeLine | comment | attributeLine =>
    cases h
    exact ⟨rfl, hstart.writeLine _⟩
  | writeBlock text =>
    cases h
    exact ⟨rfl, hstart.writeBlock text⟩
  | summary text =>
    cases h
    exact ⟨rfl, hstart.summary text⟩
  | usingLine name =>
    cases h
    exact ⟨rfl, hstart.usingLine name⟩
  | enum name access tags =>
    obtain ⟨a, ha, rfl⟩ := Option.map_eq_some_iff.1 h
    refine ⟨withAccess_eq ha s _, ?_⟩
    exact ((hstart.writeLine _).openScope _).close (Balanced.enumTags (.refl _) tags)
      .braceLine rfl
  | emptyMethod name type access mods ps =>
    obtain ⟨a, ha, rfl⟩ := Option.map_eq_some_iff.1 h
    refine ⟨withAccess_eq ha s _, ?_⟩
    exact ((hstart.writeLine _).openScope _).close (.refl _) .braceLine rfl
  | autoProperty type name initializer access setter mods =>
    obtain ⟨b, hb, hrest⟩ := Option.bind_eq_some_iff.1 h
    obtain ⟨a, ha, rfl⟩ := Option.map_eq_some_iff.1 hrest
    refine ⟨?_, hstart.writeLine _⟩
    rw [run, withAccess_eq hb, withAccess_eq ha]
  | readonlyProperty type name value access mods =>
    obtain ⟨a, ha, rfl⟩ := Option.map_eq_some_iff.1 h
    refine ⟨withAccess_eq ha s _, ?_⟩
    exact ((hstart.writeLine _).openScope _).closeScope (Balanced.writeLine (.refl _) _) _
  | _ => cases h

theorem run_opens {f : Writer → Writer × Scope} (h : op.opens? = some f) (s : Session) :
    op.run s = opened s f ∧ Opened s.writer (f s.writer).1 ∧ (f s.writer).2.closed = false := by
  have hstart := Balanced.refl s.writer
  cases op with
  | block =>
    cases h
    exact ⟨rfl, hstart.openScope _, rfl⟩
  | namespaceBlock | localMethod | staticConstructor =>
    cases h
    exact ⟨rfl, (hstart.writeLine _).openScope _, rfl⟩
  | pragmaIf condition =>
    cases h
    exact ⟨rfl, hstart.openScope _, rfl⟩
  | classType name base access mods =>
    obtain ⟨a, ha, rfl⟩ := Option.map_eq_some_iff.1 h
    exact ⟨withAccess_eq ha s _, hstart.classType .., rfl⟩
  | constructorBlock name base access mods ps =>
    obtain ⟨a, ha, rfl⟩ := Option.map_eq_some_iff.1 h
    exact ⟨withAccess_eq ha s _, hstart.constructorBlock .., rfl⟩
  | interfaceType | beginEnum | method =>
    obtain ⟨a, ha, rfl⟩ := Option.map_eq_some_iff.1 h
    exact ⟨withAccess_eq ha s _, (hstart.writeLine _).openScope _, rfl⟩
  | _ => cases h

end CodeOp
end TextTemplate
