/-
Lines: what the operations of the code writer add, said as text. A writer at the start of a line
that writes whole lines is at the start of a line again, and what it adds depends on the layout and
the indent alone. `Adds w t w'` says that `w'` comes from `w` by adding the lines `t`; each
operation has one lemma that carries the relation on, and a longer text is a chain of them.
-/
import TextTemplate.Code.Declaration
import TextTemplate.Proofs.Text.Basic

namespace TextTemplate

/-! ## Lines as texts -/

/-- The line of a text at an indent; the line of no text is empty. -/
def Layout.line (l : Layout) (indent s : Text) : Text :=
  (if s.isEmpty then [] else indent ++ Writer.indented indent s) ++ l.newline

/-- A line of a block of code at an indent: blank lines are empty. -/
def Layout.codeLine (l : Layout) (indent line : Text) : Text :=
  if line.isBlank then l.newline else indent ++ line ++ l.newline

/-- A text with the indent behind each of its line feeds. -/
def Text.behindFeeds (indent s : Text) : Text :=
  s.flatMap fun b => if b = 0x0A then b :: indent else [b]

namespace Writer

theorem indented_eq {s : Text} (h : endsWithLF s = false) (indent : Text) :
    indented indent s = Text.behindFeeds indent s := by
  simp [indented, h, Text.behindFeeds]

theorem behindFeeds_append (indent s t : Text) :
    Text.behindFeeds indent (s ++ t) = Text.behindFeeds indent s ++ Text.behindFeeds indent t :=
  List.flatMap_append

theorem behindFeeds_of_not_mem {s : Text} (h : 0x0A ∉ s) (indent : Text) :
    Text.behindFeeds indent s = s := by
  induction s with
  | nil => rfl
  | cons b s ih =>
    obtain ⟨hb, hs⟩ := not_or.1 (mt List.mem_cons.2 h)
    rw [Text.behindFeeds, List.flatMap_cons, if_neg (fun h => hb h.symm)]
    exact congrArg (b :: ·) (ih hs)

theorem endsWithLF_of_not_mem {s : Text} (h : 0x0A ∉ s) : endsWithLF s = false := by
  rw [endsWithLF, beq_eq_false_iff_ne]
  exact fun hlast => h (List.mem_of_getLast? hlast)

theorem line_eq {s : Text} (hs : s ≠ []) (h : endsWithLF s = false) (l : Layout) (indent : Text) :
    l.line indent s = indent ++ Text.behindFeeds indent s ++ l.newline := by
  have hne : s.isEmpty = false := List.isEmpty_eq_false_iff.2 hs
  rw [Layout.line, hne, indented_eq h]
  rfl

theorem line_of_not_mem {s : Text} (hs : s ≠ []) (h : 0x0A ∉ s) (l : Layout) (indent : Text) :
    l.line indent s = indent ++ s ++ l.newline := by
  rw [line_eq hs (endsWithLF_of_not_mem h), behindFeeds_of_not_mem h]

/-! ## Adding lines -/

/-- Whether the next text starts a line. -/
def AtLine (w : Writer) : Prop := (w.out.isEmpty || w.endsLine) = true

/-- A writer at the start of a line, with a layout, an indent and no file of its own. -/
structure Stands (w : Writer) (l : Layout) (indent : Text) : Prop where
  atLine : w.AtLine
  layout : w.layout = l
  indent : w.indent = indent
  lineFile : w.lineFile = []

/-- From the first writer the second comes by adding lines. What `#line` directive is in force and
how many using directives there were is left open. -/
structure Adds (w : Writer) (t : Text) (w' : Writer) : Prop where
  layout : w'.layout = w.layout
  indent : w'.indent = w.indent
  lengths : w'.lengths = w.lengths
  lineFile : w'.lineFile = w.lineFile
  out : w'.out = w.out ++ t
  atLine : w'.AtLine

variable {w w' v : Writer} {l : Layout} {i t u : Text}

theorem Stands.adds (hw : w.Stands l i) : Adds w [] w :=
  ⟨rfl, rfl, rfl, rfl, (List.append_nil _).symm, hw.atLine⟩

theorem Stands.addIndent (hw : w.Stands l i) : w.addIndent.Stands l (i ++ l.unit) := by
  refine ⟨hw.atLine, hw.layout, ?_, hw.lineFile⟩
  rw [Writer.addIndent, pushIndent, hw.indent, hw.layout]

namespace Adds

theorem stands (h : Adds w t w') (hw : w.Stands l i) : w'.Stands l i :=
  ⟨h.atLine, h.layout.trans hw.layout, h.indent.trans hw.indent, h.lineFile.trans hw.lineFile⟩

theorem trans (h : Adds w t w') (h' : Adds w' u v) : Adds w (t ++ u) v :=
  ⟨h'.layout.trans h.layout, h'.indent.trans h.indent, h'.lengths.trans h.lengths,
    h'.lineFile.trans h.lineFile, by rw [h'.out, h.out, List.append_assoc], h'.atLine⟩

theorem beginLine (h : Adds w t w') :
    w'.beginLine = { w' with out := w'.out ++ w'.indent, endsLine := false } :=
  if_pos h.atLine

theorem ensureNewline (h : Adds w t w') : w'.ensureNewline = w' := by
  have hline : (!w'.out.isEmpty && !w'.endsLine) = false := by
    rw [← Bool.not_or, h.atLine]
    rfl
  rw [Writer.ensureNewline, hline]
  rfl

/-- What is only remembered can change between lines. -/
theorem remember (h : Adds w t w') (last : Option (Int64 × Text)) (usings : Nat) :
    Adds w t { w' with lastLine := last, usings := usings } :=
  ⟨h.layout, h.indent, h.lengths, h.lineFile, h.out, h.atLine⟩

theorem writeLine (h : Adds w t w') (hw : w.Stands l i) (s : Text) :
    Adds w (t ++ l.line i s) (w'.writeLine s) := by
  obtain ⟨-, rfl, rfl, -⟩ := hw
  refine ⟨?_, ?_, ?_, ?_, ?_, by simp [AtLine, Writer.writeLine, endLine]⟩
  all_goals
    unfold Writer.writeLine Writer.write endLine
    cases hs : s.isEmpty
  all_goals simp [h.beginLine, Layout.line, h.layout, h.indent, h.lengths, h.lineFile, h.out, hs]

theorem rawWriteLine (h : Adds w t w') (hw : w.Stands l i) (s : Text) :
    Adds w (t ++ (s ++ l.newline)) (w'.rawWriteLine s) := by
  obtain ⟨-, rfl, rfl, -⟩ := hw
  refine ⟨h.layout, h.indent, h.lengths, h.lineFile, ?_,
    by simp [AtLine, Writer.rawWriteLine, endLine]⟩
  simp [Writer.rawWriteLine, endLine, h.out, h.layout]

theorem blankLine (h : Adds w t w') (hw : w.Stands l i) :
    Adds w (t ++ l.newline) (w'.blankLine 1) := by
  obtain ⟨-, rfl, rfl, -⟩ := hw
  refine ⟨h.layout, h.indent, h.lengths, h.lineFile, ?_, by simp [AtLine, Writer.blankLine]⟩
  simp [Writer.blankLine, h.out, h.layout]

/-- Text that is added as it is, with the end of its last line. -/
theorem rawLines (h : Adds w t w') (hw : w.Stands l i) (s : Text) :
    Adds w (t ++ (s ++ l.newline)) ((w'.rawWrite s).rawWriteLine []) := by
  have hraw : (w'.rawWrite s).rawWriteLine [] = w'.rawWriteLine s := by
    cases s with
    | nil => rfl
    | cons b s => simp [rawWrite, Writer.rawWriteLine, endLine]
  rw [hraw]
  exact h.rawWriteLine hw s

/-- A literal on lines of its own. -/
theorem literalLine (h : Adds w t w') (hw : w.Stands l i) {s : Text} (hs : s ≠ []) :
    Adds w (t ++ (i ++ s ++ l.newline)) ((w'.writeLiteral s).rawWriteLine []) := by
  obtain ⟨-, rfl, rfl, -⟩ := hw
  have hne : s.isEmpty = false := List.isEmpty_eq_false_iff.2 hs
  refine ⟨?_, ?_, ?_, ?_, ?_, by simp [AtLine, Writer.rawWriteLine, endLine]⟩
  all_goals
    simp [writeLiteral, hne, h.beginLine, rawWrite, Writer.rawWriteLine, endLine, h.layout,
      h.indent, h.lengths, h.lineFile, h.out]

/-- A block adds its lines. -/
theorem writeBlock (h : Adds w t w') (hw : w.Stands l i) (block : Text) :
    Adds w (t ++ (linesOf block).flatMap (l.codeLine i)) (w'.writeBlock block) := by
  have hlf : ∀ line ∈ linesOf block, 0x0A ∉ line := Text.sep_not_mem_pieces _ _
  unfold Writer.writeBlock
  generalize linesOf block = lines at hlf
  induction lines generalizing t w' with
  | nil => simpa using h
  | cons line lines ih =>
    rw [List.foldl_cons, List.flatMap_cons, ← List.append_assoc]
    refine ih ?_ fun s hs => hlf s (List.mem_cons_of_mem _ hs)
    rw [Layout.codeLine]
    split
    · exact h.rawWriteLine hw []
    · next hblank =>
      have hne : line ≠ [] := by
        rintro rfl
        exact hblank rfl
      rw [← line_of_not_mem hne (hlf line List.mem_cons_self)]
      exact h.writeLine hw line

/-! ## Line directives -/

/-- A `#line` directive adds its line, or nothing when it is in force. -/
theorem linePragma (h : Adds w t w') (hw : w.Stands l i) (line : Int64) (file : Text) :
    ∃ d, (d = [] ∨ d = lineDirective line (l.lineFile file) ++ l.newline) ∧
      Adds w (t ++ d) (w'.linePragma line file) := by
  have hname : w'.layout.lineFile (if file.isEmpty then w'.lineFile else file) =
      l.lineFile file := by
    rw [h.layout, hw.layout, h.lineFile, hw.lineFile]
    split
    · next hempty => rw [List.isEmpty_iff.1 hempty]
    · rfl
  unfold Writer.linePragma
  dsimp only
  rw [hname]
  split
  · exact ⟨[], .inl rfl, by rwa [List.append_nil]⟩
  · have hset := h.remember (some (line, l.lineFile file)) w'.usings
    refine ⟨_, .inr rfl, ?_⟩
    rw [hset.ensureNewline]
    exact hset.rawWriteLine hw _

theorem lineDefault (h : Adds w t w') (hw : w.Stands l i) :
    Adds w (t ++ (utf8 "#line default" ++ l.newline)) w'.lineDefault := by
  have hset := h.remember none w'.usings
  rw [Writer.lineDefault, hset.ensureNewline]
  exact hset.rawWriteLine hw _

/-! ## Parts at a deeper indent -/

/-- Lines one level further in, and back again. -/
theorem further (h : Adds w t w') (hin : Adds w'.addIndent u v) : Adds w (t ++ u) v.popIndent := by
  have hlengths : v.lengths = w'.layout.unit.length :: w'.lengths := hin.lengths
  have hpop : v.popIndent = { v with indent := w'.indent, lengths := w'.lengths } := by
    rw [popIndent, hlengths]
    simp [hin.indent, addIndent, pushIndent]
  rw [hpop]
  refine ⟨hin.layout.trans h.layout, h.indent, h.lengths, hin.lineFile.trans h.lineFile, ?_,
    hin.atLine⟩
  simp [hin.out, addIndent, pushIndent, h.out]

/-- A part in braces. -/
theorem braces (h : Adds w t w') (hw : w.Stands l i) (hin : Adds w'.openBrace u v) :
    Adds w (t ++ l.line i (utf8 "\x7b") ++ u ++ l.line i (utf8 "\x7d"))
      (v.closeScope (utf8 "\x7d")) :=
  ((h.writeLine hw _).further hin).writeLine hw _

end Adds

theorem Stands.openBrace (hw : w.Stands l i) : w.openBrace.Stands l (i ++ l.unit) :=
  ((hw.adds.writeLine hw _).stands hw).addIndent

end Writer
end TextTemplate
