/-
Where `#line` directives stand in a generated class. The text is taken apart into fragments: the
directives, the statements and helper blocks of the pieces, and the text that belongs to no piece.
`generate_maps_lines` says what the fragments of any generated text are and that the directives
among them stand right (`Mapped`): each has its lines to itself, the one in force at a statement or
a helper block is that of its piece, and none is in force anywhere else.

A directive is not repeated while it is in force, so what is in force is not what was written last
in front of a piece but what was written last at all: `inForce` follows it through the fragments,
and the writer remembers the same (`Writer.lastLine`).
-/
import TextTemplate.Proofs.Output.Rendering
import TextTemplate.Proofs.Text.Lines
import TextTemplate.Proofs.Text.Number

namespace TextTemplate

/-! ## What the writer remembers -/

namespace Writer

@[simp] theorem lastLine_beginLine (w : Writer) : w.beginLine.lastLine = w.lastLine := by
  unfold beginLine
  split <;> rfl

@[simp] theorem lastLine_endLine (w : Writer) : w.endLine.lastLine = w.lastLine := rfl

@[simp] theorem lastLine_write (w : Writer) (s : Text) : (w.write s).lastLine = w.lastLine := by
  unfold write
  split
  · rfl
  · exact lastLine_beginLine w

@[simp] theorem lastLine_writeLine (w : Writer) (s : Text) :
    (w.writeLine s).lastLine = w.lastLine := lastLine_write w s

@[simp] theorem lastLine_rawWrite (w : Writer) (s : Text) :
    (w.rawWrite s).lastLine = w.lastLine := by
  unfold rawWrite
  split <;> rfl

@[simp] theorem lastLine_rawWriteLine (w : Writer) (s : Text) :
    (w.rawWriteLine s).lastLine = w.lastLine := rfl

@[simp] theorem lastLine_writeLiteral (w : Writer) (s : Text) :
    (w.writeLiteral s).lastLine = w.lastLine := by
  unfold writeLiteral
  split
  · rfl
  · simp

@[simp] theorem lastLine_blankLine (w : Writer) (n : Int) :
    (w.blankLine n).lastLine = w.lastLine := rfl

@[simp] theorem lastLine_addIndent (w : Writer) : w.addIndent.lastLine = w.lastLine := rfl

@[simp] theorem lastLine_popIndent (w : Writer) : w.popIndent.lastLine = w.lastLine := by
  unfold popIndent
  split <;> rfl

@[simp] theorem lastLine_ensureNewline (w : Writer) : w.ensureNewline.lastLine = w.lastLine := by
  unfold ensureNewline
  split <;> rfl

@[simp] theorem lastLine_openBrace (w : Writer) : w.openBrace.lastLine = w.lastLine := by
  simp [openBrace, openScope]

@[simp] theorem lastLine_closeScope (w : Writer) (tag : Text) :
    (w.closeScope tag).lastLine = w.lastLine := by
  simp [closeScope]

@[simp] theorem lastLine_lineDefault (w : Writer) : w.lineDefault.lastLine = none := by
  simp [lineDefault]

@[simp] theorem lastLine_writeBlock (w : Writer) (block : Text) :
    (w.writeBlock block).lastLine = w.lastLine := by
  unfold writeBlock
  generalize linesOf block = lines
  induction lines generalizing w with
  | nil => rfl
  | cons line lines ih =>
    rw [List.foldl_cons, ih]
    split <;> simp

/-- The first line behind text that may not have ended its own. -/
theorem out_writeLine (w : Writer) {s : Text} (hs : s ≠ []) (hlf : 0x0A ∉ s) :
    ∃ lead, (lead = [] ∨ lead = w.indent) ∧
      (w.writeLine s).out = w.out ++ lead ++ s ++ w.layout.newline := by
  have hne : s.isEmpty = false := List.isEmpty_eq_false_iff.2 hs
  have hin := indented_eq (endsWithLF_of_not_mem hlf) w.indent
  rw [behindFeeds_of_not_mem hlf] at hin
  unfold writeLine write beginLine endLine
  rw [hne]
  cases hline : (w.out.isEmpty || w.endsLine) with
  | true => exact ⟨w.indent, .inr rfl, by simp [hin]⟩
  | false => exact ⟨[], .inl rfl, by simp [hin]⟩

theorem stands_writeLine {w : Writer} {l : Layout} {i : Text} (hl : w.layout = l)
    (hi : w.indent = i) (hf : w.lineFile = []) (s : Text) : (w.writeLine s).Stands l i := by
  have hbegin : w.beginLine.layout = w.layout ∧ w.beginLine.indent = w.indent ∧
      w.beginLine.lineFile = w.lineFile := by
    unfold beginLine
    split <;> exact ⟨rfl, rfl, rfl⟩
  have hwrite : (w.write s).layout = w.layout ∧ (w.write s).indent = w.indent ∧
      (w.write s).lineFile = w.lineFile := by
    unfold write
    split
    · exact ⟨rfl, rfl, rfl⟩
    · exact hbegin
  exact ⟨by simp [AtLine, writeLine, endLine], hwrite.1.trans hl, hwrite.2.1.trans hi,
    hwrite.2.2.trans hf⟩

end Writer

namespace Output

open Writer (Adds Stands)

/-! ## Fragments -/

/-- A stretch of the generated text. -/
inductive Fragment where
  /-- A directive that maps the lines to come to a line of a file. -/
  | mapping (line : Int64) (file : Text)
  /-- The directive that ends the mapping. -/
  | unmapping
  /-- The statement of a piece. -/
  | statement (p : Piece)
  /-- The block of a helper piece. -/
  | helper (p : Piece)
  /-- Text that belongs to no piece. -/
  | other (text : Text)

/-- A writer for literals at an indent. -/
def quoter (l : Layout) (indent : Text) : Writer := { Writer.ofLayout l with indent := indent }

/-- The statement of a content piece. -/
def contentText (l : Layout) (indent text : Text) : Text :=
  if !((quoter l indent).quote text).multiline then
    l.line indent (utf8 "_output.Append(" ++ ((quoter l indent).quote text).text ++ utf8 ");")
  else
    l.line indent (utf8 "_output.Append(")
      ++ (indent ++ l.unit ++ ((quoter l (indent ++ l.unit)).quote text).text ++ l.newline)
      ++ l.line indent (utf8 ");")

/-- The statement of a piece. -/
def statementText (l : Layout) (indent : Text) (p : Piece) : Text :=
  match p.kind with
  | .content => contentText l indent p.text
  | .expression =>
    l.line indent (utf8 "_output.Append(FormatObject(" ++ p.text.trim ++ utf8 "));")
  | .block => (Writer.linesOf p.text).flatMap (l.codeLine indent)
  | _ => []

namespace Fragment

/-- The text of a fragment of a class whose members stand at the given indent. -/
def text (l : Layout) (indent : Text) : Fragment → Text
  | mapping line file =>
    utf8 "#line " ++ Text.ofInt line.toInt
      ++ (if file.isEmpty then [] else utf8 " \"" ++ file ++ utf8 "\"") ++ l.newline
  | unmapping => utf8 "#line default" ++ l.newline
  | statement p => statementText l (indent ++ l.unit) p
  | helper p => (Writer.linesOf p.text).flatMap (l.codeLine indent)
  | other text => text

def isDirective : Fragment → Bool
  | mapping _ _ => true
  | unmapping => true
  | _ => false

def statement? : Fragment → Option Piece
  | statement p => some p
  | _ => none

def helper? : Fragment → Option Piece
  | helper p => some p
  | _ => none

def other? : Fragment → Option Text
  | other t => some t
  | _ => none

/-- The directive that maps lines to a piece. -/
def ofPiece (l : Layout) (root : Text) (p : Piece) : Fragment :=
  mapping p.span.start.line (l.lineFile (pieceFile root p))

/-- The file name in a directive. -/
def file : Fragment → Text
  | mapping _ file => file
  | _ => []

/-- What the writer remembers of a directive. -/
def key? : Option Fragment → Option (Int64 × Text)
  | some (mapping line file) => some (line, file)
  | _ => none

end Fragment

open Fragment (ofPiece key?)

/-- The text of fragments. -/
def render (l : Layout) (indent : Text) (fs : List Fragment) : Text :=
  fs.flatMap (Fragment.text l indent)

@[simp] theorem render_append (l : Layout) (i : Text) (fs gs : List Fragment) :
    render l i (fs ++ gs) = render l i fs ++ render l i gs := List.flatMap_append

@[simp] theorem render_cons (l : Layout) (i : Text) (f : Fragment) (fs : List Fragment) :
    render l i (f :: fs) = f.text l i ++ render l i fs := rfl

@[simp] theorem render_nil (l : Layout) (i : Text) : render l i [] = [] := rfl

/-- The directive written last, where `start` was written before the fragments. -/
def inForce (start : Option Fragment) (fs : List Fragment) : Option Fragment :=
  fs.foldl (fun last f => if f.isDirective then some f else last) start

@[simp] theorem inForce_append (start : Option Fragment) (fs gs : List Fragment) :
    inForce start (fs ++ gs) = inForce (inForce start fs) gs := List.foldl_append

/-! ## The rules -/

/-- No mapping is in force. -/
def Quiet (last : Option Fragment) : Prop := last = none ∨ last = some .unmapping

/-- Whether a fragment can stand where the given directive is in force. -/
def Allowed (mode : LineMode) (l : Layout) (root : Text) (last : Option Fragment) :
    Fragment → Prop
  | .mapping _ _ => mode ≠ .off
  | .unmapping => mode ≠ .off
  | .statement p => mode ≠ .off → last = some (ofPiece l root p)
  | .helper p => mode ≠ .off → last = some (ofPiece l root p)
  | .other _ => Quiet last

/-- Whether every fragment can stand where it stands. -/
def Obeys (mode : LineMode) (l : Layout) (root : Text) : Option Fragment → List Fragment → Prop
  | _, [] => True
  | last, f :: fs => Allowed mode l root last f ∧ Obeys mode l root (inForce last [f]) fs

/-- Every helper block stands between its own directive and the one that ends the mapping. -/
def Fenced (l : Layout) (root : Text) (fs : List Fragment) : Prop :=
  ∀ before p after, fs = before ++ .helper p :: after →
    (∃ b, before = b ++ [ofPiece l root p]) ∧ ∃ a, after = .unmapping :: a

/-- The directives among fragments stand right. Without mapping there is none. A directive starts
behind a line end. The one written last in front of a statement or a helper block is that of its
piece, and in front of other text there is none, or it ends the mapping. -/
structure Mapped (mode : LineMode) (l : Layout) (indent root : Text) (fs : List Fragment) :
    Prop where
  off : mode = .off → ∀ f ∈ fs, f.isDirective = false
  start : ∀ before f after, fs = before ++ f :: after → f.isDirective = true →
    l.newline <:+ render l indent before
  statement : mode ≠ .off → ∀ before p after, fs = before ++ .statement p :: after →
    inForce none before = some (ofPiece l root p)
  helper : mode ≠ .off → Fenced l root fs
  other : ∀ before t after, fs = before ++ .other t :: after → Quiet (inForce none before)

variable {mode : LineMode} {l : Layout} {root i t : Text} {last : Option Fragment}

theorem obeys_append {fs gs : List Fragment} :
    Obeys mode l root last (fs ++ gs) ↔
      Obeys mode l root last fs ∧ Obeys mode l root (inForce last fs) gs := by
  induction fs generalizing last with
  | nil => simp [Obeys, inForce]
  | cons f fs ih =>
    have hcons : inForce last (f :: fs) = inForce (inForce last [f]) fs :=
      inForce_append last [f] fs
    rw [List.cons_append, Obeys, Obeys, ih, hcons, and_assoc]

theorem Obeys.allowed {before after : List Fragment} {f : Fragment}
    (h : Obeys mode l root last (before ++ f :: after)) :
    Allowed mode l root (inForce last before) f := (obeys_append.1 h).2.1

/-- Without mapping no directive is allowed. -/
theorem Obeys.no_directive {fs : List Fragment} (h : Obeys .off l root last fs) :
    ∀ f ∈ fs, f.isDirective = false := by
  induction fs generalizing last with
  | nil => simp
  | cons f fs ih =>
    refine List.forall_mem_cons.2 ⟨?_, ih h.2⟩
    have hf := h.1
    cases f with
    | mapping line file => exact absurd rfl hf
    | unmapping => exact absurd rfl hf
    | statement p => rfl
    | helper p => rfl
    | other t => rfl

theorem inForce_of_no_directive {fs : List Fragment} (h : ∀ f ∈ fs, f.isDirective = false) :
    inForce last fs = last := by
  induction fs generalizing last with
  | nil => rfl
  | cons f fs ih =>
    have hf := h f List.mem_cons_self
    rw [← List.singleton_append, inForce_append, ih fun g hg => h g (List.mem_cons_of_mem _ hg)]
    simp [inForce, hf]

theorem fenced_append {fs gs : List Fragment} (hf : Fenced l root fs) (hg : Fenced l root gs) :
    Fenced l root (fs ++ gs) := by
  intro before p after h
  rcases List.append_eq_append_iff.1 h with ⟨mid, rfl, hgs⟩ | ⟨mid, rfl, hmid⟩
  · obtain ⟨⟨b, hb⟩, hafter⟩ := hg mid p after hgs
    exact ⟨⟨fs ++ b, by rw [hb, List.append_assoc]⟩, hafter⟩
  · cases mid with
    | nil =>
      obtain ⟨⟨b, hb⟩, -⟩ := hg [] p after (by simpa using hmid.symm)
      simp at hb
    | cons f mid =>
      obtain ⟨rfl, rfl⟩ := List.cons.inj hmid
      obtain ⟨hbefore, ⟨a, ha⟩⟩ := hf before p mid rfl
      exact ⟨hbefore, a ++ gs, by rw [ha]; rfl⟩

theorem fenced_of_no_helper {fs : List Fragment} (h : fs.filterMap Fragment.helper? = []) :
    Fenced l root fs := by
  rintro before p after rfl
  simp [Fragment.helper?] at h

/-- Text that is empty or ends a line. -/
def EndsLines (l : Layout) (t : Text) : Prop := t = [] ∨ l.newline <:+ t

theorem EndsLines.append {s : Text} (hs : EndsLines l s) (ht : EndsLines l t) :
    EndsLines l (s ++ t) := by
  rcases ht with rfl | ⟨u, rfl⟩
  · rwa [List.append_nil]
  · exact .inr ⟨s ++ u, by rw [List.append_assoc]⟩

theorem EndsLines.suffix_append {s : Text} (ht : EndsLines l t) (hs : l.newline <:+ s) :
    l.newline <:+ s ++ t := by
  rcases ht with rfl | ht
  · rwa [List.append_nil]
  · exact ht.trans (List.suffix_append s t)

theorem endsLines_newline (s : Text) : EndsLines l (s ++ l.newline) := .inr (List.suffix_append s _)

theorem endsLines_line (i s : Text) : EndsLines l (l.line i s) := endsLines_newline _

theorem endsLines_flatMap {α : Type} {f : α → Text} (h : ∀ x, EndsLines l (f x)) (xs : List α) :
    EndsLines l (xs.flatMap f) := by
  induction xs with
  | nil => exact .inl rfl
  | cons x xs ih => exact (h x).append ih

theorem endsLines_codeLine (i line : Text) : EndsLines l (l.codeLine i line) := by
  unfold Layout.codeLine
  split
  · exact .inr (List.suffix_refl _)
  · exact endsLines_newline _

theorem endsLines_statementText (i : Text) (p : Piece) : EndsLines l (statementText l i p) := by
  unfold statementText
  split
  · unfold contentText
    split
    · exact endsLines_line _ _
    · exact ((endsLines_line _ _).append (endsLines_newline _)).append (endsLines_line _ _)
  · exact endsLines_line _ _
  · exact endsLines_flatMap (endsLines_codeLine i) _
  · exact .inl rfl

/-- Every fragment of a piece, and every directive, ends its line. -/
theorem endsLines_render {fs : List Fragment}
    (h : ∀ t ∈ fs.filterMap Fragment.other?, EndsLines l t) : EndsLines l (render l i fs) := by
  induction fs with
  | nil => exact .inl rfl
  | cons f fs ih =>
    have htail := ih fun t ht => h t (by cases f <;> simp_all [Fragment.other?])
    refine EndsLines.append ?_ htail
    cases f with
    | mapping line file => exact endsLines_newline _
    | unmapping => exact endsLines_newline _
    | statement p => exact endsLines_statementText _ p
    | helper p => exact endsLines_flatMap (endsLines_codeLine i) _
    | other t => exact h t (by simp [Fragment.other?])

/-! ## The line of a directive -/

theorem ascii_ofInt (n : Int) : ∀ b ∈ Text.ofInt n, b < 0x80 ∧ b ≠ 0x0D ∧ b ≠ 0x0A := by
  intro b hb
  rcases Text.mem_ofInt b hb with rfl | hdigit
  · decide
  · simp only [Text.isDigit, Bool.and_eq_true, decide_eq_true_eq] at hdigit
    refine ⟨UInt8.lt_of_le_of_lt hdigit.2 (by decide), ?_, ?_⟩
    · rintro rfl
      exact absurd hdigit.1 (by decide)
    · rintro rfl
      exact absurd hdigit.1 (by decide)

/-- A directive is one line if its file name is. -/
theorem directive_text {f : Fragment} (hf : f.isDirective = true) (hfile : f.file.Unbroken) :
    ∃ s, f.text l i = s ++ l.newline ∧ s.Unbroken := by
  cases f with
  | mapping line file =>
    refine ⟨_, rfl, ?_⟩
    have hopening : (utf8 "#line " ++ Text.ofInt line.toInt).Unbroken :=
      Text.unbroken_of_ascii fun b hb => (List.mem_append.1 hb).elim
        (Text.isAsciiLine_iff.1 (by decide +kernel) b) (ascii_ofInt _ b)
    split
    · rwa [List.append_nil]
    · have hquote : (utf8 " \"").Unbroken := Text.unbroken_of_isAsciiLine (by decide +kernel)
      have hend : (utf8 "\"").Unbroken := Text.unbroken_of_isAsciiLine (by decide +kernel)
      refine hopening.append ((hquote.append hfile ?_).append hend ?_) ?_
      · have hlast : ∀ b ∈ (utf8 " \"").getLast?, b < 0x80 := by decide +kernel
        exact fun b _ hb _ => .inl (hlast b hb)
      · have hhead : ∀ c ∈ (utf8 "\"").head?, c < 0x80 := by decide +kernel
        exact fun _ c _ hc => .inr (hhead c hc)
      · intro _ c _ hc
        rw [List.append_assoc] at hc
        cases hc
        exact .inr (by decide)
  | unmapping => exact ⟨_, rfl, Text.unbroken_of_isAsciiLine (by decide +kernel)⟩
  | statement p => cases hf
  | helper p => cases hf
  | other t => cases hf

/-- Behind ended lines other lines follow. -/
theorem EndsLines.physicalLines {s : Text} (ht : EndsLines l t) (hl : l.newline ∈ Text.breaks)
    (hs : ¬Text.Splits l.newline s) : (t ++ s).physicalLines = t.endedLines ++ s.physicalLines := by
  rcases ht with rfl | ⟨u, rfl⟩
  · rfl
  · obtain ⟨b, hb, hend⟩ : ∃ b, l.newline.getLast? = some b ∧ (b = 0x0D ∨ b = 0x0A) := by
      rcases Text.mem_breaks.1 hl with h | h | h <;> rw [h]
      · exact ⟨_, rfl, .inr rfl⟩
      · exact ⟨_, rfl, .inr rfl⟩
      · exact ⟨_, rfl, .inl rfl⟩
    have hlast : (u ++ l.newline).getLast? = l.newline.getLast? := by
      rw [List.getLast?_append, hb, Option.some_or]
    exact Text.physicalLines_append_of_getLast? (hlast.trans hb) hend fun hsplits =>
      hs ⟨hlast.symm.trans hsplits.1, hsplits.2⟩

theorem EndsLines.endedLines {s : Text} (ht : EndsLines l t) (hl : l.newline ∈ Text.breaks)
    (hs : ¬Text.Splits l.newline s) : (t ++ s).endedLines = t.endedLines ++ s.endedLines := by
  rw [Text.endedLines, ht.physicalLines hl hs,
    List.dropLast_append_of_ne_nil (Text.physicalLines_ne_nil s), Text.endedLines, Text.endedLines]

/-- The text of a fragment, but for its last line end, is a line of the whole text. -/
def OwnsLine (l : Layout) (indent : Text) (before : List Fragment) (f : Fragment)
    (after : List Fragment) : Prop :=
  ∃ s, f.text l indent = s ++ l.newline ∧
    (render l indent (before ++ f :: after)).physicalLines[(render l indent before).lineEnds]?
      = some s

/-- A directive has a line to itself if its file name breaks none. -/
theorem Mapped.ownsLine {before after : List Fragment} {f : Fragment}
    (h : Mapped mode l i root (before ++ f :: after)) (hl : l.newline ∈ Text.breaks)
    (hf : f.isDirective = true) (hfile : f.file.Unbroken) : OwnsLine l i before f after := by
  obtain ⟨s, hs, hunbroken⟩ := directive_text (l := l) (i := i) hf hfile
  have hsplits : ¬Text.Splits l.newline (f.text l i ++ render l i after) := by
    rintro ⟨-, hlf⟩
    cases f with
    | mapping line file => cases hlf
    | unmapping => cases hlf
    | _ => cases hf
  have hruled : Text.Ruled [s] (f.text l i) := by
    rw [hs, ← List.append_nil (s ++ l.newline)]
    exact .cons hunbroken hl (fun h => by cases h.2) .nil
  obtain ⟨rest, hrest⟩ := hruled.prefix_physicalLines (render l i after)
  have hends : EndsLines l (render l i before) := .inr (h.start before f after rfl hf)
  refine ⟨s, hs, ?_⟩
  rw [render_append, render_cons, hends.physicalLines hl hsplits, ← Text.length_endedLines,
    List.getElem?_append_right (Nat.le_refl _), Nat.sub_self, ← hrest]
  rfl

/-! ## Statements -/

variable {w w' v : Writer}

theorem Quiet.key? (h : Quiet last) : key? last = none := by
  rcases h with rfl | rfl
  · rfl
  · rfl

theorem eq_of_key?_eq_some {line : Int64} {file : Text} (h : key? last = some (line, file)) :
    last = some (.mapping line file) := by
  rcases last with - | f
  · cases h
  · cases f with
    | mapping _ _ => cases h; rfl
    | _ => cases h

/-- A literal depends on the layout and the indent alone. -/
theorem quote_eq_quoter (hw : w.Stands l i) (s : Text) : w.quote s = (quoter l i).quote s := by
  obtain ⟨-, rfl, rfl, -⟩ := hw
  rfl

theorem adds_writeContent (h : Adds w t w') (hw : w.Stands l i) (s : Text) :
    Adds w (t ++ contentText l i s) (writeContent w' s) := by
  have hw' := h.stands hw
  unfold writeContent contentText
  dsimp only
  rw [quote_eq_quoter hw']
  split
  · exact h.writeLine hw _
  · have hhead := h.writeLine hw (utf8 "_output.Append(")
    have hin := (hhead.stands hw).addIndent
    rw [quote_eq_quoter hin]
    have hquoted := hin.adds.literalLine hin (quote_ne_nil (quoter l (i ++ l.unit)) s)
    simpa only [List.append_assoc, List.nil_append] using
      (hhead.further hquoted).writeLine hw (utf8 ");")

theorem lastLine_writeContent (w : Writer) (s : Text) :
    (writeContent w s).lastLine = w.lastLine := by
  unfold writeContent
  dsimp only
  split
  · simp
  · simp

/-- **One step**: a piece adds its statement, and no directive. -/
theorem adds_writePiece? (h : Adds w t w') (hw : w.Stands l i) {p : Piece}
    (hp : writePiece? w' p = some v) :
    Adds w (t ++ statementText l i p) v ∧ v.lastLine = w'.lastLine := by
  unfold writePiece? at hp
  unfold statementText
  split at hp
  · next hkind =>
    cases hp
    rw [hkind]
    exact ⟨h.writeBlock hw p.text, by simp⟩
  · next hkind =>
    cases hp
    rw [hkind]
    exact ⟨h.writeLine hw _, by simp⟩
  · next hkind =>
    cases hp
    rw [hkind]
    exact ⟨adds_writeContent h hw p.text, lastLine_writeContent w' p.text⟩
  · cases hp

/-- A directive is added unless it is in force; afterwards it is in force. -/
theorem adds_linePragma (h : Adds w t w') (hw : w.Stands l i) (hlast : key? last = w'.lastLine)
    (line : Int64) (file : Text) :
    ∃ ds, (ds = [] ∧ last = some (.mapping line (l.lineFile file)) ∨
        ds = [.mapping line (l.lineFile file)]) ∧
      (∀ j, Adds w (t ++ render l j ds) (w'.linePragma line file)) ∧
      (w'.linePragma line file).lastLine = some (line, l.lineFile file) := by
  have hname : w'.layout.lineFile (if file.isEmpty then w'.lineFile else file) =
      l.lineFile file := by
    rw [h.layout, hw.layout, h.lineFile, hw.lineFile]
    split
    · next hempty => rw [List.isEmpty_iff.1 hempty]
    · rfl
  unfold Writer.linePragma
  dsimp only
  rw [hname]
  split
  · next hin =>
    refine ⟨[], .inl ⟨rfl, eq_of_key?_eq_some (hlast.trans hin)⟩, fun j => ?_, hin⟩
    rwa [render_nil, List.append_nil]
  · have hset := h.remember (some (line, l.lineFile file)) w'.usings
    refine ⟨_, .inr rfl, fun j => ?_, by simp⟩
    rw [hset.ensureNewline, render_cons, render_nil, List.append_nil]
    exact hset.rawWriteLine hw _

/-- In front of a piece its directive is put in force, when lines are mapped. -/
theorem adds_mapPiece (h : Adds w t w') (hw : w.Stands l i) (hlast : key? last = w'.lastLine)
    (mode : LineMode) (root : Text) (p : Piece) :
    ∃ ds, (ds = [] ∨ mode ≠ .off ∧ ds = [ofPiece l root p]) ∧
      (∀ j, Adds w (t ++ render l j ds) (mapPiece mode root w' p)) ∧
      key? (inForce last ds) = (mapPiece mode root w' p).lastLine ∧
      (mode ≠ .off → inForce last ds = some (ofPiece l root p)) := by
  unfold mapPiece
  split
  · next hmode =>
    refine ⟨[], .inl rfl, fun j => ?_, hlast, fun hm => absurd hmode hm⟩
    rwa [render_nil, List.append_nil]
  · next hmode =>
    obtain ⟨ds, hds, hadds, hkey⟩ := adds_linePragma h hw hlast p.span.start.line (pieceFile root p)
    have hforce : inForce last ds = some (ofPiece l root p) := by
      rcases hds with ⟨rfl, hin⟩ | rfl
      · exact hin
      · rfl
    refine ⟨ds, hds.imp And.left fun hd => ⟨hmode, hd⟩, hadds, ?_, fun _ => hforce⟩
    rw [hforce, hkey]
    rfl

/-- **The run**: one statement for each piece that is no helper, in order, each with its directive
in force. -/
theorem adds_writePieces (h : Adds w t w') (hw : w.Stands l (i ++ l.unit))
    (hlast : key? last = w'.lastLine) {ps : List Piece}
    (hps : writePieces mode root ps w' = some v) :
    ∃ fs, Adds w (t ++ render l i fs) v ∧ key? (inForce last fs) = v.lastLine ∧
      Obeys mode l root last fs ∧ fs.filterMap Fragment.statement? = statements ps ∧
      fs.filterMap Fragment.helper? = [] ∧ fs.filterMap Fragment.other? = [] ∧
      (statements ps = [] → fs = []) := by
  induction ps generalizing t w' last with
  | nil =>
    cases hps
    exact ⟨[], by simpa using h, hlast, trivial, rfl, rfl, rfl, fun _ => rfl⟩
  | cons p ps ih =>
    rw [writePieces] at hps
    split at hps
    · next hkind =>
      have hfilter : statements (p :: ps) = statements ps := by simp [statements, hkind]
      rw [hfilter]
      exact ih h hlast hps
    · next hkind =>
      have hfilter : statements (p :: ps) = p :: statements ps := by simp [statements, hkind]
      split at hps
      · next x hx =>
        obtain ⟨ds, hds, hmap, hkey, hforce⟩ := adds_mapPiece h hw hlast mode root p
        obtain ⟨hstate, hkept⟩ := adds_writePiece? (hmap i) hw hx
        have hkey : key? (inForce (inForce last ds) [.statement p]) = x.lastLine :=
          hkey.trans hkept.symm
        obtain ⟨fs, hall, hlast, hobeys, hs, hh, ho, -⟩ := ih hstate hkey hps
        refine ⟨ds ++ .statement p :: fs, by simpa [Fragment.text] using hall, ?_, ?_, ?_, ?_, ?_,
          fun hnil => by simp [hfilter] at hnil⟩
        · rw [inForce_append]
          exact hlast
        · refine obeys_append.2 ⟨?_, hforce, hobeys⟩
          rcases hds with rfl | ⟨hmode, rfl⟩
          · trivial
          · exact ⟨hmode, trivial⟩
        · rw [hfilter]
          rcases hds with rfl | ⟨-, rfl⟩ <;> exact congrArg (p :: ·) hs
        · rcases hds with rfl | ⟨-, rfl⟩ <;> exact hh
        · rcases hds with rfl | ⟨-, rfl⟩ <;> exact ho
      · cases hps

/-! ## Helper blocks -/

/-- The fragments of a helper piece. -/
def helperFragments (mode : LineMode) (l : Layout) (root : Text) (p : Piece) : List Fragment :=
  if mode = .off then [.helper p, .other l.newline]
  else [ofPiece l root p, .helper p, .unmapping, .other l.newline]

/-- **One step**: a helper piece adds its block between directives of its own. -/
theorem adds_writeHelper (h : Adds w t w') (hw : w.Stands l i) (hlast : w'.lastLine = none)
    (mode : LineMode) (root : Text) (p : Piece) :
    Adds w (t ++ render l i (helperFragments mode l root p)) (writeHelper mode root w' p) ∧
      (writeHelper mode root w' p).lastLine = none := by
  have hkey : key? none = w'.lastLine := hlast.symm
  obtain ⟨ds, hds, hmap, -, hforce⟩ := adds_mapPiece h hw hkey mode root p
  have hblock := (hmap i).writeBlock hw p.text
  unfold writeHelper helperFragments
  dsimp only
  split
  · next hmode =>
    have hmapped : mapPiece mode root w' p = w' := if_pos hmode
    have hnil : ds = [] := hds.elim id fun hd => absurd hmode hd.1
    subst hnil
    exact ⟨by simpa [Fragment.text] using hblock.blankLine hw, by simpa [hmapped] using hlast⟩
  · next hmode =>
    have hone : ds = [ofPiece l root p] := by
      rcases hds with rfl | hd
      · exact absurd (hforce hmode) (by simp [inForce])
      · exact hd.2
    subst hone
    exact ⟨by simpa [Fragment.text] using (hblock.lineDefault hw).blankLine hw, by simp⟩

theorem fenced_helperFragments (hmode : mode ≠ .off) (p : Piece) :
    Fenced l root (helperFragments mode l root p) := by
  intro before q after h
  rw [helperFragments, if_neg hmode] at h
  match before with
  | [] => cases h
  | [_] =>
    cases h
    exact ⟨⟨[], rfl⟩, ⟨_, rfl⟩⟩
  | [_, _] => cases h
  | [_, _, _] => cases h
  | _ :: _ :: _ :: _ :: _ => simp at h

theorem obeys_helperFragments (mode : LineMode) (l : Layout) (root : Text) (hlast : Quiet last)
    (p : Piece) :
    Obeys mode l root last (helperFragments mode l root p) ∧
      Quiet (inForce last (helperFragments mode l root p)) := by
  unfold helperFragments
  split
  · next hmode => exact ⟨⟨fun hm => absurd hmode hm, hlast, trivial⟩, hlast⟩
  · next hmode =>
    exact ⟨⟨hmode, fun _ => rfl, hmode, .inr rfl, trivial⟩, .inr rfl⟩

/-- **The run**: one block for each helper piece, in order. -/
theorem adds_helpers (h : Adds w t w') (hw : w.Stands l i) (hlast : w'.lastLine = none)
    (mode : LineMode) (root : Text) (ps : List Piece) :
    Adds w (t ++ render l i (ps.flatMap (helperFragments mode l root)))
      (ps.foldl (writeHelper mode root) w') := by
  induction ps generalizing t w' with
  | nil => simpa using h
  | cons p ps ih =>
    obtain ⟨hstep, hnone⟩ := adds_writeHelper h hw hlast mode root p
    simpa using ih hstep hnone

/-- Helper blocks keep the rules, whatever stands in front of them. -/
theorem helpers_obey (mode : LineMode) (l : Layout) (root : Text) (hlast : Quiet last)
    (ps : List Piece) :
    Obeys mode l root last (ps.flatMap (helperFragments mode l root)) ∧
      Quiet (inForce last (ps.flatMap (helperFragments mode l root))) ∧
      (mode ≠ .off → Fenced l root (ps.flatMap (helperFragments mode l root))) := by
  induction ps generalizing last with
  | nil => exact ⟨trivial, hlast, fun _ => fenced_of_no_helper rfl⟩
  | cons p ps ih =>
    obtain ⟨hobeys, hquiet⟩ := obeys_helperFragments mode l root hlast p
    obtain ⟨hall, hend, hfenced⟩ := ih hquiet
    rw [List.flatMap_cons, inForce_append]
    exact ⟨obeys_append.2 ⟨hobeys, hall⟩, hend, fun hmode =>
      fenced_append (fenced_helperFragments hmode p) (hfenced hmode)⟩

theorem filterMap_helpers (mode : LineMode) (l : Layout) (root : Text) (ps : List Piece) :
    (ps.flatMap (helperFragments mode l root)).filterMap Fragment.statement? = [] ∧
      (ps.flatMap (helperFragments mode l root)).filterMap Fragment.helper? = ps ∧
      (ps.flatMap (helperFragments mode l root)).filterMap Fragment.other? =
        ps.map fun _ => l.newline := by
  induction ps with
  | nil => exact ⟨rfl, rfl, rfl⟩
  | cons p ps ih =>
    obtain ⟨hs, hh, ho⟩ := ih
    simp only [List.flatMap_cons, List.filterMap_append, hs, hh, ho, List.map_cons]
    unfold helperFragments
    split
    · exact ⟨rfl, rfl, rfl⟩
    · exact ⟨rfl, rfl, rfl⟩

/-! ## Members of processors -/

variable {σ : Type}

/-- Whether a text is what one of the processors wrote in a call. -/
def WrittenBy (processors : NameMap (Processor σ)) (t : Text) : Prop :=
  ∃ e ∈ processors, (∃ w source s, t = (e.2.start w source s).1.writer.out) ∨
    ∃ values w name attributes s, t = (e.2.process values w name attributes s).1.writer.out

/-- From the first writer the second comes by adding what processors wrote, and line ends. What the
writer remembers stays. -/
structure Extends (processors : NameMap (Processor σ)) (w w' : Writer) : Prop where
  layout : w'.layout = w.layout
  indent : w'.indent = w.indent
  lineFile : w'.lineFile = w.lineFile
  lastLine : w'.lastLine = w.lastLine
  out : ∃ written : List Text, w'.out = w.out ++ written.flatten ∧
    ∀ t ∈ written, WrittenBy processors t ∨ t = w.layout.newline

namespace Extends

variable {processors : NameMap (Processor σ)}

theorem refl (w : Writer) : Extends processors w w :=
  ⟨rfl, rfl, rfl, rfl, [], by simp, by simp⟩

theorem trans (h : Extends processors w w') (h' : Extends processors w' v) :
    Extends processors w v := by
  obtain ⟨ts, hout, hts⟩ := h.out
  obtain ⟨us, hout', hus⟩ := h'.out
  refine ⟨h'.layout.trans h.layout, h'.indent.trans h.indent, h'.lineFile.trans h.lineFile,
    h'.lastLine.trans h.lastLine, ts ++ us, by simp [hout', hout], fun t ht => ?_⟩
  rcases List.mem_append.1 ht with ht | ht
  · exact hts t ht
  · rw [← h.layout]
    exact hus t ht

theorem rawWrite (w : Writer) (ht : WrittenBy processors t) :
    Extends processors w (w.rawWrite t) := by
  unfold Writer.rawWrite
  split
  · exact refl w
  · exact ⟨rfl, rfl, rfl, rfl, [t], by simp, by simp [ht]⟩

theorem endLine (w : Writer) : Extends processors w (w.rawWriteLine []) :=
  ⟨rfl, rfl, rfl, rfl, [w.layout.newline], by simp [Writer.rawWriteLine, Writer.endLine], by simp⟩

theorem ensureNewline (w : Writer) : Extends processors w w.ensureNewline := by
  unfold Writer.ensureNewline
  split
  · exact endLine w
  · exact refl w

theorem blankLine (w : Writer) : Extends processors w (w.blankLine 1) :=
  ⟨rfl, rfl, rfl, rfl, [w.layout.newline], by simp [Writer.blankLine], by simp⟩

end Extends

variable {processors : NameMap (Processor σ)} {st st' : State σ}

theorem extends_startAll {source : Text} {ps : NameMap (Processor σ)} (hps : ps ⊆ processors)
    (h : startAll source ps st = (st', none)) : Extends processors st.members st'.members := by
  induction ps generalizing st with
  | nil =>
    cases h
    exact .refl _
  | cons e ps ih =>
    obtain ⟨hmem, hps⟩ := List.cons_subset.1 hps
    rw [startAll] at h
    dsimp only at h
    split at h
    · cases h
    · exact (Extends.rawWrite st.members ⟨e, hmem, .inl ⟨_, _, _, rfl⟩⟩).trans (ih hps h)

theorem extends_processAll {parameters : Option ParameterValues} {ds : List CustomDirective}
    (h : processAll root parameters processors ds st = (st', none)) :
    Extends processors st.members st'.members := by
  induction ds generalizing st with
  | nil =>
    cases h
    exact .refl _
  | cons d ds ih =>
    rw [processAll] at h
    split at h
    · cases h
    · next p hp =>
      obtain ⟨e, he, rfl⟩ := Option.map_eq_some_iff.1 hp
      dsimp only at h
      split at h
      · have hrest := ih h
        exact hrest
      · exact (Extends.rawWrite st.members ⟨e, List.mem_of_find?_eq_some he,
          .inr ⟨_, _, _, _, _, rfl⟩⟩).trans (ih h)

theorem members_finishAll {ps : NameMap (Processor σ)} (h : finishAll ps st = (st', none)) :
    st'.members = st.members := by
  induction ps generalizing st with
  | nil =>
    cases h
    rfl
  | cons e ps ih =>
    rw [finishAll] at h
    split at h
    · cases h
    · have hrest := ih h
      exact hrest

/-- Processors add to the members and leave what the writer remembers. -/
theorem extends_processorMembers {template : Template} {settings : Settings σ}
    {parameters : Option ParameterValues}
    (h : processorMembers template settings parameters st = (st', none)) :
    Extends settings.processors st.members st'.members := by
  unfold processorMembers at h
  split at h
  · cases h
  · next st₁ hstart =>
    have hextends := extends_startAll (List.Subset.refl settings.processors) hstart
    split at h
    · cases h
    · next st₂ hprocess =>
      have hextends := hextends.trans (extends_processAll hprocess)
      split at h
      · cases h
      · next st₃ hfinish =>
        rw [← members_finishAll hfinish] at hextends
        split at h
        · cases h
          exact hextends
        · cases h
          exact hextends.trans ((Extends.ensureNewline _).trans (Extends.blankLine _))

/-! ## The method -/

/-- The method in front of its statements, without an indent. -/
def methodOpening (l : Layout) (i : Text) : Text :=
  utf8 "public string TransformText()" ++ l.newline ++ l.line i (utf8 "\x7b")
    ++ l.line (i ++ l.unit) (utf8 "_output.Clear();")

/-- The method behind its statements, and the empty line behind it. -/
def methodClosing (l : Layout) (i : Text) : Text :=
  l.line (i ++ l.unit) (utf8 "return _output.ToString();") ++ l.line i (utf8 "\x7d") ++ l.newline

/-- Behind the statements the mapping is ended, if there is one. -/
theorem adds_ended {fs : List Fragment} (h : Adds w (t ++ render l i fs) w')
    (hw : w.Stands l (i ++ l.unit)) (hkey : key? (inForce none fs) = w'.lastLine)
    (hobeys : Obeys mode l root none fs) {mapped : Prop} [Decidable mapped]
    (hmapped : mapped → mode ≠ .off) (hfree : ¬mapped → mode = .off ∨ fs = []) :
    ∃ gs, Adds w (t ++ render l i gs) (if mapped then w'.lineDefault else w') ∧
      (if mapped then w'.lineDefault else w').lastLine = none ∧ Quiet (inForce none gs) ∧
      Obeys mode l root none gs ∧ (gs = fs ∨ gs = fs ++ [.unmapping]) := by
  split
  · next hm =>
    have hallowed : Allowed mode l root (inForce none fs) .unmapping := hmapped hm
    refine ⟨fs ++ [.unmapping], ?_, by simp, by simp [Quiet, inForce, Fragment.isDirective],
      obeys_append.2 ⟨hobeys, hallowed, trivial⟩, .inr rfl⟩
    simpa [Fragment.text] using h.lineDefault hw
  · next hm =>
    have hquiet : inForce none fs = none := by
      rcases hfree hm with rfl | rfl
      · exact inForce_of_no_directive hobeys.no_directive
      · rfl
    rw [hquiet] at hkey
    exact ⟨fs, h, hkey.symm, .inl hquiet, hobeys, .inl rfl⟩

theorem close_braceLine (w : Writer) :
    (Scope.braceLine.close w).1 = (w.closeScope (utf8 "\x7d")).rawWriteLine [] := rfl

/-- The method is its statements between texts of its own, and no mapping is in force behind
them. -/
theorem transformMethod_eq (hl : w.layout = l) (hi : w.indent = i) (hfile : w.lineFile = [])
    (hlast : w.lastLine = none) {ps : List Piece}
    (hps : transformMethod mode root ps w = some v) :
    v.Stands l i ∧ v.lastLine = none ∧ ∃ lead fs, (lead = [] ∨ lead = i) ∧
      v.out = w.out ++ lead ++ methodOpening l i ++ render l i fs ++ methodClosing l i ∧
      Obeys mode l root none fs ∧ Quiet (inForce none fs) ∧
      fs.filterMap Fragment.statement? = statements ps ∧ fs.filterMap Fragment.helper? = [] ∧
      fs.filterMap Fragment.other? = [] := by
  rw [transformMethod,
    method_eq _ (utf8 "public string TransformText()") (by decide +kernel)] at hps
  dsimp only at hps
  obtain ⟨lead, hlead, hout⟩ := w.out_writeLine (s := utf8 "public string TransformText()")
    (by decide) (by decide)
  have hw := Writer.stands_writeLine hl hi hfile (utf8 "public string TransformText()")
  have hx := hw.openBrace
  split at hps
  · cases hps
  · next y hy =>
    have hstart : key? none = ((w.writeLine
        (utf8 "public string TransformText()")).openBrace.writeLine
          (utf8 "_output.Clear();")).lastLine := by
      simp [key?, hlast]
    obtain ⟨fs, hfs, hkey, hobeys, hs, hh, ho, hnil⟩ := adds_writePieces
      (hx.adds.writeLine hx (utf8 "_output.Clear();")) hx hstart hy
    have hfree : ¬(mode ≠ .off ∧ ps.any (·.kind ≠ .helper) = true) → mode = .off ∨ fs = [] := by
      intro hm
      by_cases hmode : mode = .off
      · exact .inl hmode
      · have hany : ¬ps.any (·.kind ≠ .helper) = true := fun hany => hm ⟨hmode, hany⟩
        exact .inr (hnil (by simpa [statements, List.filter_eq_nil_iff] using hany))
    obtain ⟨gs, hgs, hnone, hquiet, hobeys, hg⟩ := adds_ended hfs hx hkey hobeys And.left hfree
    have hall := (hw.adds.braces hw
      (hgs.writeLine hx (utf8 "return _output.ToString();"))).rawWriteLine hw []
    rw [close_braceLine] at hps
    cases hps
    refine ⟨hall.stands hw, ?_, lead, gs, by rwa [hi] at hlead, ?_, hobeys, hquiet, ?_, ?_, ?_⟩
    · simpa using hnone
    · rw [hall.out, hout, hl]
      simp only [methodOpening, methodClosing, List.append_assoc, List.nil_append]
    · rcases hg with rfl | rfl <;> simp [hs, Fragment.statement?]
    · rcases hg with rfl | rfl <;> simp [hh, Fragment.helper?]
    · rcases hg with rfl | rfl <;> simp [ho, Fragment.other?]

/-! ## The unit -/

/-- The indent of the class. -/
def classIndent (l : Layout) (settings : Settings σ) : Text :=
  if settings.fileScoped then [] else l.unit

/-- The lines of attributes. -/
def attributesText (l : Layout) (i : Text) (attributes : List Text) : Text :=
  attributes.flatMap fun a => l.line i (utf8 "[" ++ a ++ utf8 "]")

/-- The line or lines a namespace opens with. -/
def namespaceText (l : Layout) (settings : Settings σ) : Text :=
  if settings.fileScoped then
    l.line [] (utf8 "namespace " ++ settings.namespaceName ++ utf8 ";") ++ l.newline
  else l.line [] (utf8 "namespace " ++ settings.namespaceName) ++ l.line [] (utf8 "\x7b")

/-- The unit in front of the members. -/
def openingText (l : Layout) (settings : Settings σ) (imports attributes : List Text) : Text :=
  usingText l imports ++ namespaceText l settings
    ++ attributesText l (classIndent l settings) attributes
    ++ l.line (classIndent l settings) (classHead settings)
    ++ baseText l (classIndent l settings) settings.inherits
    ++ l.line (classIndent l settings) (utf8 "\x7b")

/-- The unit behind the members. -/
def closingText (l : Layout) (settings : Settings σ) : Text :=
  l.line (classIndent l settings) (utf8 "\x7d")
    ++ if settings.fileScoped then [] else l.line [] (utf8 "\x7d")

theorem adds_attributes (h : Adds w t w') (hw : w.Stands l i) (attributes : List Text) :
    Adds w (t ++ attributesText l i attributes) (attributes.foldl Writer.attributeLine w') := by
  induction attributes generalizing t w' with
  | nil => simpa [attributesText] using h
  | cons a attributes ih =>
    have hline : Adds w (t ++ l.line i (utf8 "[" ++ a ++ utf8 "]")) (w'.attributeLine a) :=
      h.writeLine hw _
    simpa only [attributesText, List.flatMap_cons, List.foldl_cons, List.append_assoc] using
      ih hline

/-- The unit is its text around the members, which lose the line ends behind them and get one
back. -/
theorem compose_eq_texts (l : Layout) (settings : Settings σ) (imports attributes : List Text)
    (members : Text) :
    compose l settings imports attributes members =
      openingText l settings imports attributes
        ++ (Text.dropEndWhile (fun b => b == 0x0D || b == 0x0A) members ++ l.newline)
        ++ closingText l settings := by
  have hw := stands_ofLayout l
  have husings := adds_usings hw.adds hw imports
  unfold compose openingText closingText namespaceText classIndent
  dsimp only
  cases settings.fileScoped with
  | true =>
    have hspace := (husings.writeLine hw
      (utf8 "namespace " ++ settings.namespaceName ++ utf8 ";")).blankLine hw
    have hall := adds_class (adds_attributes hspace hw attributes) hw settings
      (Text.dropEndWhile (fun b => b == 0x0D || b == 0x0A) members)
    have hout := hall.out
    simp only [classText, List.append_assoc, List.nil_append, List.append_nil, if_true] at hout ⊢
    exact hout
  | false =>
    have hspace := husings.writeLine hw (utf8 "namespace " ++ settings.namespaceName)
    have hin := (hspace.stands hw).openBrace
    have hclass := adds_class (adds_attributes hin.adds hin attributes) hin settings
      (Text.dropEndWhile (fun b => b == 0x0D || b == 0x0A) members)
    have hout := (hspace.braces hw hclass).out
    simp only [classText, List.append_assoc, List.nil_append, Bool.false_eq_true, if_false]
      at hout ⊢
    exact hout

/-! ## The whole -/

theorem lastLine_firstMembers (w : Writer) : (firstMembers w).lastLine = w.lastLine := by
  simp [firstMembers, Writer.autoProperty]

/-- Fragments that keep the rules and start with text that ends a line are mapped right. -/
theorem mapped_of_obeys {fs : List Fragment} (hobeys : Obeys mode l root none (.other t :: fs))
    (hfenced : mode ≠ .off → Fenced l root (.other t :: fs)) (ht : l.newline <:+ t)
    (hothers : ∀ u ∈ (Fragment.other t :: fs).filterMap Fragment.other?, EndsLines l u) :
    Mapped mode l i root (.other t :: fs) where
  off hmode := by
    subst hmode
    exact hobeys.no_directive
  start := by
    intro before f after h hf
    cases before with
    | nil =>
      cases h
      cases hf
    | cons g before =>
      obtain ⟨rfl, hfs⟩ := List.cons.inj h
      have hsub : before.Sublist (.other t :: fs) := by
        rw [hfs]
        exact (List.sublist_append_left before (f :: after)).cons _
      have hends : EndsLines l (render l i before) :=
        endsLines_render fun u hu => hothers u ((hsub.filterMap _).subset hu)
      exact hends.suffix_append ht
  statement hmode before p after h := by
    rw [h] at hobeys
    exact hobeys.allowed hmode
  helper := hfenced
  other before t after h := by
    rw [h] at hobeys
    exact hobeys.allowed

/-- The fragments of a class: a text of its own in front of those of the method, another behind
them, the helper blocks, and a last text. -/
def classFragments (mode : LineMode) (l : Layout) (root opening closing rest : Text)
    (fs : List Fragment) (ps : List Piece) : List Fragment :=
  .other opening ::
    (fs ++ .other closing :: (ps.flatMap (helperFragments mode l root) ++ [.other rest]))

section Class

variable (opening closing rest : Text) {fs : List Fragment}

theorem render_classFragments (mode : LineMode) (root : Text) (fs : List Fragment)
    (ps : List Piece) :
    render l i (classFragments mode l root opening closing rest fs ps) =
      opening ++ render l i fs ++ closing
        ++ render l i (ps.flatMap (helperFragments mode l root)) ++ rest := by
  simp [classFragments, Fragment.text]

theorem filterMap_classFragments (mode : LineMode) (root : Text) (ps : List Piece)
    (hh : fs.filterMap Fragment.helper? = []) (ho : fs.filterMap Fragment.other? = []) :
    let all := classFragments mode l root opening closing rest fs ps
    all.filterMap Fragment.statement? = fs.filterMap Fragment.statement? ∧
      all.filterMap Fragment.helper? = ps ∧
      all.filterMap Fragment.other? =
        opening :: closing :: ps.map (fun _ => l.newline) ++ [rest] := by
  obtain ⟨hs, hhs, hos⟩ := filterMap_helpers mode l root ps
  simp only [classFragments, List.filterMap_cons, List.filterMap_append, hh, ho, hs, hhs, hos,
    Fragment.statement?, Fragment.helper?, Fragment.other?]
  simp

theorem mapped_classFragments (hobeys : Obeys mode l root none fs)
    (hquiet : Quiet (inForce none fs)) (hh : fs.filterMap Fragment.helper? = [])
    (ho : fs.filterMap Fragment.other? = []) (hopening : l.newline <:+ opening)
    (hclosing : EndsLines l closing) (hrest : EndsLines l rest) (ps : List Piece) :
    Mapped mode l i root (classFragments mode l root opening closing rest fs ps) := by
  obtain ⟨hhelpers, hend, hfenced⟩ := helpers_obey mode l root hquiet ps
  have hnone {t : Text} : Fenced l root [.other t] := fenced_of_no_helper rfl
  refine mapped_of_obeys ⟨.inl rfl, obeys_append.2 ⟨hobeys, hquiet, obeys_append.2
    ⟨hhelpers, hend, trivial⟩⟩⟩ (fun hmode => ?_) hopening fun t ht => ?_
  · exact fenced_append hnone (fenced_append (fenced_of_no_helper hh)
      (fenced_append hnone (fenced_append (hfenced hmode) hnone)))
  · change t ∈ (classFragments mode l root opening closing rest fs ps).filterMap _ at ht
    rw [(filterMap_classFragments opening closing rest mode root ps hh ho).2.2] at ht
    simp only [List.cons_append, List.mem_cons, List.mem_append, List.mem_map, List.not_mem_nil,
      or_false] at ht
    rcases ht with rfl | rfl | ⟨-, -, rfl⟩ | rfl
    · exact .inr hopening
    · exact hclosing
    · exact .inr (List.suffix_refl _)
    · exact hrest

end Class

theorem suffix_methodOpening (s : Text) : l.newline <:+ s ++ methodOpening l i :=
  (endsLines_line _ _).suffix_append ((endsLines_line _ _).suffix_append
    (List.suffix_append _ _)) |>.trans (List.suffix_append s _)

theorem suffix_closingText (settings : Settings σ) (s : Text) :
    l.newline <:+ s ++ closingText l settings := by
  refine List.IsSuffix.trans (EndsLines.suffix_append ?_ (List.suffix_append _ _))
    (List.suffix_append s _)
  split
  · exact .inl rfl
  · exact endsLines_line _ _

/-- The text of all members: the first ones, those of processors, the method, the helper blocks and
the formatter. -/
theorem out_members {template : Template} {settings : Settings σ}
    {parameters : Option ParameterValues}
    (hst : processorMembers template settings parameters st = (st', none))
    (hfirst : st.members = firstMembers (membersWriter l settings.fileScoped))
    (hv : transformMethod mode root template.pieces st'.members = some v) :
    let i := memberIndent l settings
    ∃ (written : List Text) (lead : Text) (fs : List Fragment),
      (∀ t ∈ written, WrittenBy settings.processors t ∨ t = l.newline) ∧ (lead = [] ∨ lead = i) ∧
      (formatter ((helpers template.pieces).foldl (writeHelper mode root) v)).out =
        firstText l i ++ written.flatten ++ lead ++ methodOpening l i ++ render l i fs
          ++ methodClosing l i
          ++ render l i ((helpers template.pieces).flatMap (helperFragments mode l root))
          ++ (formatterText l i ++ l.newline) ∧
      Obeys mode l root none fs ∧ Quiet (inForce none fs) ∧
      fs.filterMap Fragment.statement? = statements template.pieces ∧
      fs.filterMap Fragment.helper? = [] ∧ fs.filterMap Fragment.other? = [] := by
  intro i
  have hw := members_stand l settings
  have hadds := adds_firstMembers hw
  have hextends := extends_processorMembers hst
  rw [hfirst] at hextends
  obtain ⟨written, hwritten, hby⟩ := hextends.out
  obtain ⟨hstands, hlast, lead, fs, hlead, hout, hrest⟩ :=
    transformMethod_eq (hextends.layout.trans (hadds.layout.trans hw.layout))
      (hextends.indent.trans (hadds.indent.trans hw.indent))
      (hextends.lineFile.trans (hadds.lineFile.trans hw.lineFile))
      (hextends.lastLine.trans (lastLine_firstMembers _)) hv
  have hhelpers := adds_helpers hstands.adds hstands hlast mode root (helpers template.pieces)
  have hall := (hhelpers.trans (adds_formatter (hhelpers.stands hstands))).out
  have hempty : (membersWriter l settings.fileScoped).out = [] := rfl
  refine ⟨written, lead, fs, by rwa [hadds.layout] at hby, hlead, ?_, hrest⟩
  rw [hall, hout, hwritten, hadds.out, hempty]
  simp only [List.append_assoc, List.nil_append]
  rfl

/-- A unit around members is mapped right when the fragments of its method are. -/
theorem unit_mapped (settings : Settings σ) (imports attributes : List Text) (front : Text)
    {pieces : List Piece} {fs : List Fragment} (hobeys : Obeys mode l root none fs)
    (hquiet : Quiet (inForce none fs)) (hs : fs.filterMap Fragment.statement? = statements pieces)
    (hh : fs.filterMap Fragment.helper? = []) (ho : fs.filterMap Fragment.other? = []) :
    ∃ all : List Fragment,
      render l i all = openingText l settings imports attributes
        ++ (front ++ methodOpening l i ++ render l i fs ++ methodClosing l i
          ++ render l i ((helpers pieces).flatMap (helperFragments mode l root))
          ++ formatterText l i)
        ++ closingText l settings ∧
      all.filterMap Fragment.statement? = statements pieces ∧
      all.filterMap Fragment.helper? = helpers pieces ∧
      all.filterMap Fragment.other? =
        (openingText l settings imports attributes ++ front ++ methodOpening l i)
          :: methodClosing l i :: (helpers pieces).map (fun _ => l.newline)
          ++ [formatterText l i ++ closingText l settings] ∧
      Mapped mode l i root all := by
  obtain ⟨hstatements, hhelpers, hothers⟩ := filterMap_classFragments (l := l)
    (openingText l settings imports attributes ++ front ++ methodOpening l i)
    (methodClosing l i) (formatterText l i ++ closingText l settings) mode root (helpers pieces)
    hh ho
  refine ⟨_, ?_, hstatements.trans hs, hhelpers, hothers,
    mapped_classFragments _ _ _ hobeys hquiet hh ho (suffix_methodOpening _) (endsLines_newline _)
      (.inr (suffix_closingText settings _)) (helpers pieces)⟩
  rw [render_classFragments]
  simp only [List.append_assoc]

/-- The fragments of a class: the statements of the pieces that are no helpers and the blocks of the
helpers, each in the order of the template, between texts that belong to no piece. These are the
unit and the members in front of the method, which may hold what processors wrote, the parts of the
method, an empty line behind each helper block, and the formatter with the end of the unit. -/
structure Composed (l : Layout) (i : Text) (settings : Settings σ) (ps : List Piece)
    (imports attributes written : List Text) (lead : Text) (fs : List Fragment) : Prop where
  statement : fs.filterMap Fragment.statement? = statements ps
  helper : fs.filterMap Fragment.helper? = helpers ps
  other : fs.filterMap Fragment.other? =
    (openingText l settings imports attributes ++ (firstText l i ++ written.flatten ++ lead)
        ++ methodOpening l i)
      :: methodClosing l i :: (helpers ps).map (fun _ => l.newline)
      ++ [formatterText l i ++ closingText l settings]
  written : ∀ t ∈ written, WrittenBy settings.processors t ∨ t = l.newline
  lead : lead = [] ∨ lead = i

/-- A generated text is made of fragments, and the directives among them stand right. -/
theorem exists_fragments {layout : Layout} (hnewline : layout.newline ∈ Text.breaks)
    {template : Template} {settings : Settings σ} {parameters : Option ParameterValues}
    {diagnostics : Diagnostics} {world : σ} {text : Text}
    (h : (generate layout template settings parameters diagnostics world).result = .ok text) :
    let l := runLayout layout template.root settings
    let i := memberIndent l settings
    ∃ (fs : List Fragment) (imports attributes written : List Text) (lead : Text),
      text = render l i fs ∧
      Composed l i settings template.pieces imports attributes written lead fs ∧
      Mapped settings.lineMode l i template.root fs := by
  intro l i
  have hnewline : l.newline ∈ Text.breaks := by
    rwa [(runLayout_eq layout template.root settings).2]
  unfold generate at h
  dsimp only at h
  split at h
  · cases h
  · next st hst =>
    split at h
    · cases h
    · next v hv =>
      obtain ⟨written, lead, fs, hby, hlead, hout, hobeys, hquiet, hs, hh, ho⟩ :=
        out_members hst rfl hv
      dsimp only at h
      split at h
      · cases h
      · injection h with h
        rw [compose_eq_texts, hout, dropEndWhile_formatterText i (newline_ends hnewline)] at h
        obtain ⟨all, hall, hstatements, hhelpers, hothers, hmapped⟩ := unit_mapped settings
          (st.imports.add requiredImports).values (classAttributes settings.processors st.world).1
          (firstText l i ++ written.flatten ++ lead) hobeys hquiet hs hh ho
        exact ⟨all, (st.imports.add requiredImports).values,
          (classAttributes settings.processors st.world).1, written, lead, h.symm.trans hall.symm,
          ⟨hstatements, hhelpers, hothers, hby, hlead⟩, hmapped⟩

end Output

open Output in
/-- **`#line` directives stand right.** The text of any generated class is the statements of the
pieces that are no helpers and the blocks of the helpers, between texts that belong to no piece
(`Composed`). All else are directives, and they are where they have to be (`Mapped`). A directive
has a line of the text to itself, if its file name breaks no line. -/
theorem generate_maps_lines {σ : Type} {layout : Layout}
    (hnewline : layout.newline ∈ [utf8 "\n", utf8 "\r\n", utf8 "\r"])
    {template : Template} {settings : Settings σ} {parameters : Option ParameterValues}
    {diagnostics : Diagnostics} {world : σ} {text : Text}
    (h : (generate layout template settings parameters diagnostics world).result = .ok text) :
    let l := runLayout layout template.root settings
    let i := memberIndent l settings
    ∃ (fs : List Fragment) (imports attributes written : List Text) (lead : Text),
      text = render l i fs ∧
      Composed l i settings template.pieces imports attributes written lead fs ∧
      Mapped settings.lineMode l i template.root fs ∧
      ∀ before f after, fs = before ++ f :: after → f.isDirective = true → f.file.Unbroken →
        OwnsLine l i before f after := by
  intro l i
  obtain ⟨fs, imports, attributes, written, lead, htext, hcomposed, hmapped⟩ :=
    exists_fragments hnewline h
  refine ⟨fs, imports, attributes, written, lead, htext, hcomposed, hmapped, ?_⟩
  rintro before f after rfl hf hfile
  have hbreak : l.newline ∈ Text.breaks := by
    rwa [(runLayout_eq layout template.root settings).2]
  exact hmapped.ownsLine hbreak hf hfile

open Output in
theorem generate_maps_lines_sample :
    let l := runLayout .standard sampleTemplate.root sampleSettings
    let i := memberIndent l sampleSettings
    ∃ text, (generate .standard sampleTemplate sampleSettings none [] ()).result = .ok text ∧
      ∃ (fs : List Fragment) (imports attributes written : List Text) (lead : Text),
        text = render l i fs ∧
        Composed l i sampleSettings sampleTemplate.pieces imports attributes written lead fs ∧
        Mapped sampleSettings.lineMode l i sampleTemplate.root fs ∧
        ∀ before f after, fs = before ++ f :: after → f.isDirective = true → f.file.Unbroken →
          OwnsLine l i before f after := by
  intro l i
  obtain ⟨text, h⟩ :
      ∃ text, (generate .standard sampleTemplate sampleSettings none [] ()).result = .ok text :=
    ⟨_, rfl⟩
  exact ⟨text, h, generate_maps_lines (by decide) h⟩

namespace Output

/-- The fragments of a class without processors and helpers, where those of its method are known. -/
theorem generate_of_method (template : Template) (fs : List Fragment)
    (hhelpers : helpers template.pieces = [])
    (hmethod : (transformMethod sampleSettings.lineMode template.root template.pieces
        (firstMembers (membersWriter (runLayout .standard template.root sampleSettings)
          sampleSettings.fileScoped))).map (·.out) =
      some (let l := runLayout .standard template.root sampleSettings
        let i := memberIndent l sampleSettings
        firstText l i ++ i ++ methodOpening l i ++ render l i fs ++ methodClosing l i)) :
    let l := runLayout .standard template.root sampleSettings
    let i := memberIndent l sampleSettings
    ∃ opening rest, l.newline <:+ opening ∧
      (generate .standard template sampleSettings none [] ()).result =
        .ok (render l i (.other opening :: fs ++ [.other rest])) := by
  intro l i
  obtain ⟨v, hv, hout⟩ := Option.map_eq_some_iff.1 hmethod
  have hw := members_stand l sampleSettings
  have hfirst := adds_firstMembers hw
  obtain ⟨hstands, -⟩ := transformMethod_eq (hfirst.layout.trans hw.layout)
    (hfirst.indent.trans hw.indent) (hfirst.lineFile.trans hw.lineFile)
    (lastLine_firstMembers _) hv
  have hmembers := (adds_formatter hstands).out
  refine ⟨openingText l sampleSettings (sampleSettings.imports.add requiredImports).values []
      ++ (firstText l i ++ i) ++ methodOpening l i,
    methodClosing l i ++ (formatterText l i ++ closingText l sampleSettings),
    suffix_methodOpening _, ?_⟩
  have hnewline : l.newline = utf8 "\n" := (runLayout_eq .standard template.root sampleSettings).2
  have hprocessors (st : State Unit) :
      processorMembers template sampleSettings none st = (st, none) := rfl
  unfold generate
  simp only [hprocessors]
  rw [hv]
  simp only [hhelpers, List.foldl_nil]
  have herrors : ¬(Diagnostics.hasErrors ([] ++ attributeNotes sampleSettings.processors ())
      = true) := by decide
  rw [if_neg herrors, compose_eq_texts, hmembers, hout,
    dropEndWhile_formatterText _ (newline_ends (by rw [hnewline]; decide))]
  simp only [render_append, render_cons, render_nil, Fragment.text, List.append_assoc,
    List.append_nil, List.cons_append]
  rfl

def brokenPiece : Piece :=
  let place (column : Int64) : Location := ⟨utf8 "a\nb.tt", 1, column⟩
  ⟨.content, utf8 "x", ⟨place 1, place 2, place 1⟩⟩

/-- A template of a file whose name breaks a line. -/
def brokenTemplate : Template :=
  .ofSegments (utf8 "a\nb.tt") (utf8 "x") [.piece brokenPiece]

end Output

open Output in
/-- A file name that breaks a line breaks that of its directive. -/
theorem generate_breaks_directive :
    Template.parse? (utf8 "a\nb.tt") (utf8 "x") none = some brokenTemplate ∧
    sampleSettings.lineMode ≠ .off ∧
    ∃ text before after,
      (generate .standard brokenTemplate sampleSettings none [] ()).result = .ok text ∧
      text = before ++ utf8 "#line 1 \"a\nb.tt\"\n" ++ after ∧
      [utf8 "#line 1 \"a", utf8 "b.tt\""] <:+: text.physicalLines := by
  let l := runLayout .standard brokenTemplate.root sampleSettings
  let i := memberIndent l sampleSettings
  let directive := utf8 "#line 1 \"a\nb.tt\"\n"
  obtain ⟨opening, rest, hopening, h⟩ := generate_of_method brokenTemplate
    [.mapping 1 (utf8 "a\nb.tt"), .statement brokenPiece, .unmapping] rfl (by decide +kernel)
  let after := render l i [.statement brokenPiece, .unmapping, .other rest]
  have hdirective : (Fragment.mapping 1 (utf8 "a\nb.tt")).text l i = directive := by
    decide +kernel
  have htext : render l i ([.other opening, .mapping 1 (utf8 "a\nb.tt"), .statement brokenPiece,
      .unmapping] ++ [.other rest]) = opening ++ (directive ++ after) := by
    rw [← hdirective]
    rfl
  have hruled : Text.Ruled [utf8 "#line 1 \"a", utf8 "b.tt\""] directive :=
    Text.ruled_asciiLines (by decide +kernel)
  have hends : EndsLines l opening := .inr hopening
  have hsplits : ¬Text.Splits l.newline (directive ++ after) := by
    rintro ⟨-, hlf⟩
    cases hlf
  refine ⟨by cbv, by decide, _, opening, after, h, htext.trans (List.append_assoc ..).symm, ?_⟩
  rw [htext, hends.physicalLines (by decide +kernel) hsplits]
  exact (hruled.prefix_physicalLines after).isInfix.trans (List.suffix_append _ _).isInfix

end TextTemplate
