/-
What a compiler that reads the `#line` directives takes the lines of code for.

A directive is not repeated while it is in force, so between the directive and the code of a piece
there may be statements of other pieces that start on the same line of the same file, and nothing
else (`exists_run`). The lines of these statements count: the code of a piece is taken for as many
lines further on in its file as they have. `generate_attributes_code` says so of all code, line by
line, and that helper blocks, which have a directive each, are taken for their own lines.

Whatever starts with `#line` on a line of the text is read as a directive. So this is said of code
and statements that hold none, and of files whose names can be read back (`Nameable`).
-/
import Mathlib.Algebra.Ring.Nat
import TextTemplate.Proofs.Output.CodeText
import TextTemplate.Proofs.Output.LineMapping
import TextTemplate.Proofs.Output.LineReading

namespace TextTemplate
namespace Output

open Fragment (ofPiece)
open Text (Ruled pieces)

variable {mode : LineMode} {l : Layout} {i root : Text}

/-! ## What is in front of code -/

/-- **In front of a statement** stand the directive of its piece and, behind that, statements of
pieces with the same directive. -/
theorem exists_run {fs : List Fragment} (h : Mapped mode l i root fs) (hmode : mode ≠ .off)
    {before after : List Fragment} {p : Piece} (hfs : fs = before ++ .statement p :: after) :
    ∃ (head : List Fragment) (run : List Piece),
      before = head ++ ofPiece l root p :: run.map .statement ∧
      ∀ q ∈ run, ofPiece l root q = ofPiece l root p := by
  -- Back from the statement: only a statement with the same directive can stand in between.
  induction before using List.reverseRecOn generalizing p after with
  | nil =>
    have hforce := h.statement hmode [] p after hfs
    cases hforce
  | append_singleton before g ih =>
    have hforce := h.statement hmode (before ++ [g]) p after hfs
    have hg : fs = before ++ g :: .statement p :: after := by simpa using hfs
    rw [inForce_append] at hforce
    cases g with
    | mapping line file =>
      cases hforce
      exact ⟨before, [], rfl, by simp⟩
    | unmapping => cases hforce
    | statement q =>
      have hsame : ofPiece l root q = ofPiece l root p := by
        rw [h.statement hmode before q _ hg] at hforce
        exact Option.some.inj hforce
      obtain ⟨head, run, rfl, hrun⟩ := ih hg
      refine ⟨head, run ++ [q], by simp [hsame], fun r hr => ?_⟩
      rcases List.mem_append.1 hr with hr | hr
      · exact (hrun r hr).trans hsame
      · rw [List.mem_singleton.1 hr, hsame]
    | helper q =>
      obtain ⟨-, a, ha⟩ := h.helper hmode before q _ hg
      cases ha
    | other t =>
      rcases h.other before t _ hg with hquiet | hquiet
      · rw [hquiet] at hforce
        cases hforce
      · rw [hquiet] at hforce
        cases hforce

/-- The piece of a statement or a helper block. -/
def Fragment.piece? : Fragment → Option Piece
  | statement p => some p
  | helper p => some p
  | _ => none

/-- The same of statements and helper blocks. A helper block follows its directive at once. -/
theorem exists_run_of_piece? {fs : List Fragment} (h : Mapped mode l i root fs)
    (hmode : mode ≠ .off) {before after : List Fragment} {f : Fragment} {p : Piece}
    (hfs : fs = before ++ f :: after) (hf : f.piece? = some p) :
    ∃ (head : List Fragment) (run : List Piece),
      before = head ++ ofPiece l root p :: run.map .statement ∧
      (∀ q ∈ run, ofPiece l root q = ofPiece l root p) ∧ (f = .helper p → run = []) := by
  cases f with
  | statement q =>
    cases hf
    obtain ⟨head, run, hbefore, hrun⟩ := exists_run h hmode hfs
    exact ⟨head, run, hbefore, hrun, fun hhelper => by cases hhelper⟩
  | helper q =>
    cases hf
    obtain ⟨⟨head, hhead⟩, -⟩ := h.helper hmode before p after hfs
    exact ⟨head, [], hhead, by simp, fun _ => rfl⟩
  | _ => cases hf

/-! ## Code, line by line -/

/-- Whether the lines of a piece are those of its text: the code has no line end beyond ASCII, and
that of an expression starts on the first line. -/
structure Mappable (p : Piece) : Prop where
  narrow : ∀ w ∈ Literal.wideEnds, ¬w <:+: p.text
  first : p.kind = .expression → ∀ c ∈ (pieces 0x0A p.text).head?, c.isBlank = false

theorem writes_fragment (hi : Level i) (hunit : Level l.unit) (hl : l.newline ∈ Text.breaks)
    {f : Fragment} {p : Piece} {kind : CodeKind} (hf : f.piece? = some p)
    (hhelper : f = .helper p ↔ p.kind = .helper) (hkind : p.kind = kind.pieceKind)
    (hpaired : p.text.Paired) (hm : Mappable p) : Writes l (f.text l i) p.text := by
  have hblock {j : Text} (hj : Level j) := writes_block hj hl hpaired hm.narrow
  cases f with
  | statement q =>
    cases hf
    have hdeep : Level (i ++ l.unit) := hi.append hunit
    rw [Fragment.text, statementText, hkind]
    cases kind with
    | expression => exact writes_expression hdeep hl hpaired hm.narrow (hm.first hkind)
    | block => exact hblock hdeep
    | helper => cases hhelper.2 hkind
  | helper q =>
    cases hf
    exact hblock hi
  | _ => cases hf

/-! ## Reading up to the code -/

/-- A file name that can be read back from a directive: it breaks no line and holds no quote. -/
structure Nameable (file : Text) : Prop where
  unbroken : file.Unbroken
  quote : 0x22 ∉ file

/-- Whether no line of a fragment is a directive of its own. -/
def Fragment.Plain (l : Layout) (i : Text) (f : Fragment) : Prop :=
  ∀ x ∈ (f.text l i).physicalLines, directive? x = none

instance (l : Layout) (i : Text) (f : Fragment) : Decidable (f.Plain l i) :=
  inferInstanceAs (Decidable (∀ x ∈ (f.text l i).physicalLines, directive? x = none))

/-- The lines of statements. -/
def statementLines (l : Layout) (i : Text) (ps : List Piece) : Nat :=
  (ps.map fun p => (statementText l (i ++ l.unit) p).lineEnds).sum

/-- A statement starts with no LF that a CR in front of it could take. -/
theorem not_splits_statementText (hi : Level i) (hl : l.newline ∈ Text.breaks) (p : Piece) :
    ¬Text.Splits l.newline (statementText l i p) := by
  -- Content and expressions start with the indent and the call that writes them.
  have hopens {a : Text} (ha : Level a) (hne : a ≠ []) (s : Text) :
      ¬Text.Splits l.newline (i ++ (a ++ s)) := by
    rw [← List.append_assoc]
    exact (hi.append ha).not_splits (List.append_ne_nil_of_right_ne_nil _ hne) _ _
  have hbetween {a b : Text} (ha : Level a) (hne : a ≠ []) (hb : 0x0A ∉ b) (hb' : b ≠ [])
      (s : Text) : ¬Text.Splits l.newline (l.line i (a ++ s ++ b)) := by
    rw [line_between (fun h => (ha _ h).2.2 rfl) hb hb']
    simp only [List.append_assoc]
    exact hopens ha hne _
  unfold statementText
  split
  · unfold contentText
    split
    · exact hbetween (Text.isAsciiLine_iff.1 (by decide +kernel)) (by decide +kernel)
        (by decide +kernel) (by decide +kernel) _
    · rw [Writer.line_of_not_mem (by decide +kernel) (by decide +kernel)]
      simp only [List.append_assoc]
      exact hopens (Text.isAsciiLine_iff.1 (by decide +kernel)) (by decide +kernel) _
  · exact hbetween (Text.isAsciiLine_iff.1 (by decide +kernel)) (by decide +kernel)
      (by decide +kernel) (by decide +kernel) _
  · exact not_splits_block hi hl p.text
  · exact fun h => by cases h.2

/-- Statements end the lines of each of them. -/
theorem endedLines_run (hi : Level (i ++ l.unit)) (hl : l.newline ∈ Text.breaks)
    (run : List Piece) :
    ¬Text.Splits l.newline (render l i (run.map .statement)) ∧
      (render l i (run.map .statement)).endedLines =
        run.flatMap fun q => (statementText l (i ++ l.unit) q).endedLines := by
  induction run with
  | nil => exact ⟨(fun h => by cases h.2), rfl⟩
  | cons q run ih =>
    obtain ⟨hsplits, hended⟩ := ih
    have hq := not_splits_statementText hi hl q
    have hends : EndsLines l (statementText l (i ++ l.unit) q) := endsLines_statementText _ q
    rw [List.map_cons, render_cons, Fragment.text, List.flatMap_cons, hends.endedLines hl hsplits,
      hended]
    exact ⟨Text.not_splits_append hq hsplits, rfl⟩

/-- A text of directives and statements ends its last line. -/
theorem newline_suffix_run (head : List Fragment) (p : Piece) (run : List Piece) :
    l.newline <:+ render l i (head ++ ofPiece l root p :: run.map .statement) := by
  have hstatements : EndsLines l (render l i (run.map .statement)) :=
    endsLines_render fun t ht => by
      obtain ⟨f, hf, hother⟩ := List.mem_filterMap.1 ht
      obtain ⟨q, -, rfl⟩ := List.mem_map.1 hf
      cases hother
  rw [render_append, render_cons, ← List.append_assoc]
  exact hstatements.suffix_append ((List.suffix_append _ _).trans (List.suffix_append _ _))

/-- In front of the statements stands the line of their directive. -/
theorem endedLines_mapped (hi : Level (i ++ l.unit)) (hl : l.newline ∈ Text.breaks)
    {head : List Fragment} (hhead : l.newline <:+ render l i head) (p : Piece)
    (hfile : (l.lineFile (pieceFile root p)).Unbroken) (run : List Piece) :
    (render l i (head ++ ofPiece l root p :: run.map .statement)).endedLines =
      (render l i head).endedLines
        ++ Writer.lineDirective p.span.start.line (l.lineFile (pieceFile root p))
          :: run.flatMap fun q => (statementText l (i ++ l.unit) q).endedLines := by
  obtain ⟨s, hs, hunbroken⟩ := directive_text (l := l) (i := i) (f := ofPiece l root p) rfl hfile
  have hdirective : Writer.lineDirective p.span.start.line (l.lineFile (pieceFile root p)) = s :=
    List.append_cancel_right hs
  have hruled : Ruled [s] (s ++ l.newline) := by
    rw [← List.append_nil (s ++ l.newline)]
    exact .cons hunbroken hl (fun h => by cases h.2) .nil
  have hends : EndsLines l (render l i head) := .inr hhead
  have hsplits (t : Text) : ¬Text.Splits l.newline (s ++ l.newline ++ t) := by
    rw [← hdirective]
    exact fun h => by cases h.2
  obtain ⟨hstatements, hended⟩ := endedLines_run hi hl run
  rw [render_append, render_cons, hs, hends.endedLines hl (hsplits _),
    (endsLines_newline s).endedLines hl hstatements, hruled.endedLines, hended, hdirective]
  rfl

/-- **Up to a fragment**: the directive of its piece is read, and the statements behind it move the
mark on by their lines. -/
theorem exists_mark (hi : Level (i ++ l.unit)) (hl : l.newline ∈ Text.breaks)
    {head : List Fragment} (hhead : l.newline <:+ render l i head) {p : Piece}
    (hfile : Nameable (l.lineFile (pieceFile root p))) {run : List Piece}
    (hrun : ∀ q ∈ run, (Fragment.statement q).Plain l i) :
    ∃ name, (l.lineFile (pieceFile root p) ≠ [] → name = l.lineFile (pieceFile root p)) ∧
      (render l i (head ++ ofPiece l root p :: run.map .statement)).endedLines.foldl Mark.read none
        = some (p.span.start.line + Int64.ofNat (statementLines l i run), name) := by
  have hplain : ∀ x ∈ run.flatMap fun q => (statementText l (i ++ l.unit) q).endedLines,
      directive? x = none := by
    intro x hx
    obtain ⟨q, hq, hx⟩ := List.mem_flatMap.1 hx
    exact hrun q hq x (List.mem_of_mem_dropLast hx)
  have hlength : (run.flatMap fun q => (statementText l (i ++ l.unit) q).endedLines).length =
      statementLines l i run := by
    simp only [List.length_flatMap, Text.length_endedLines, statementLines]
  rw [endedLines_mapped hi hl hhead p hfile.unbroken, List.foldl_append, List.foldl_cons,
    Mark.foldl_read _ hplain, hlength, Mark.read, directive?_lineDirective _ hfile.quote]
  exact ⟨_, fun hne => by simp [hne], rfl⟩

/-- **In a fragment** the lines are read from there on. -/
theorem lineMark_run (hi : Level (i ++ l.unit)) (hl : l.newline ∈ Text.breaks)
    {head : List Fragment} {run : List Piece} {p : Piece} {f : Fragment}
    (hhead : l.newline <:+ render l i head) (hfile : Nameable (l.lineFile (pieceFile root p)))
    (hrun : ∀ q ∈ run, (Fragment.statement q).Plain l i) {xs : List Text}
    (hxs : Ruled xs (f.text l i)) (hsplits : ¬Text.Splits l.newline (f.text l i))
    (after : List Fragment) :
    let before := head ++ ofPiece l root p :: run.map .statement
    let text := render l i (before ++ f :: after)
    ∃ name, (l.lineFile (pieceFile root p) ≠ [] → name = l.lineFile (pieceFile root p)) ∧
      ∀ j x, xs[j]? = some x →
        text.physicalLines[(render l i before).lineEnds + j]? = some x ∧
        lineMark text ((render l i before).lineEnds + j) = (xs.take j).foldl Mark.read
          (some (p.span.start.line + Int64.ofNat (statementLines l i run), name)) := by
  intro before text
  obtain ⟨name, hname, hmark⟩ := exists_mark hi hl hhead hfile hrun
  refine ⟨name, hname, fun j x hx => ?_⟩
  have hj := (List.getElem?_eq_some_iff.1 hx).1
  have hrest : ¬Text.Splits l.newline (f.text l i ++ render l i after) := by
    cases xs with
    | nil => exact absurd hj (Nat.not_lt_zero j)
    | cons x xs => exact Text.not_splits_append_of_ne_nil hxs.ne_nil hsplits _
  have hends : EndsLines l (render l i before) := .inr (newline_suffix_run head p run)
  obtain ⟨lines, hlines⟩ := hxs.prefix_physicalLines (render l i after)
  have htext : text.physicalLines = (render l i before).endedLines ++ (xs ++ lines) := by
    have happend : text = render l i before ++ (f.text l i ++ render l i after) :=
      render_append l i before (f :: after)
    rw [happend, hends.physicalLines hl hrest, hlines]
  rw [lineMark, htext, ← Text.length_endedLines]
  constructor
  · rw [List.getElem?_append_right (Nat.le_add_right _ _), Nat.add_sub_cancel_left,
      List.getElem?_append_left hj, hx]
  · rw [List.take_length_add_append, List.take_append_of_le_length (Nat.le_of_lt hj),
      List.foldl_append, hmark]

/-! ## Code, line by line -/

/-- How the lines of a fragment are read, when its code stands at an offset of a file. Each of them
is a line of the text, carries the line of code of its number, which stands on a line of the file,
and is taken for the line `k` further on. A file without a name is not told from the one named last.
The lines of code that are left are blank. -/
structure Attributed (l : Layout) (i text : Text) (before : List Fragment) (f : Fragment)
    (p : Piece) (content file : Text) (n k : Nat) : Prop where
  code : Grammar.CodeAt content n p.text
  line : ∀ j < (f.text l i).lineEnds, ∃ x c name,
    text.physicalLines[(render l i before).lineEnds + j]? = some x ∧
    (pieces 0x0A p.text)[j]? = some c ∧ Carries x c ∧
    Grammar.OnLine content c (content.lineAt n + j) ∧
    lineMark text ((render l i before).lineEnds + j) =
      some (Int64.ofNat (content.lineAt n + j + k), name) ∧
    (file ≠ [] → name = file)
  rest : ∀ j c, (pieces 0x0A p.text)[j]? = some c → (f.text l i).lineEnds ≤ j → c.isBlank = true

/-- The lines of a fragment are read so if its file has no CR but in front of an LF. -/
theorem attributed_of_reported (hi : Level i) (hunit : Level l.unit) (hl : l.newline ∈ Text.breaks)
    {head after : List Fragment} {run : List Piece} {f : Fragment} {p : Piece} {kind : CodeKind}
    (hhead : l.newline <:+ render l i head) (hf : f.piece? = some p)
    (hhelper : f = .helper p ↔ p.kind = .helper) (hkind : p.kind = kind.pieceKind)
    (hm : Mappable p) (hplain : ∀ g ∈ f :: run.map .statement, g.Plain l i)
    {name content : Text} {e : Event} (hreported : Expansion.Reported name content p e)
    (hpairs : content.Paired) (hfile : Nameable (l.lineFile (if name.isEmpty then root else name))) :
    let before := head ++ ofPiece l root p :: run.map .statement
    ∃ n, p.span.start = Grammar.place name content n ∧
      Attributed l i (render l i (before ++ f :: after)) before f p content
        (l.lineFile (if name.isEmpty then root else name)) n (statementLines l i run) := by
  intro before
  obtain ⟨n, hstart, hcode⟩ := hreported.codeAt hpairs hkind
  obtain ⟨hline, hname⟩ := Grammar.place_line name hpairs hcode.clean
  have hpiece : pieceFile root p = if name.isEmpty then root else name := by
    rw [pieceFile, hstart, hname]
  rw [← hpiece] at hfile ⊢
  obtain ⟨hown, hrun⟩ := List.forall_mem_cons.1 hplain
  replace hrun : ∀ q ∈ run, (Fragment.statement q).Plain l i := fun q hq =>
    hrun _ (List.mem_map_of_mem hq)
  obtain ⟨xs, hxs, hcarry, hsplits⟩ :=
    writes_fragment hi hunit hl hf hhelper hkind (hcode.paired hpairs) hm
  obtain ⟨file, hsame, hread⟩ :=
    lineMark_run (hi.append hunit) hl hhead hfile hrun hxs hsplits after
  refine ⟨n, hstart, hcode, fun j hj => ?_, fun j c hc hj => ?_⟩
  · rw [hxs.lineEnds] at hj
    have hx := List.getElem?_eq_getElem hj
    obtain ⟨c, hc, hcarries⟩ := hcarry.getElem? hx
    obtain ⟨hline', hmark⟩ := hread j _ hx
    have hnone : ∀ x ∈ xs.take j, directive? x = none := fun x hx => hown x (by
      rw [hxs.physicalLines]
      exact List.mem_append_left _ (List.mem_of_mem_take hx))
    refine ⟨xs[j], c, file, hline', hc, hcarries, hcode.onLine hc, ?_, hsame⟩
    rw [hmark, Mark.foldl_read _ hnone, List.length_take_of_le (Nat.le_of_lt hj), hstart, hline,
      Nat.add_right_comm, Int64.ofNat_add (_ + _) j, Int64.ofNat_add]
    rfl
  · rw [hxs.lineEnds] at hj
    exact hcarry.isBlank hc hj

/-! ## The whole -/

theorem level_layout {σ : Type} {layout : Layout} (hunit : Level layout.unit) (root : Text)
    (settings : Settings σ) :
    let l := runLayout layout root settings
    Level l.unit ∧ Level (memberIndent l settings) := by
  intro l
  have hl : Level l.unit := by rwa [(runLayout_eq layout root settings).1]
  refine ⟨hl, ?_⟩
  unfold memberIndent
  split
  · exact hl
  · exact hl.append hl

/-- The piece of a fragment of a generated text is one of the template. -/
theorem mem_pieces_of_piece? {ps : List Piece} {fs : List Fragment}
    (hs : fs.filterMap Fragment.statement? = statements ps)
    (hh : fs.filterMap Fragment.helper? = helpers ps) {f : Fragment} (hf : f ∈ fs) {p : Piece}
    (hp : f.piece? = some p) : p ∈ ps ∧ (f = .helper p ↔ p.kind = .helper) := by
  cases f with
  | statement q =>
    cases hp
    have hmem : p ∈ statements ps := by
      rw [← hs]
      exact List.mem_filterMap.2 ⟨_, hf, rfl⟩
    obtain ⟨hmem, hkind⟩ := List.mem_filter.1 hmem
    exact ⟨hmem, iff_of_false nofun (of_decide_eq_true hkind)⟩
  | helper q =>
    cases hp
    have hmem : p ∈ helpers ps := by
      rw [← hh]
      exact List.mem_filterMap.2 ⟨_, hf, rfl⟩
    obtain ⟨hmem, hkind⟩ := List.mem_filter.1 hmem
    simp only [Bool.and_eq_true, decide_eq_true_eq] at hkind
    exact ⟨hmem, iff_of_true rfl hkind.1⟩
  | _ => cases hp

/-- Where the fragments of a method are known, so is what the lines of its statements are taken
for. -/
theorem lineMark_of_method (template : Template) (p : Piece) (run : List Piece) (f : Fragment)
    (after : List Fragment) (hhelpers : helpers template.pieces = [])
    (hmethod : (transformMethod sampleSettings.lineMode template.root template.pieces
        (firstMembers (membersWriter (runLayout .standard template.root sampleSettings)
          sampleSettings.fileScoped))).map (·.out) =
      some (let l := runLayout .standard template.root sampleSettings
        let i := memberIndent l sampleSettings
        firstText l i ++ i ++ methodOpening l i
          ++ render l i (ofPiece l template.root p :: (run.map .statement ++ f :: after))
          ++ methodClosing l i)) :
    let l := runLayout .standard template.root sampleSettings
    let i := memberIndent l sampleSettings
    let file := l.lineFile (pieceFile template.root p)
    Nameable file → file ≠ [] → (∀ q ∈ run, (Fragment.statement q).Plain l i) →
    ∀ xs : List Text, xs.all Text.isAsciiLine = true → f.text l i = xs.flatMap (· ++ utf8 "\n") →
    ∃ text n, (generate .standard template sampleSettings none [] ()).result = .ok text ∧
      ∀ j x, xs[j]? = some x → text.physicalLines[n + j]? = some x ∧
        lineMark text (n + j) = (xs.take j).foldl Mark.read
          (some (p.span.start.line + Int64.ofNat (statementLines l i run), file)) := by
  intro l i file hfile hne hrun xs hascii htext
  have hnewline : l.newline = utf8 "\n" := (runLayout_eq .standard template.root sampleSettings).2
  have hl : l.newline ∈ Text.breaks := by
    rw [hnewline]
    decide
  have hxs : Ruled xs (f.text l i) := htext ▸ Text.ruled_asciiLines hascii
  have hsplits : ¬Text.Splits l.newline (f.text l i) := by
    rw [hnewline]
    exact fun h => by cases h.1
  have hstandard : Level Layout.standard.unit := by decide +kernel
  obtain ⟨hunit, hindent⟩ := level_layout hstandard template.root sampleSettings
  obtain ⟨opening, rest, hopening, h⟩ := generate_of_method template _ hhelpers hmethod
  have hhead : l.newline <:+ render l i [.other opening] := by
    rw [render_cons, render_nil, List.append_nil]
    exact hopening
  obtain ⟨name, hname, hread⟩ := lineMark_run (hindent.append hunit) hl hhead hfile hrun hxs
    hsplits (after ++ [.other rest])
  obtain rfl := hname hne
  have hfragments (d : Fragment) (ds : List Fragment) :
      Fragment.other opening :: (d :: (ds ++ f :: after)) ++ [Fragment.other rest] =
        [Fragment.other opening] ++ d :: ds ++ f :: (after ++ [Fragment.other rest]) := by
    simp
  rw [hfragments] at h
  exact ⟨_, _, h, hread⟩

end Output

open Output Expansion in
/-- **Code is taken for its lines**, moved on by what is written in between. In a generated text the
code of a block, an expression or a helper piece stands behind the directive of its piece; between
them are statements of pieces that have the same directive, and none if it is a helper piece. The
piece is reported in one of the files. In every file that reports it and has no CR but in front of
an LF, the lines of the code are read as `Attributed` says: they are taken for the lines of the file
that they stand on, moved on by the lines of the statements in between. The file must have a name
that a directive can hold, and neither the code nor these statements may hold directives. -/
theorem generate_attributes_code {σ : Type} {layout : Layout} (hunit : Level layout.unit)
    (hnewline : layout.newline ∈ [utf8 "\n", utf8 "\r\n", utf8 "\r"])
    {root source : Text} {load : Option Loader} {template : Template}
    (hparse : Template.parse? root source load = some template) {settings : Settings σ}
    (hmode : settings.lineMode ≠ .off) {parameters : Option ParameterValues}
    {diagnostics : Diagnostics} {world : σ} {text : Text}
    (h : (generate layout template settings parameters diagnostics world).result = .ok text) :
    let l := runLayout layout template.root settings
    let i := memberIndent l settings
    ∃ (fs : List Fragment) (imports attributes written : List Text) (lead : Text),
      text = render l i fs ∧
      Composed l i settings template.pieces imports attributes written lead fs ∧
      ∀ (before after : List Fragment) (f : Fragment) (p : Piece) (kind : CodeKind),
        fs = before ++ f :: after → f.piece? = some p → p.kind = kind.pieceKind →
        (∃ name content e, FileOf load root source name content ∧ Reported name content p e) ∧
        ∃ (head : List Fragment) (run : List Piece),
          before = head ++ Fragment.ofPiece l template.root p :: run.map .statement ∧
          (∀ q ∈ run, Fragment.ofPiece l template.root q = Fragment.ofPiece l template.root p) ∧
          (kind = .helper → run = []) ∧
          ∀ name content e, Reported name content p e → content.Paired → Mappable p →
            Nameable (l.lineFile (if name.isEmpty then template.root else name)) →
            (∀ g ∈ f :: run.map .statement, g.Plain l i) →
            ∃ n, p.span.start = Grammar.place name content n ∧
              Attributed l i text before f p content
                (l.lineFile (if name.isEmpty then template.root else name)) n
                (statementLines l i run) := by
  intro l i
  obtain ⟨fs, imports, attributes, written, lead, htext, hcomposed, hmapped⟩ :=
    exists_fragments hnewline h
  obtain ⟨hlevel, hindent⟩ := level_layout hunit template.root settings
  have hbreak : l.newline ∈ Text.breaks := by
    rwa [(runLayout_eq layout template.root settings).2]
  refine ⟨fs, imports, attributes, written, lead, htext, hcomposed, ?_⟩
  intro before after f p kind hfs hf hkind
  have hmem : f ∈ fs := by
    rw [hfs]
    simp
  obtain ⟨hpiece, hhelper⟩ :=
    mem_pieces_of_piece? hcomposed.statement hcomposed.helper hmem hf
  obtain ⟨head, run, hbefore, hrun, hnone⟩ := exists_run_of_piece? hmapped hmode hfs hf
  refine ⟨pieces_parse? hparse hpiece, head, run, hbefore, hrun, ?_, ?_⟩
  · rintro rfl
    exact hnone (hhelper.2 hkind)
  · intro name content e hreported hpairs hm hfile hplain
    have hhead : l.newline <:+ render l i head :=
      hmapped.start head _ _ (by rw [hfs, hbefore, List.append_assoc]; rfl) rfl
    rw [htext, hfs, hbefore]
    exact attributed_of_reported hindent hlevel hbreak hhead hf hhelper hkind hm hplain hreported
      hpairs hfile

/-- An expression between two texts, all on one line. -/
def sharedSource : Text := utf8 "Hello <#= name #>!"

/-- A piece of that line. -/
def sharedPiece (kind : PieceKind) (text : Text) (start stop tag : Int64) : Piece :=
  let place (column : Int64) : Location := ⟨utf8 "test.tt", 1, column⟩
  ⟨kind, text, ⟨place start, place stop, place tag⟩⟩

def sharedContent : Piece := sharedPiece .content (utf8 "Hello ") 1 7 1

def sharedCode : Piece := sharedPiece .expression (utf8 " name ") 10 18 7

def sharedEnd : Piece := sharedPiece .content (utf8 "!") 18 19 18

def sharedTemplate : Template :=
  .ofSegments (utf8 "test.tt") sharedSource
    [.piece sharedContent, .piece sharedCode, .piece sharedEnd]

theorem parse?_sharedSource :
    Template.parse? (utf8 "test.tt") sharedSource none = some sharedTemplate := by
  cbv

open Output in
theorem nameable_test : Nameable (utf8 "test.tt") :=
  ⟨Text.unbroken_of_isAsciiLine (by decide +kernel), by decide +kernel⟩

open Output Expansion in
theorem generate_attributes_code_shared :
    let l := runLayout .standard sharedTemplate.root sampleSettings
    let i := memberIndent l sampleSettings
    ∃ (text : Text) (before after : List Fragment) (run : List Piece) (n : Nat),
      (generate .standard sharedTemplate sampleSettings none [] ()).result = .ok text ∧
      text = render l i (before ++ .statement sharedCode :: after) ∧
      Attributed l i text before (.statement sharedCode) sharedCode sharedSource
        (l.lineFile (utf8 "test.tt")) n (statementLines l i run) := by
  intro l i
  obtain ⟨text, h⟩ :
      ∃ text, (generate .standard sharedTemplate sampleSettings none [] ()).result = .ok text :=
    ⟨_, rfl⟩
  obtain ⟨fs, _, _, _, _, htext, hcomposed, hcode⟩ :=
    generate_attributes_code (by decide +kernel) (by decide) parse?_sharedSource (by decide) h
  have hin (p : Piece) : p ∈ statements sharedTemplate.pieces ↔ .statement p ∈ fs := by
    rw [← hcomposed.statement, List.mem_filterMap]
    constructor
    · rintro ⟨f, hf, hstatement⟩
      cases f with
      | statement q =>
        cases hstatement
        exact hf
      | _ => cases hstatement
    · exact fun hf => ⟨_, hf, rfl⟩
  obtain ⟨before, after, hfs⟩ := List.append_of_mem ((hin sharedCode).1 (by decide +kernel))
  obtain ⟨⟨name, content, e, hfile, hreported⟩, head, run, hbefore, -, -, hread⟩ :=
    hcode before after _ sharedCode .expression hfs rfl rfl
  have hstatements : ∀ p ∈ statements sharedTemplate.pieces, (Fragment.statement p).Plain l i := by
    decide +kernel
  have hplain : ∀ g ∈ Fragment.statement sharedCode :: run.map .statement, g.Plain l i := by
    refine List.forall_mem_cons.2 ⟨by decide +kernel, fun g hg => ?_⟩
    obtain ⟨q, hq, rfl⟩ := List.mem_map.1 hg
    refine hstatements q ((hin q).2 ?_)
    rw [hfs, hbefore]
    simp [hq]
  cases hfile with
  | included hl => cases hl
  | root =>
    have hmappable : Mappable sharedCode := ⟨by decide +kernel, fun _ => by decide +kernel⟩
    obtain ⟨n, -, hattributed⟩ := hread _ _ e hreported (by decide +kernel) hmappable
      (show Nameable (l.lineFile (utf8 "test.tt")) from nameable_test) hplain
    exact ⟨text, before, after, run, n, h, hfs ▸ htext, hattributed⟩

/-- A block that holds a directive of its own. -/
def redirectedSource : Text := utf8 "<#\n#line 100 \"foo\"\nfoo();\n#>"

def redirectedCode : Piece :=
  let file := utf8 "test.tt"
  ⟨.block, utf8 "\n#line 100 \"foo\"\nfoo();\n", ⟨⟨file, 1, 3⟩, ⟨file, 4, 3⟩, ⟨file, 1, 1⟩⟩⟩

def redirectedTemplate : Template :=
  .ofSegments (utf8 "test.tt") redirectedSource [.piece redirectedCode]

open Output in
/-- Code is not always taken for its line. An expression that is not the first on its line stands on
line 1 and is taken for line 2. And code behind a directive of its own stands on line 3 and is taken
for what that says. -/
theorem generate_misplaces_code :
    sampleSettings.lineMode ≠ .off ∧
    (sharedSource.Paired ∧
      Template.parse? (utf8 "test.tt") sharedSource none = some sharedTemplate ∧
      ∃ (text : Text) (n : Nat),
        (generate .standard sharedTemplate sampleSettings none [] ()).result = .ok text ∧
        text.physicalLines[n]? = some (utf8 "        _output.Append(FormatObject(name));") ∧
        Grammar.OnLine sharedSource sharedCode.text 1 ∧
        lineMark text n = some (2, utf8 "test.tt")) ∧
    redirectedSource.Paired ∧
      Template.parse? (utf8 "test.tt") redirectedSource none = some redirectedTemplate ∧
      ∃ (text : Text) (n : Nat),
        (generate .standard redirectedTemplate sampleSettings none [] ()).result = .ok text ∧
        text.physicalLines[n]? = some (utf8 "        foo();") ∧
        Grammar.OnLine redirectedSource (utf8 "foo();") 3 ∧
        lineMark text n = some (100, utf8 "foo") := by
  refine ⟨by decide, ⟨by decide +kernel, parse?_sharedSource, ?_⟩, by decide +kernel, by cbv, ?_⟩
  · obtain ⟨text, n, h, hread⟩ := lineMark_of_method sharedTemplate sharedCode
      [sharedContent] (.statement sharedCode) [.statement sharedEnd, .unmapping] rfl
      (by decide +kernel) nameable_test (by decide +kernel) (by decide +kernel)
      [utf8 "        _output.Append(FormatObject(name));"] (by decide +kernel)
      (by decide +kernel)
    obtain ⟨hline, hmark⟩ := hread 0 _ rfl
    refine ⟨text, n, h, hline, ?_, hmark.trans (by decide +kernel)⟩
    exact ⟨9, utf8 " name ", by decide +kernel, by decide, by decide +kernel, by decide +kernel⟩
  · obtain ⟨text, n, h, hread⟩ := lineMark_of_method redirectedTemplate redirectedCode []
      (.statement redirectedCode) [.unmapping] rfl
      (by decide +kernel) nameable_test (by decide +kernel) (by simp)
      [[], utf8 "        #line 100 \"foo\"", utf8 "        foo();"] (by decide +kernel)
      (by decide +kernel)
    obtain ⟨hline, hmark⟩ := hread 2 _ rfl
    refine ⟨text, n + 2, h, hline, ?_, hmark.trans (by decide +kernel)⟩
    exact ⟨19, utf8 "foo();", by decide +kernel, by decide, by decide +kernel, by decide +kernel⟩

end TextTemplate
