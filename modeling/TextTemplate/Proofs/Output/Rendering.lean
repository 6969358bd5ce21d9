/-
The generated class renders its template. `generate_renders` gives the whole text of a class
without processors: a fixed opening, fixed members, and the method, in which every piece that is no
helper has one statement, in order, between the clearing of the output and its return; behind the
method every helper piece with a text has its block.

What a statement writes is read with the rules of the generated language, not with those of the
writer: the argument of a content statement is an expression, and its value is the content
(`Output.States`). The one exception is a text that is not quotable: its argument has no value.
-/
import Mathlib.Data.List.Forall2
import TextTemplate.Output.Unit
import TextTemplate.Proofs.Code.Lines
import TextTemplate.Proofs.Code.Quoting

namespace TextTemplate
namespace Output

open StringExpression (eval? isSpace)
open Writer (Adds Stands)

/-! ## What the class should be -/

/-- The `#line` directive in front of a piece: that of the piece, or none, because lines are not
mapped or the directive is in force. -/
def Maps (mode : LineMode) (l : Layout) (root : Text) (p : Piece) (d : Text) : Prop :=
  d = [] ∨ mode ≠ .off ∧
    d = Writer.lineDirective p.span.start.line (l.lineFile (pieceFile root p)) ++ l.newline

/-- The statement of a piece at an indent. -/
def States (l : Layout) (indent : Text) (p : Piece) (t : Text) : Prop :=
  match p.kind with
  | .content =>
    ∃ argument, t = indent ++ utf8 "_output.Append(" ++ argument ++ utf8 ");" ++ l.newline ∧
      eval? argument = if p.text.isQuotable then some p.text else none
  | .expression =>
    t = indent ++ utf8 "_output.Append(FormatObject(" ++ Text.behindFeeds indent p.text.trim
      ++ utf8 "));" ++ l.newline
  | .block => t = (Writer.linesOf p.text).flatMap (l.codeLine indent)
  | _ => False

/-- What the method holds for a piece. -/
def Emits (mode : LineMode) (l : Layout) (root indent : Text) (p : Piece) (t : Text) : Prop :=
  ∃ d s, t = d ++ s ∧ Maps mode l root p d ∧ States l indent p s

/-- The end of a mapping of lines, when there is one. -/
def endMapping (l : Layout) (mapped : Bool) : Text :=
  if mapped then utf8 "#line default" ++ l.newline else []

/-- What the class holds for a helper piece. -/
def Helps (mode : LineMode) (l : Layout) (root indent : Text) (p : Piece) (t : Text) : Prop :=
  ∃ d, t = d ++ (Writer.linesOf p.text).flatMap (l.codeLine indent)
      ++ endMapping l (mode ≠ .off) ++ l.newline ∧ Maps mode l root p d

/-- The members in front of the method. -/
def firstText (l : Layout) (i : Text) : Text :=
  l.line i (utf8 "private readonly StringBuilder _output = new StringBuilder(1024);") ++ l.newline
    ++ l.line i (utf8 "public IFormatProvider FormatProvider \x7b get; set; \x7d = "
      ++ utf8 "System.Globalization.CultureInfo.InvariantCulture;")
    ++ l.newline

/-- A head with its body in braces. -/
def branchText (l : Layout) (i head body : Text) : Text :=
  l.line i head ++ l.line i (utf8 "\x7b") ++ body ++ l.line i (utf8 "\x7d")

/-- A condition with its body. -/
def ifText (l : Layout) (i condition body : Text) : Text :=
  branchText l i (utf8 "if (" ++ condition ++ utf8 ")") body

/-- The method around the statements of the template. -/
def methodText (l : Layout) (i statements : Text) : Text :=
  branchText l i (utf8 "public string TransformText()")
    (l.line (i ++ l.unit) (utf8 "_output.Clear();") ++ statements
      ++ l.line (i ++ l.unit) (utf8 "return _output.ToString();")) ++ l.newline

/-- The inside of the formatter. -/
def formatterBody (l : Layout) (i : Text) : Text :=
  ifText l i (utf8 "value == null")
      (l.line (i ++ l.unit) (utf8 "throw new ArgumentNullException(nameof(value));"))
    ++ ifText l i (utf8 "value is IConvertible convertible")
      (l.line (i ++ l.unit) (utf8 "return convertible.ToString(FormatProvider);"))
    ++ l.line i (utf8 "var type = value.GetType();")
    ++ ifText l i (utf8 "!_formatterCache.TryGetValue(type, out var formatter)")
      (l.line (i ++ l.unit) (utf8 "var toString = type.GetMethod(\"ToString\", new[] \x7b "
          ++ utf8 "typeof(IFormatProvider) \x7d);")
        ++ ifText l (i ++ l.unit) (utf8 "toString != null")
          (l.line (i ++ l.unit ++ l.unit)
            (utf8 "formatter = v => (string)toString.Invoke(v, new object[] \x7b "
              ++ utf8 "FormatProvider \x7d);"))
        ++ branchText l (i ++ l.unit) (utf8 "else")
          (l.line (i ++ l.unit ++ l.unit) (utf8 "formatter = v => v.ToString();"))
        ++ l.line (i ++ l.unit) (utf8 "_formatterCache.Add(type, formatter);"))
    ++ l.line i (utf8 "return formatter(value);")

/-- The members behind the helper pieces. -/
def formatterText (l : Layout) (i : Text) : Text :=
  l.line i (utf8 "private readonly Dictionary<Type, Func<object, string>> "
      ++ utf8 "_formatterCache = new Dictionary<Type, Func<object, string>>();") ++ l.newline
    ++ branchText l i (utf8 "private string FormatObject(object value)")
      (formatterBody l (i ++ l.unit))

/-- The line a class opens with. -/
def classHead {σ : Type} (settings : Settings σ) : Text :=
  (if settings.isInternal then utf8 "internal" else utf8 "public") ++ utf8 " partial class "
    ++ settings.name

/-- The base of a class on a line of its own, if there is one. -/
def baseText (l : Layout) (i base : Text) : Text :=
  if base.isEmpty then [] else l.line (i ++ l.unit) (utf8 ": " ++ base)

/-- The class around its members. -/
def classText {σ : Type} (l : Layout) (i : Text) (settings : Settings σ) (members : Text) : Text :=
  l.line i (classHead settings) ++ baseText l i settings.inherits ++ l.line i (utf8 "\x7b")
    ++ members ++ l.line i (utf8 "\x7d")

/-- The using directives and the empty line behind them. -/
def usingText (l : Layout) (imports : List Text) : Text :=
  (imports.flatMap fun name => l.line [] (utf8 "using " ++ name ++ utf8 ";")) ++ l.newline

/-- The whole text around the members of the class. -/
def unitText {σ : Type} (l : Layout) (settings : Settings σ) (members : Text) : Text :=
  usingText l (settings.imports.add requiredImports).values
    ++ if settings.fileScoped then
      l.line [] (utf8 "namespace " ++ settings.namespaceName ++ utf8 ";") ++ l.newline
        ++ classText l [] settings members
    else branchText l [] (utf8 "namespace " ++ settings.namespaceName)
      (classText l l.unit settings members)

/-- The indent of the members. -/
def memberIndent {σ : Type} (l : Layout) (settings : Settings σ) : Text :=
  if settings.fileScoped then l.unit else l.unit ++ l.unit

/-! ## Fixed parts -/

variable {w w' v : Writer} {l : Layout} {i t u : Text}

/-- A line and a part in braces behind it. -/
theorem adds_branch (h : Adds w t w') (hw : w.Stands l i) {head : Text} {body : Writer → Writer}
    (hbody : ∀ v, v.Stands l (i ++ l.unit) → Adds v u (body v)) :
    Adds w (t ++ branchText l i head u)
      ((body (w'.writeLine head).openBrace).closeScope (utf8 "\x7d")) := by
  have hhead := h.writeLine hw head
  have hall := hhead.braces hw (hbody _ (hhead.stands hw).openBrace)
  simpa only [branchText, List.append_assoc] using hall

theorem adds_ifBody (h : Adds w t w') (hw : w.Stands l i) {condition : Text}
    {body : Writer → Writer} (hbody : ∀ v, v.Stands l (i ++ l.unit) → Adds v u (body v)) :
    Adds w (t ++ ifText l i condition u) (ifBody w' condition body) :=
  adds_branch h hw hbody

theorem adds_elseBody (h : Adds w t w') (hw : w.Stands l i) {body : Writer → Writer}
    (hbody : ∀ v, v.Stands l (i ++ l.unit) → Adds v u (body v)) :
    Adds w (t ++ branchText l i (utf8 "else") u) (elseBody w' body) :=
  adds_branch h hw hbody

/-- A method opens with its head and a brace. -/
theorem method_eq (w : Writer) {name type : Text} {access : Access} {ps : List Parameter}
    (head : Text) (hhead : declarationHead access 0 ++ type ++ utf8 " " ++ name ++ utf8 "("
      ++ Parameter.list ps ++ utf8 ")" = head) :
    w.method name type access 0 ps = ((w.writeLine head).openBrace, .braceLine) := by
  subst hhead
  rfl

/-- A line and a part in braces behind it, with an empty line behind that. -/
theorem adds_method (h : Adds w t w') (hw : w.Stands l i) {head : Text}
    (hin : Adds (w'.writeLine head).openBrace u v) :
    Adds w (t ++ branchText l i head u ++ l.newline) (Scope.braceLine.close v).1 := by
  have hall := ((h.writeLine hw head).braces hw hin).rawWriteLine hw []
  change Adds w _ ((v.closeScope (utf8 "\x7d")).rawWriteLine [])
  simpa only [branchText, List.append_assoc, List.nil_append] using hall

theorem adds_firstMembers (hw : w.Stands l i) : Adds w (firstText l i) (firstMembers w) := by
  have hproperty : declarationHead .isPublic 0 ++ utf8 "IFormatProvider" ++ utf8 " "
        ++ utf8 "FormatProvider" ++ utf8 " \x7b get; " ++ [] ++ utf8 "set; \x7d"
        ++ (utf8 " = " ++ utf8 "System.Globalization.CultureInfo.InvariantCulture" ++ utf8 ";") =
      utf8 "public IFormatProvider FormatProvider \x7b get; set; \x7d = "
        ++ utf8 "System.Globalization.CultureInfo.InvariantCulture;" := by decide +kernel
  rw [firstText, ← hproperty]
  exact (((hw.adds.writeLine hw _).blankLine hw).writeLine hw _).blankLine hw

theorem adds_formatter (hw : w.Stands l i) :
    Adds w (formatterText l i ++ l.newline) (formatter w) := by
  have line {v : Writer} {i : Text} (hv : v.Stands l i) (s : Text) :
      Adds v (l.line i s) (v.writeLine s) := hv.adds.writeLine hv s
  have htop := (line hw (utf8 "private readonly Dictionary<Type, Func<object, string>> "
    ++ utf8 "_formatterCache = new Dictionary<Type, Func<object, string>>();")).blankLine hw
  have hhead := htop.writeLine hw (utf8 "private string FormatObject(object value)")
  have hv := (hhead.stands hw).openBrace
  rw [formatter]
  dsimp only
  rw [method_eq _ (utf8 "private string FormatObject(object value)") (by decide +kernel)]
  refine adds_method htop hw ?_
  -- the conditions of the method's body in order; the third has conditions of its own
  refine Adds.writeLine (adds_ifBody (Adds.writeLine (adds_ifBody (adds_ifBody hv.adds hv
    fun v hv => line hv _) hv fun v hv => line hv _) hv _) hv fun v hv => ?_) hv _
  exact Adds.writeLine (adds_elseBody (adds_ifBody (line hv _) hv fun v hv => line hv _) hv
    fun v hv => line hv _) hv _

/-! ## Statements -/

theorem quote_ne_nil (w : Writer) (s : Text) : (w.quote s).text ≠ [] := by
  rw [Writer.quote_eq]
  split
  · rw [Writer.quoteEscaped, Writer.quoteEscapedBy, Literal.ofClusters_eq]
    dsimp only
    split
    · exact List.cons_ne_nil _ _
    · exact List.cons_ne_nil _ _
  · exact List.cons_ne_nil _ _

theorem states_expression (h : Adds w t w') (hw : w.Stands l i) {p : Piece}
    (hp : p.kind = .expression) :
    ∃ s, States l i p s ∧ Adds w (t ++ s)
      (w'.writeLine (utf8 "_output.Append(FormatObject(" ++ p.text.trim ++ utf8 "));")) := by
  have hline := h.writeLine hw (utf8 "_output.Append(FormatObject(" ++ p.text.trim ++ utf8 "));")
  have hlast : Writer.endsWithLF (utf8 "_output.Append(FormatObject(" ++ p.text.trim ++ utf8 "));")
      = false := by
    rw [Writer.endsWithLF, List.getLast?_append_of_ne_nil _ (by decide)]
    decide
  rw [Writer.line_eq (List.append_ne_nil_of_right_ne_nil _ (by decide)) hlast, Text.behindFeeds,
    List.flatMap_append, List.flatMap_append] at hline
  refine ⟨_, ?_, hline⟩
  simp only [States, hp]
  simp only [Text.behindFeeds, List.append_assoc]
  rfl

section Blank

variable (hblank : ∀ b ∈ l.newline ++ i ++ l.unit, isSpace b = true)

include hblank

/-- A content statement has an argument that stands for its text. -/
theorem states_writeContent (h : Adds w t w') (hw : w.Stands l i) {p : Piece}
    (hp : p.kind = .content) :
    ∃ s, States l i p s ∧ Adds w (t ++ s) (writeContent w' p.text) := by
  have hw' := h.stands hw
  have hspace : ∀ b ∈ l.newline ++ i, isSpace b = true :=
    fun b hb => hblank b (List.mem_append_left _ hb)
  simp only [writeContent, States, hp]
  cases hmulti : (w'.quote p.text).multiline with
  | false =>
    have hnil : ∀ b ∈ ([] : Text), isSpace b = true := fun b hb => absurd hb List.not_mem_nil
    have hlf : 0x0A ∉ utf8 "_output.Append(" ++ (w'.quote p.text).text ++ utf8 ");" :=
      List.not_mem_append
        (List.not_mem_append (by decide) (Writer.break_not_mem_quoteBy (.inr rfl) hmulti)) (by decide)
    have hne : utf8 "_output.Append(" ++ (w'.quote p.text).text ++ utf8 ");" ≠ [] :=
      List.append_ne_nil_of_right_ne_nil _ (by decide)
    have hline := h.writeLine hw (utf8 "_output.Append(" ++ (w'.quote p.text).text ++ utf8 ");")
    rw [Writer.line_of_not_mem hne hlf] at hline
    refine ⟨_, ⟨(w'.quote p.text).text, rfl, ?_⟩, by simpa using hline⟩
    have heval := Writer.eval?_quote (w := w') (by rwa [hw'.layout, hw'.indent]) hnil hnil p.text
    rwa [List.nil_append, List.append_nil] at heval
  | true =>
    have hhead := h.writeLine hw (utf8 "_output.Append(")
    have hin := (hhead.stands hw).addIndent
    have hbefore : ∀ b ∈ l.newline ++ (i ++ l.unit), isSpace b = true := by
      rwa [← List.append_assoc]
    have heval := Writer.eval?_quote (w := (w'.writeLine (utf8 "_output.Append(")).addIndent)
      (by rwa [hin.layout, hin.indent]) hbefore hspace p.text
    have hquoted := hin.adds.literalLine hin
      (quote_ne_nil (w'.writeLine (utf8 "_output.Append(")).addIndent p.text)
    have hall := (hhead.further hquoted).writeLine hw (utf8 ");")
    have hopen : l.line i (utf8 "_output.Append(") = i ++ utf8 "_output.Append(" ++ l.newline :=
      Writer.line_of_not_mem (by decide) (by decide) l i
    have hclose : l.line i (utf8 ");") = i ++ utf8 ");" ++ l.newline :=
      Writer.line_of_not_mem (by decide) (by decide) l i
    rw [hopen, hclose] at hall
    exact ⟨_, ⟨_, rfl, heval⟩, by simpa using hall⟩

/-- **One step**: the statement of a piece is what the piece calls for. -/
theorem states_writePiece? (h : Adds w t w') (hw : w.Stands l i) {p : Piece}
    (hp : writePiece? w' p = some v) : ∃ s, States l i p s ∧ Adds w (t ++ s) v := by
  unfold writePiece? at hp
  split at hp
  · next hkind =>
    cases hp
    exact ⟨_, by simp only [States, hkind], h.writeBlock hw p.text⟩
  · next hkind =>
    cases hp
    exact states_expression h hw hkind
  · next hkind =>
    cases hp
    exact states_writeContent hblank h hw hkind
  · cases hp

omit hblank in
theorem maps_mapPiece (h : Adds w t w') (hw : w.Stands l i) (mode : LineMode) (root : Text)
    (p : Piece) : ∃ d, Maps mode l root p d ∧ Adds w (t ++ d) (mapPiece mode root w' p) := by
  unfold mapPiece
  split
  · exact ⟨[], .inl rfl, by rwa [List.append_nil]⟩
  · next hmode =>
    obtain ⟨d, hd, hadds⟩ := h.linePragma hw p.span.start.line (pieceFile root p)
    exact ⟨d, hd.imp_right fun hd => ⟨hmode, hd⟩, hadds⟩

/-- **The run**: one emission for each piece that is no helper, in order. -/
theorem emits_writePieces (h : Adds w t w') (hw : w.Stands l i) {mode : LineMode} {root : Text}
    {ps : List Piece} (hps : writePieces mode root ps w' = some v) :
    ∃ es, List.Forall₂ (Emits mode l root i) (ps.filter (·.kind ≠ .helper)) es ∧
      Adds w (t ++ es.flatten) v := by
  induction ps generalizing t w' with
  | nil =>
    cases hps
    exact ⟨[], .nil, by simpa using h⟩
  | cons p ps ih =>
    rw [writePieces] at hps
    split at hps
    · next hkind =>
      have hfilter : (p :: ps).filter (·.kind ≠ .helper) = ps.filter (·.kind ≠ .helper) := by
        simp [hkind]
      rw [hfilter]
      exact ih h hps
    · next hkind =>
      have hfilter : (p :: ps).filter (·.kind ≠ .helper) = p :: ps.filter (·.kind ≠ .helper) := by
        simp [hkind]
      split at hps
      · next x hx =>
        obtain ⟨d, hd, hmap⟩ := maps_mapPiece h hw mode root p
        obtain ⟨s, hs, hstate⟩ := states_writePiece? hblank hmap hw hx
        obtain ⟨es, hes, hall⟩ := ih hstate hps
        refine ⟨(d ++ s) :: es, ?_, by simpa using hall⟩
        rw [hfilter]
        exact .cons ⟨d, s, rfl, hd, hs⟩ hes
      · cases hps

end Blank

/-! ## Method and helpers -/

/-- The pieces that have a statement. -/
def statements (pieces : List Piece) : List Piece := pieces.filter (·.kind ≠ .helper)

theorem adds_endMapping (h : Adds w t w') (hw : w.Stands l i) (mapped : Prop) [Decidable mapped] :
    Adds w (t ++ endMapping l mapped) (if mapped then w'.lineDefault else w') := by
  by_cases hm : mapped
  · rw [if_pos hm, endMapping, if_pos (decide_eq_true hm)]
    exact h.lineDefault hw
  · rw [if_neg hm, endMapping, if_neg (by simpa using hm), List.append_nil]
    exact h

theorem emits_transformMethod
    (hblank : ∀ b ∈ l.newline ++ (i ++ l.unit) ++ l.unit, isSpace b = true)
    (h : Adds w t w') (hw : w.Stands l i) {mode : LineMode} {root : Text} {ps : List Piece}
    (hps : transformMethod mode root ps w' = some v) :
    ∃ es, List.Forall₂ (Emits mode l root (i ++ l.unit)) (statements ps) es ∧
      Adds w (t ++ methodText l i
        (es.flatten ++ endMapping l (mode ≠ .off ∧ statements ps ≠ []))) v := by
  rw [transformMethod,
    method_eq _ (utf8 "public string TransformText()") (by decide +kernel)] at hps
  dsimp only at hps
  have hx := ((h.writeLine hw (utf8 "public string TransformText()")).stands hw).openBrace
  split at hps
  · cases hps
  · next y hy =>
    obtain ⟨es, hes, hstatements⟩ := emits_writePieces hblank (hx.adds.writeLine hx _) hx hy
    have hmapped : (mode ≠ .off ∧ ps.any (·.kind ≠ .helper) = true) ↔
        (mode ≠ .off ∧ statements ps ≠ []) := by
      simp [statements, List.filter_eq_nil_iff]
    have hend := adds_endMapping hstatements hx (mode ≠ .off ∧ ps.any (·.kind ≠ .helper) = true)
    have hall := adds_method h hw (hend.writeLine hx (utf8 "return _output.ToString();"))
    refine ⟨es, hes, ?_⟩
    cases hps
    simpa only [methodText, hmapped, List.append_assoc, List.nil_append] using hall

theorem helps_foldl (h : Adds w t w') (hw : w.Stands l i) (mode : LineMode) (root : Text)
    (ps : List Piece) :
    ∃ bs, List.Forall₂ (Helps mode l root i) ps bs ∧
      Adds w (t ++ bs.flatten) (ps.foldl (writeHelper mode root) w') := by
  induction ps generalizing t w' with
  | nil => exact ⟨[], .nil, by simpa using h⟩
  | cons p ps ih =>
    obtain ⟨d, hd, hmap⟩ := maps_mapPiece h hw mode root p
    have hblock := hmap.writeBlock hw p.text
    have hend : Adds w (t ++ (d ++ (Writer.linesOf p.text).flatMap (l.codeLine i)
        ++ endMapping l (mode ≠ .off) ++ l.newline)) (writeHelper mode root w' p) := by
      have hwritten := (adds_endMapping hblock hw (mode ≠ .off)).blankLine hw
      simpa only [writeHelper, ite_not, List.append_assoc] using hwritten
    obtain ⟨bs, hbs, hall⟩ := ih hend
    exact ⟨_ :: bs, .cons ⟨d, rfl, hd⟩ hbs, by simpa using hall⟩

/-! ## The unit -/

variable {σ : Type}

theorem adds_usings (h : Adds w t w') (hw : w.Stands l []) (imports : List Text) :
    Adds w (t ++ usingText l imports) ((imports.foldl Writer.usingLine w').blankLine 1) := by
  have hlines : Adds w
      (t ++ imports.flatMap fun name => l.line [] (utf8 "using " ++ name ++ utf8 ";"))
      (imports.foldl Writer.usingLine w') := by
    induction imports generalizing t w' with
    | nil => simpa using h
    | cons name imports ih =>
      have hline : Adds w (t ++ l.line [] (utf8 "using " ++ name ++ utf8 ";"))
          (w'.usingLine name) := (h.writeLine hw _).remember _ _
      simpa only [List.flatMap_cons, List.foldl_cons, List.append_assoc] using ih hline
  simpa only [usingText, List.append_assoc] using hlines.blankLine hw

theorem adds_base (h : Adds w t w') (hw : w.Stands l i) (base : Text) :
    Adds w (t ++ baseText l i base)
      (if base.isEmpty then w' else w'.innerLine (utf8 ": " ++ base)) := by
  unfold baseText
  split
  · rwa [List.append_nil]
  · have hin := (h.stands hw).addIndent
    exact h.further (hin.adds.writeLine hin (utf8 ": " ++ base))

theorem declarationHead_class (settings : Settings σ) :
    declarationHead (if settings.isInternal then .isInternal else .isPublic) Modifiers.isPartial
      ++ utf8 "class " ++ settings.name = classHead settings := by
  unfold classHead
  cases settings.isInternal with
  | true => rfl
  | false => rfl

/-- The opening of a class with its members and its end. -/
theorem adds_class (h : Adds w t w') (hw : w.Stands l i) (settings : Settings σ) (body : Text) :
    let opened := w'.classType settings.name settings.inherits
      (if settings.isInternal then .isInternal else .isPublic) Modifiers.isPartial
    Adds w (t ++ classText l i settings (body ++ l.newline))
      (opened.2.close ((opened.1.rawWrite body).rawWriteLine [])).1 := by
  have hbase := adds_base (h.writeLine hw (classHead settings)) hw settings.inherits
  have hin := (hbase.stands hw).openBrace
  have hall := hbase.braces hw (hin.adds.rawLines hin body)
  simp only [Writer.classType, declarationHead_class]
  simp only [classText, List.append_assoc, List.nil_append] at hall ⊢
  exact hall

theorem stands_ofLayout (l : Layout) : (Writer.ofLayout l).Stands l [] := ⟨rfl, rfl, rfl, rfl⟩

/-- The unit without attributes is its text around the members, which lose the line ends behind them
and get one back. -/
theorem compose_eq (l : Layout) (settings : Settings σ) (members : Text) :
    compose l settings (settings.imports.add requiredImports).values [] members =
      unitText l settings
        (Text.dropEndWhile (fun b => b == 0x0D || b == 0x0A) members ++ l.newline) := by
  have hw := stands_ofLayout l
  have husings := adds_usings hw.adds hw (settings.imports.add requiredImports).values
  unfold compose unitText
  dsimp only
  cases settings.fileScoped with
  | true =>
    have hspace := (husings.writeLine hw
      (utf8 "namespace " ++ settings.namespaceName ++ utf8 ";")).blankLine hw
    have hall := adds_class hspace hw settings
      (Text.dropEndWhile (fun b => b == 0x0D || b == 0x0A) members)
    have hout := hall.out
    simp only [List.append_assoc, List.nil_append] at hout ⊢
    exact hout
  | false =>
    have hspace := husings.writeLine hw (utf8 "namespace " ++ settings.namespaceName)
    have hin := (hspace.stands hw).openBrace
    have hclass := adds_class hin.adds hin settings
      (Text.dropEndWhile (fun b => b == 0x0D || b == 0x0A) members)
    have hout := (hspace.braces hw hclass).out
    simp only [branchText, List.append_assoc, List.nil_append] at hout ⊢
    exact hout

/-! ## The whole -/

/-- Without processors nothing is written for them, and no directive may wait for one. -/
theorem processorMembers_eq {settings : Settings σ} (h : settings.processors = [])
    (template : Template) (parameters : Option ParameterValues) (st : State σ) :
    processorMembers template settings parameters st = (st, none) ∨
      ∃ e, processorMembers template settings parameters st = (st, some e) := by
  unfold processorMembers
  rw [h]
  cases hc : settings.custom with
  | nil => exact .inl rfl
  | cons d ds => exact .inr ⟨_, rfl⟩

theorem members_stand (l : Layout) (settings : Settings σ) :
    (membersWriter l settings.fileScoped).Stands l (memberIndent l settings) :=
  ⟨rfl, rfl, rfl, rfl⟩

/-- What ends with a part in braces ends with a brace and a line end. -/
theorem branchText_eq (l : Layout) (i head body : Text) :
    ∃ u, branchText l i head body = u ++ [0x7D] ++ l.newline := by
  have hbrace : l.line i (utf8 "\x7d") = i ++ [0x7D] ++ l.newline :=
    Writer.line_of_not_mem (by decide) (by decide) l i
  refine ⟨l.line i head ++ l.line i (utf8 "\x7b") ++ body ++ i, ?_⟩
  rw [branchText, hbrace]
  simp only [List.append_assoc]

/-- Behind the formatter stand line ends only: they are dropped but for one. -/
theorem dropEndWhile_formatterText {l : Layout} (i : Text)
    (hnewline : ∀ b ∈ l.newline, (b == 0x0D || b == 0x0A) = true) (s : Text) :
    Text.dropEndWhile (fun b => b == 0x0D || b == 0x0A) (s ++ (formatterText l i ++ l.newline))
      ++ l.newline = s ++ formatterText l i := by
  obtain ⟨u, hu⟩ := branchText_eq l i (utf8 "private string FormatObject(object value)")
    (formatterBody l (i ++ l.unit))
  obtain ⟨x, hx⟩ : ∃ x, s ++ formatterText l i = x ++ [0x7D] ++ l.newline := by
    rw [formatterText, hu, ← List.append_assoc, ← List.append_assoc, ← List.append_assoc]
    exact ⟨_, rfl⟩
  have hends : ∀ b ∈ l.newline ++ l.newline, (b == 0x0D || b == 0x0A) = true := by
    intro b hb
    rcases List.mem_append.1 hb with hb | hb
    · exact hnewline b hb
    · exact hnewline b hb
  rw [← List.append_assoc, hx, List.append_assoc (x ++ [0x7D]),
    Text.dropEndWhile_append x (by decide) hends]

/-- The base directory of `#line` directives is all a run changes in its layout. -/
theorem runLayout_eq (layout : Layout) (root : Text) (settings : Settings σ) :
    (runLayout layout root settings).unit = layout.unit ∧
      (runLayout layout root settings).newline = layout.newline := by
  unfold runLayout
  split
  · exact ⟨rfl, rfl⟩
  · exact ⟨rfl, rfl⟩

section Plain

variable {l : Layout} (hunit : l.unit.all (fun b => b == 0x20 || b == 0x09) = true)
  (hnewline : l.newline ∈ [utf8 "\n", utf8 "\r\n", utf8 "\r"])

include hnewline

theorem newline_ends : ∀ b ∈ l.newline, (b == 0x0D || b == 0x0A) = true := by
  rw [← List.all_eq_true]
  simp only [List.mem_cons, List.not_mem_nil, or_false] at hnewline
  rcases hnewline with h | h | h
  · rw [h]
    rfl
  · rw [h]
    rfl
  · rw [h]
    rfl

include hunit

/-- Everything between the tokens of a statement is white space. -/
theorem isSpace_layout (settings : Settings σ) :
    ∀ b ∈ l.newline ++ (memberIndent l settings ++ l.unit) ++ l.unit, isSpace b = true := by
  intro b hb
  have hi : b ∈ memberIndent l settings → b ∈ l.unit := by
    unfold memberIndent
    split
    · exact id
    · exact fun h => (List.mem_append.1 h).elim id id
  have hcases : b ∈ l.newline ∨ b ∈ l.unit := by
    simp only [List.mem_append] at hb
    rcases hb with (hb | hb | hb) | hb
    · exact .inl hb
    · exact .inr (hi hb)
    · exact .inr hb
    · exact .inr hb
  rcases hcases with hb | hb
  · have hend := newline_ends hnewline b hb
    rw [Bool.or_eq_true, beq_iff_eq, beq_iff_eq] at hend
    rcases hend with rfl | rfl <;> rfl
  · have hblank := List.all_eq_true.1 hunit b hb
    rw [Bool.or_eq_true, beq_iff_eq, beq_iff_eq] at hblank
    rcases hblank with rfl | rfl <;> rfl

end Plain

end Output

open Output in
/-- **The generated class renders the template.** Whatever its pieces hold, the text is the fixed
one around an emission for each piece that is no helper and a block for each helper with a text, in
their order. The value of a content's argument is the content whenever the content is quotable, and
only then. -/
theorem generate_renders {σ : Type} {layout : Layout}
    (hunit : layout.unit.all (fun b => b == 0x20 || b == 0x09) = true)
    (hnewline : layout.newline ∈ [utf8 "\n", utf8 "\r\n", utf8 "\r"])
    {template : Template} {settings : Settings σ} (hprocessors : settings.processors = [])
    {parameters : Option ParameterValues} {diagnostics : Diagnostics} {world : σ} {text : Text}
    (h : (generate layout template settings parameters diagnostics world).result = .ok text) :
    let l := runLayout layout template.root settings
    let i := memberIndent l settings
    ∃ emissions blocks : List Text,
      List.Forall₂ (Emits settings.lineMode l template.root (i ++ l.unit))
        (statements template.pieces) emissions ∧
      List.Forall₂ (Helps settings.lineMode l template.root i) (helpers template.pieces) blocks ∧
      text = unitText l settings
        (firstText l i
          ++ methodText l i (emissions.flatten
            ++ endMapping l (settings.lineMode ≠ .off ∧ statements template.pieces ≠ []))
          ++ blocks.flatten ++ formatterText l i) := by
  intro l i
  obtain ⟨hlu, hln⟩ := runLayout_eq layout template.root settings
  have hnewline : l.newline ∈ [utf8 "\n", utf8 "\r\n", utf8 "\r"] := by rwa [hln]
  have hblank := isSpace_layout (by rwa [hlu]) hnewline settings
  have hw := members_stand l settings
  have hfirst := adds_firstMembers hw
  unfold generate at h
  dsimp only at h
  rcases processorMembers_eq hprocessors template parameters
    ⟨firstMembers (membersWriter l settings.fileScoped), diagnostics, settings.imports,
      settings.references, world⟩ with hst | ⟨e, hst⟩
  · rw [hst] at h
    dsimp only at h
    split at h
    · cases h
    · next v hv =>
      obtain ⟨emissions, hemissions, hmethod⟩ := emits_transformMethod hblank hfirst hw hv
      obtain ⟨blocks, hblocks, hhelpers⟩ := helps_foldl hmethod hw settings.lineMode template.root
        (helpers template.pieces)
      have hout := (hhelpers.trans (adds_formatter (hhelpers.stands hw))).out
      refine ⟨emissions, blocks, hemissions, hblocks, ?_⟩
      dsimp only at h
      split at h
      · cases h
      · cases h
        rw [hprocessors]
        change compose l settings (settings.imports.add requiredImports).values [] _ = _
        rw [compose_eq, hout]
        have hempty : (membersWriter l settings.fileScoped).out = [] := rfl
        rw [hempty, List.nil_append, dropEndWhile_formatterText i (newline_ends hnewline)]
  · rw [hst] at h
    cases h

/-- A template with a piece of each kind. -/
def sampleTemplate : Template :=
  .ofSegments (utf8 "t.tt") [] ([(.content, utf8 "Hello \"you\",\n"), (.expression, utf8 " Name "),
    (.block, utf8 "if (More)\n  Next();\n"), (.helper, utf8 "bool More;")].map fun (kind, text) =>
      .piece ⟨kind, text, .point (.start (utf8 "t.tt"))⟩)

/-- The settings of a template without directives. -/
def sampleSettings : Settings Unit :=
  (Settings.initial ⟨fun _ => none, none, [], [], .root, utf8 ".cs", []⟩ .utf8).named

open Output in
theorem generate_renders_sample :
    let l := runLayout .standard sampleTemplate.root sampleSettings
    let i := memberIndent l sampleSettings
    ∃ text, (generate .standard sampleTemplate sampleSettings none [] ()).result = .ok text ∧
      ∃ emissions blocks : List Text,
        List.Forall₂ (Emits sampleSettings.lineMode l sampleTemplate.root (i ++ l.unit))
          (statements sampleTemplate.pieces) emissions ∧
        List.Forall₂ (Helps sampleSettings.lineMode l sampleTemplate.root i)
          (helpers sampleTemplate.pieces) blocks ∧
        text = unitText l sampleSettings
          (firstText l i
            ++ methodText l i (emissions.flatten ++ endMapping l
              (sampleSettings.lineMode ≠ .off ∧ statements sampleTemplate.pieces ≠ []))
            ++ blocks.flatten ++ formatterText l i) := by
  intro l i
  obtain ⟨text, h⟩ :
      ∃ text, (generate .standard sampleTemplate sampleSettings none [] ()).result = .ok text :=
    ⟨_, rfl⟩
  exact ⟨text, h, generate_renders rfl (by decide) rfl h⟩

end TextTemplate
