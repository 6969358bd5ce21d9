/-
Initial values: what becomes of a parameter's value in the property that is written for it.

The value is quoted at the writer's indent, and the literal is then written like any text, with the
indent behind each of its line feeds. A line of a chain of literals holds no line feed of its own, so
the literal comes out as the one for a newline and an indent that are re-indented themselves
(`behindFeeds_ofClusters`). Both are blank, so it is an expression for the same text
(`process_initial_value`). Values that are not UTF-8 can be torn apart between clusters inside a
line end; `Text.isEscapable` says that this does not happen.
-/
import TextTemplate.Host.Parameters
import TextTemplate.Processor.Parameter
import TextTemplate.Proofs.Code.Chunks
import TextTemplate.Proofs.Code.LiteralForm

namespace TextTemplate

open StringExpression

/-! ## Escapable texts -/

/-- Whether no line end beyond ASCII is torn apart in the regular literal of a text. -/
def Text.isEscapable (s : Text) : Bool := !(Literal.linesOf s.units s.clusters).any Literal.torn

/-- Every UTF-8 text is escapable. -/
theorem Text.isEscapable_of_isUtf8 {s : Text} (h : s.isUtf8 = true) : s.isEscapable = true := by
  rw [isEscapable, Literal.torn_linesOf s.units (cutsInto_clusters h)]
  rfl

/-- The bytes of a text that is not UTF-8: the first three are one cluster, which ends inside
U+0085. -/
example : Text.isEscapable [0xE2, 0x9B, 0xC2, 0x85] = false := by decide +kernel

/-! ## Literals behind an indent -/

/-- Blank text stays blank with a blank indent behind its line feeds. -/
theorem Text.isBlank_behindFeeds {indent s : Text} (hindent : indent.isBlank = true)
    (hs : s.isBlank = true) : (behindFeeds indent s).isBlank = true := by
  induction s using lines_induction with
  | last s hlf => rwa [Writer.behindFeeds_of_not_mem hlf]
  | line u v hlf ih =>
    rw [isBlank_line, Bool.and_eq_true] at hs
    have hline : behindFeeds indent (u ++ 0x0A :: v) =
        u ++ 0x0A :: (indent ++ behindFeeds indent v) := by
      rw [Writer.behindFeeds_append, Writer.behindFeeds_of_not_mem hlf]
      simp [behindFeeds]
    rw [hline, isBlank_line, isBlank_append_of_isBlank hindent, hs.1, ih hs.2]
    rfl

namespace Literal

/-- **A literal that is written at an indent** is the literal for the newline and the indent as they
are written. -/
theorem behindFeeds_ofClusters (indent newline inner : Text) (total : Nat) (cs : List Text) :
    Text.behindFeeds indent (ofClusters newline inner total cs).text =
      (ofClusters (Text.behindFeeds indent newline) (Text.behindFeeds indent inner) total
        cs).text := by
  have hquote (line : List Text) : Text.behindFeeds indent (quoteLine line) = quoteLine line :=
    Writer.behindFeeds_of_not_mem (break_not_mem_quoteLine (.inr rfl) line) indent
  have hmore (lines : List (List Text)) : Text.behindFeeds indent (moreLines newline inner lines) =
      moreLines (Text.behindFeeds indent newline) (Text.behindFeeds indent inner) lines := by
    induction lines with
    | nil => rfl
    | cons line lines ih =>
      have hplus : Text.behindFeeds indent (utf8 " +") = utf8 " +" :=
        Writer.behindFeeds_of_not_mem (by decide) indent
      rw [moreLines, List.flatMap_cons, ← moreLines]
      simp only [Writer.behindFeeds_append, hplus, hquote, ih]
      rw [moreLines, moreLines, List.flatMap_cons]
  have hopen : Text.behindFeeds indent (utf8 "(") = utf8 "(" :=
    Writer.behindFeeds_of_not_mem (by decide) indent
  have hclose : Text.behindFeeds indent (utf8 ")") = utf8 ")" :=
    Writer.behindFeeds_of_not_mem (by decide) indent
  rw [ofClusters_eq, ofClusters_eq]
  dsimp only
  split
  · simp only [Writer.behindFeeds_append, hquote, hmore]
  · simp only [Writer.behindFeeds_append, hquote, hmore, hopen, hclose]

end Literal

namespace Writer

variable {w : Writer}

/-- The regular literal of a text, as it stands in what the writer writes at a blank indent. -/
theorem expresses_written (hnewline : w.layout.newline.isBlank = true)
    (hindent : w.indent.isBlank = true) (s v : Text) :
    Expresses (Text.behindFeeds w.indent (w.quoteEscaped s).text) v ↔
      s.isEscapable = true ∧ v = s := by
  have hblank : (Text.behindFeeds w.indent w.layout.newline
      ++ Text.behindFeeds w.indent w.indent).isBlank = true := by
    rw [Text.isBlank_append_of_isBlank (Text.isBlank_behindFeeds hindent hnewline)]
    exact Text.isBlank_behindFeeds hindent hindent
  rw [quoteEscaped, quoteEscapedBy, Literal.behindFeeds_ofClusters,
    Literal.expresses_ofClusters_iff hblank, Text.flatten_clusters, Text.isEscapable]
  simp

/-- A line that is written at the start of one. -/
theorem writeLine_out (hline : w.AtLine) {s : Text} (hs : endsWithLF s = false) (hne : s ≠ []) :
    (w.writeLine s).out =
      w.out ++ (w.indent ++ Text.behindFeeds w.indent s ++ w.layout.newline) := by
  have hstart : (if (w.out.isEmpty || w.endsLine) = true then w.indent else []) = w.indent :=
    if_pos hline
  rw [writeLine, endLine, write_eq w hne, hstart, indented_eq hs]
  simp only [List.append_assoc]

end Writer

/-! ## Parameters -/

namespace ParameterProcessor

/-- The conversion of a text to a type, both as they stand in the output. -/
def converted (type expression : Text) : Text :=
  utf8 "(" ++ type ++ utf8 ")System.Convert.ChangeType(" ++ expression ++ utf8 ", typeof("
    ++ type ++ utf8 "), System.Globalization.CultureInfo.InvariantCulture)"

variable {w : Writer} {table : ParameterTable} {directive parameter value : Text}
  {attributes : Attributes}

/-- The initial value of a property, as it stands in what is written at an indent. -/
theorem behindFeeds_initialValue (w : Writer) (type value : Text) :
    Text.behindFeeds w.indent (initialValue w type value) =
      let expression := Text.behindFeeds w.indent (w.quoteEscaped value).text
      if type = utf8 "System.String" then expression
      else converted (Text.behindFeeds w.indent type) expression := by
  have hplain {s : Text} (hs : 0x0A ∉ s) := Writer.behindFeeds_of_not_mem hs w.indent
  unfold initialValue
  dsimp only
  split
  · rfl
  · simp only [converted, Writer.behindFeeds_append]
    rw [hplain (s := utf8 "(") (by decide),
      hplain (s := utf8 ")System.Convert.ChangeType(") (by decide +kernel),
      hplain (s := utf8 ", typeof(") (by decide),
      hplain (s := utf8 "), System.Globalization.CultureInfo.InvariantCulture)") (by decide +kernel)]

theorem quoteEscaped_ne_nil (w : Writer) (value : Text) : (w.quoteEscaped value).text ≠ [] := by
  rw [Writer.quoteEscaped, Writer.quoteEscapedBy, Literal.ofClusters_eq]
  dsimp only
  split
  · simp [Literal.quoteLine]
  · simp [Literal.quoteLine]

theorem initialValue_ne_nil (w : Writer) (type value : Text) : initialValue w type value ≠ [] := by
  unfold initialValue
  dsimp only
  split
  · exact quoteEscaped_ne_nil w value
  · simp [quoteEscaped_ne_nil]

/-- A public property with an initial value is one line. -/
theorem autoProperty_out (hline : w.AtLine) (type parameter : Text) {initial : Text}
    (h : initial ≠ []) :
    (w.autoProperty type parameter initial .isPublic .isPublic 0).out = w.out ++ (w.indent
      ++ Text.behindFeeds w.indent
        (utf8 "public " ++ type ++ utf8 " " ++ parameter ++ utf8 " \x7b get; set; \x7d")
      ++ utf8 " = " ++ Text.behindFeeds w.indent initial ++ utf8 ";" ++ w.layout.newline) := by
  have hsome : initial.isEmpty = false := List.isEmpty_eq_false_iff.2 h
  have hhead : declarationHead .isPublic 0 = utf8 "public " := by decide
  have haccessors : utf8 " \x7b get; " ++ utf8 "set; \x7d" = utf8 " \x7b get; set; \x7d" := rfl
  have hproperty : w.autoProperty type parameter initial .isPublic .isPublic 0 =
      w.writeLine (utf8 "public " ++ type ++ utf8 " " ++ parameter ++ utf8 " \x7b get; set; \x7d"
        ++ utf8 " = " ++ initial ++ utf8 ";") := by
    rw [Writer.autoProperty, hhead, hsome]
    simp [← haccessors]
  have hlast (s : Text) : Writer.endsWithLF (s ++ utf8 ";") = false := by
    rw [Writer.endsWithLF_append s (by decide)]
    rfl
  have hequals : Text.behindFeeds w.indent (utf8 " = ") = utf8 " = " :=
    Writer.behindFeeds_of_not_mem (by decide) _
  have hend : Text.behindFeeds w.indent (utf8 ";") = utf8 ";" :=
    Writer.behindFeeds_of_not_mem (by decide) _
  rw [hproperty, Writer.writeLine_out hline (hlast _)
    (List.append_ne_nil_of_right_ne_nil _ (by decide))]
  simp only [Writer.behindFeeds_append, hequals, hend, List.append_assoc]

/-- **A parameter's value is the initial value of its property.** At the start of a line, at a blank
indent and with a line break for a newline, a parameter directive whose value is found, under the
processor, the directive and the name or else under the name alone, becomes a property line. Its
initial value is the literal of the value, or the conversion of that to the type if the type is not a
string. As it stands in the output, the literal is an expression for the value and for no other text,
exactly if the value is escapable, which every UTF-8 value is. -/
theorem process_initial_value (hline : w.AtLine) (hindent : w.indent.isBlank = true)
    (hnewline : w.layout.newline ∈ Text.breaks)
    (hname : attributes.get? (utf8 "name") = some parameter) (hparameter : parameter ≠ [])
    (hvalue : (table.find? ⟨name, directive, parameter⟩).or (table.find? (.ofName parameter)) =
      some value) :
    let contribution := process (some table.lookup) w directive attributes
    let type := mapTypeName ((attributes.get? (utf8 "type")).getD [])
    let written := Text.behindFeeds w.indent
    let literal := written (w.quoteEscaped value).text
    contribution.error = none ∧ contribution.diagnostics = [] ∧
      contribution.writer.out = w.out ++ (w.indent
        ++ written (utf8 "public " ++ type ++ utf8 " " ++ parameter ++ utf8 " \x7b get; set; \x7d")
        ++ utf8 " = "
        ++ (if type = utf8 "System.String" then literal else converted (written type) literal)
        ++ utf8 ";" ++ w.layout.newline) ∧
      (∀ v, Expresses literal v ↔ value.isEscapable = true ∧ v = value) ∧
      (value.isUtf8 = true → value.isEscapable = true) := by
  have hlookup : table.lookup name directive parameter = some value := by
    rw [ParameterTable.lookup_eq]
    exact hvalue
  obtain ⟨b, rest, rfl⟩ := List.exists_cons_of_ne_nil hparameter
  intro contribution type written literal
  have hprocess : contribution = ⟨w.autoProperty type (b :: rest) (initialValue w type value)
      .isPublic .isPublic 0, [], none⟩ := by
    simp only [contribution, process, hname, Option.getD_some, Option.bind_some, hlookup, type]
  have hbreak : w.layout.newline.isBlank = true := by
    rcases Text.mem_breaks.1 hnewline with h | h | h
    all_goals
      rw [h]
      decide
  refine ⟨by rw [hprocess], by rw [hprocess], ?_, Writer.expresses_written hbreak hindent value,
    Text.isEscapable_of_isUtf8⟩
  rw [hprocess]
  dsimp only
  rw [autoProperty_out hline type _ (initialValue_ne_nil w type value), behindFeeds_initialValue]

/-- A value of two lines with a byte that is not UTF-8, at an indent of a tab and with CRLF for a
newline, so the second line stands behind two tabs. -/
theorem process_initial_value_wide :
    let w := Writer.tabbed
    let value := Writer.wideText
    let table : ParameterTable := [(.ofName (utf8 "x"), value)]
    let attributes := Attributes.ofList [(utf8 "Name", utf8 "x"), (utf8 "type", utf8 "string")]
    let contribution := process (some table.lookup) w (utf8 "parameter") attributes
    (w.AtLine ∧ w.indent.isBlank = true ∧ w.layout.newline ∈ Text.breaks ∧
      attributes.get? (utf8 "name") = some (utf8 "x") ∧ utf8 "x" ≠ [] ∧
      (table.find? ⟨name, utf8 "parameter", utf8 "x"⟩).or (table.find? (.ofName (utf8 "x"))) =
        some value) ∧
      contribution.error = none ∧
      ∃ literal, contribution.writer.out =
          utf8 "\tpublic System.String x \x7b get; set; \x7d = " ++ literal ++ utf8 ";\r\n" ∧
        ∀ v, Expresses literal v ↔ v = value := by
  have hline : Writer.tabbed.AtLine := rfl
  have hindent : Writer.tabbed.indent.isBlank = true := by decide
  have hnewline : Writer.tabbed.layout.newline ∈ Text.breaks := by decide +kernel
  have hname : (Attributes.ofList [(utf8 "Name", utf8 "x"), (utf8 "type", utf8 "string")]).get?
      (utf8 "name") = some (utf8 "x") := by decide +kernel
  have hparameter : utf8 "x" ≠ [] := by decide
  have htype : mapTypeName (((Attributes.ofList [(utf8 "Name", utf8 "x"),
      (utf8 "type", utf8 "string")]).get? (utf8 "type")).getD []) = utf8 "System.String" := by
    decide +kernel
  have hvalue : (ParameterTable.find? [(.ofName (utf8 "x"), Writer.wideText)]
      ⟨name, utf8 "parameter", utf8 "x"⟩).or (ParameterTable.find?
        [(.ofName (utf8 "x"), Writer.wideText)] (.ofName (utf8 "x"))) = some Writer.wideText := by
    decide +kernel
  have hescapable : Writer.wideText.isEscapable = true := by decide +kernel
  obtain ⟨herror, -, hout, hvalues, -⟩ :=
    process_initial_value hline hindent hnewline hname hparameter hvalue
  refine ⟨⟨hline, hindent, hnewline, hname, hparameter, hvalue⟩, herror,
    Text.behindFeeds Writer.tabbed.indent (Writer.tabbed.quoteEscaped Writer.wideText).text, ?_, ?_⟩
  · have hproperty : Text.behindFeeds Writer.tabbed.indent (utf8 "public " ++ utf8 "System.String"
        ++ utf8 " " ++ utf8 "x" ++ utf8 " \x7b get; set; \x7d") =
        utf8 "public System.String x \x7b get; set; \x7d" := by decide +kernel
    have hopening : Writer.tabbed.out ++ Writer.tabbed.indent
        ++ utf8 "public System.String x \x7b get; set; \x7d" ++ utf8 " = " =
        utf8 "\tpublic System.String x \x7b get; set; \x7d = " := by decide +kernel
    have hclosing : utf8 ";" ++ Writer.tabbed.layout.newline = utf8 ";\r\n" := by decide +kernel
    rw [htype, if_pos rfl, hproperty] at hout
    rw [hout, ← hopening, ← hclosing]
    simp only [List.append_assoc]
  · intro v
    rw [hvalues, hescapable]
    exact and_iff_right rfl

end ParameterProcessor
end TextTemplate
