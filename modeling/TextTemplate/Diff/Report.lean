/-
Reports of differences. The lines of what was got and what was wanted are compared; each line comes
with a mark for added, removed or kept, under a heading that explains the marks. Carriage returns
and tabs of texts are shown as `\r` and `\t`, so that line endings can be told apart. Two lists of
diagnostics are compared as they are printed, a field on a line.
-/
import TextTemplate.Diagnostic
import TextTemplate.Diff.Script
import TextTemplate.Text.Quoted

namespace TextTemplate.Diff

/-- One step of a script as a marked line. -/
def Edit.render : Edit → Text
  | keep line => utf8 " " ++ line ++ utf8 "\n"
  | add line => utf8 "+" ++ line ++ utf8 "\n"
  | remove line => utf8 "-" ++ line ++ utf8 "\n"

/-- The marked lines that lead from the old text to the new, empty when the two are equal. -/
def lines (old new : Text) : Text :=
  let script := shortest (Text.pieces 0x0A old) (Text.pieces 0x0A new)
  if script.all fun e => e matches .keep _ then []
  else Text.dropEndWhile (· == 0x0A) (script.flatMap Edit.render)

/-- The heading over marked lines. -/
def heading : Text :=
  utf8 "\n\nto convert ACTUAL ⏩️ EXPECTED:\n\nadd:    ➕\nremove: ➖\n\n"

/-- Marked lines under their heading, with clearer marks; nothing when there are none. -/
def report (marked : Text) : Text :=
  if marked.isEmpty then []
  else
    heading ++ Text.replace (utf8 "\n+") (utf8 "\n➕") (Text.replace (utf8 "\n-") (utf8 "\n➖") marked)

/-- The text with its carriage returns and tabs spelled out. -/
def visible (s : Text) : Text :=
  s.flatMap fun b => if b = 0x0D then utf8 "\\r" else if b = 0x09 then utf8 "\\t" else [b]

/-- A report of two texts by a line comparison of one's own; nothing when they are equal. -/
def textsBy (compare : (old new : Text) → Text) (want got : Text) : Text :=
  if want = got then [] else report (compare (visible got) (visible want))

/-- A report of two texts, nothing when they are equal. -/
def texts (want got : Text) : Text := textsBy lines want got

/-! ## Diagnostics -/

/-- A diagnostic with a field on a line. -/
def printDiagnostic (d : Diagnostic) : Text :=
  let bool (b : Bool) := if b then utf8 "true" else utf8 "false"
  utf8 "  diagnostic.Error\x7b\n"
    ++ utf8 "    File:      " ++ Text.quoted d.file ++ utf8 ",\n"
    ++ utf8 "    Line:      " ++ Text.ofInt d.line.toInt ++ utf8 ",\n"
    ++ utf8 "    Column:    " ++ Text.ofInt d.column.toInt ++ utf8 ",\n"
    ++ utf8 "    Code:      " ++ Text.quoted d.code ++ utf8 ",\n"
    ++ utf8 "    Text:      " ++ Text.quoted d.text ++ utf8 ",\n"
    ++ utf8 "    IsWarning: " ++ bool d.isWarning ++ utf8 ",\n"
    ++ utf8 "  \x7d,\n"

def printDiagnostics (ds : Diagnostics) : Text :=
  if ds.isEmpty then utf8 "[]diagnostic.Error\x7b\x7d"
  else utf8 "[]diagnostic.Error\x7b\n" ++ ds.flatMap printDiagnostic ++ utf8 "\x7d"

/-- A report of two lists of diagnostics, nothing when they print the same. -/
def diagnostics (want got : Diagnostics) : Text :=
  report (lines (printDiagnostics got) (printDiagnostics want))

end TextTemplate.Diff
