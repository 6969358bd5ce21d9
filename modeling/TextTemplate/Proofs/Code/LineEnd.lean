/-
The end of the line: when the writer is right about whether its text ends one.

The writer keeps a flag beside its text, and the indent of the next text and the place of a `#line`
directive are decided by the flag alone. An edit that writes a text sets the flag from the last byte
of it, and the end of a line is the layout's newline, so both stay the same thing (`Edit.truthful`).
Only blank lines set the flag whatever they write: none or fewer say that a line has ended where
none need have (`truthful_blankLine`). A run without such a call is right throughout, and then every
directive stands at the start of a line (`lineEnd_truthful`).
-/
import TextTemplate.Proofs.Code.Chunks
import TextTemplate.Proofs.Code.Runs

namespace TextTemplate
namespace Writer

/-- The writer takes its line for ended exactly if its text ends in a line feed; without text it does
not. -/
def Truthful (w : Writer) : Prop := w.endsLine = endsWithLF w.out

/-- A count of blank lines that is at least one, or that is asked for where a line has ended. -/
def EndsLineWith (n : Int) (w : Writer) : Prop := 0 < n ∨ endsWithLF w.out = true

variable {allowed : Int → Writer → Prop} {w w' : Writer}

theorem truthful_rawWrite (w : Writer) {s : Text} (hs : s ≠ []) : (w.rawWrite s).Truthful := by
  have hne : s.isEmpty = false := by simpa using hs
  simp [Truthful, rawWrite, hne, endsWithLF_append w.out hs]

theorem ne_nil_of_endsWithLF {s : Text} (hs : endsWithLF s = true) : s ≠ [] := by
  rintro rfl
  simp [endsWithLF] at hs

/-- Blank lines leave the writer right exactly if there is one, or if a line had ended. -/
theorem truthful_blankLine (hnewline : endsWithLF w.layout.newline = true) (n : Int) :
    (w.blankLine n).Truthful ↔ EndsLineWith n w := by
  by_cases hn : 0 < n
  · obtain ⟨k, hk⟩ : ∃ k, n.toNat = k + 1 := ⟨n.toNat - 1, by omega⟩
    have hlines : (List.replicate n.toNat w.layout.newline).flatten =
        (List.replicate k w.layout.newline).flatten ++ w.layout.newline := by
      rw [hk, List.replicate_succ', List.flatten_concat]
    simp [Truthful, blankLine, EndsLineWith, hn, hlines, ← List.append_assoc,
      endsWithLF_append _ (ne_nil_of_endsWithLF hnewline), hnewline]
  · have hnone : n.toNat = 0 := by omega
    have hflag : (w.blankLine n).Truthful ↔ true = endsWithLF w.out := by
      simp [Truthful, blankLine, hnone]
    rw [hflag, EndsLineWith, or_iff_right hn]
    exact eq_comm

theorem Edit.layout (h : Edit allowed w w') : w'.layout = w.layout := by
  cases h with
  | write s =>
    by_cases hs : s = []
    · subst hs
      rfl
    · rw [write_eq w hs]
  | rawWrite s =>
    unfold Writer.rawWrite
    split <;> rfl
  | writeLiteral s =>
    unfold Writer.writeLiteral Writer.rawWrite beginLine
    split_ifs <;> rfl
  | popIndent =>
    unfold Writer.popIndent
    split <;> rfl
  | _ => rfl

theorem Edits.layout (h : Edits allowed w w') : w'.layout = w.layout := by
  induction h with
  | refl => rfl
  | tail _ hedit ih => exact hedit.layout.trans ih

/-- **One edit** keeps the writer right, blank lines with their condition. -/
theorem Edit.truthful (h : Edit EndsLineWith w w') (hw : w.Truthful)
    (hnewline : endsWithLF w.layout.newline = true) : w'.Truthful := by
  cases h with
  | write s =>
    by_cases hs : s = []
    · subst hs
      exact hw
    · rw [write_eq w hs]
      simp only [Truthful]
      rw [endsWithLF_append _ (indented_ne_nil hs _), endsWithLF_indented hs]
  | rawWrite s =>
    by_cases hs : s = []
    · subst hs
      exact hw
    · exact truthful_rawWrite w hs
  | writeLiteral s =>
    by_cases hs : s = []
    · subst hs
      exact hw
    · have hne : s.isEmpty = false := by simpa using hs
      have heq : w.writeLiteral s = w.beginLine.rawWrite s := by simp [Writer.writeLiteral, hne]
      rw [heq]
      exact truthful_rawWrite _ hs
  | endLine =>
    simp only [Truthful, Writer.endLine]
    rw [endsWithLF_append _ (ne_nil_of_endsWithLF hnewline), hnewline]
  | blankLine h => exact (truthful_blankLine hnewline _).2 h
  | popIndent =>
    unfold Writer.popIndent
    split
    · exact hw
    · exact hw
  | reset => rfl
  | pushIndent | clearIndent | remember => exact hw

theorem Edits.truthful (h : Edits EndsLineWith w w') (hw : w.Truthful)
    (hnewline : endsWithLF w.layout.newline = true) : w'.Truthful := by
  induction h with
  | refl => exact hw
  | tail hedits hedit ih =>
    refine hedit.truthful ih ?_
    rw [Edits.layout hedits]
    exact hnewline

/-- From the first writer the second comes by a line with the text, after the end of the line that is
open, if one is. -/
def AddsAtLine (w : Writer) (d : Text) (w' : Writer) : Prop :=
  ∃ before, (before = w.out ∨ before = w.out ++ w.layout.newline) ∧
    (before = [] ∨ endsWithLF before = true) ∧ w'.out = before ++ d ++ w.layout.newline

/-- Where the writer is right, a line that is made sure to start one does. -/
theorem addsAtLine (hw : w.Truthful) (hnewline : endsWithLF w.layout.newline = true)
    (last : Option (Int64 × Text)) (d : Text) :
    w.AddsAtLine d ({ w with lastLine := last }.ensureNewline.rawWriteLine d) := by
  by_cases hopen : (!w.out.isEmpty && !w.endsLine) = true
  · refine ⟨w.out ++ w.layout.newline, .inr rfl, .inr ?_, ?_⟩
    · rw [endsWithLF_append _ (ne_nil_of_endsWithLF hnewline), hnewline]
    · simp [ensureNewline, hopen, rawWriteLine, endLine]
  · refine ⟨w.out, .inl rfl, ?_, ?_⟩
    · rw [← hw]
      simpa [or_iff_not_imp_left] using hopen
    · simp [ensureNewline, hopen, rawWriteLine, endLine]

end Writer

namespace CodeOp

open Writer (EndsLineWith AddsAtLine endsWithLF)

/-- The `#line` directive that an operation writes; one that is in force is not written again. -/
def directive? (w : Writer) : CodeOp → Option Text
  | .linePragma line file =>
    let file := w.layout.lineFile (if file.isEmpty then w.lineFile else file)
    if w.lastLine = some (line, file) then none else some (Writer.lineDirective line file)
  | .lineDefault => some (utf8 "#line default")
  | .lineHidden => some (utf8 "#line hidden")
  | _ => none

variable {o : CodeOp} {ops : List CodeOp} {s t : Session} {d : Text}

theorem addsAtLine_run (ho : o.directive? t.writer = some d) (ht : t.writer.Truthful)
    (hnewline : endsWithLF t.writer.layout.newline = true) :
    t.writer.AddsAtLine d (o.run t).1.writer := by
  cases o with
  | linePragma line file =>
    generalize hname : t.writer.layout.lineFile
      (if file.isEmpty then t.writer.lineFile else file) = name
    simp only [directive?, hname] at ho
    by_cases hforce : t.writer.lastLine = some (line, name)
    · rw [if_pos hforce] at ho
      cases ho
    · rw [if_neg hforce] at ho
      cases ho
      simp only [run, written, Writer.linePragma, hname, if_neg hforce]
      exact Writer.addsAtLine ht hnewline _ _
  | lineDefault | lineHidden =>
    cases ho
    exact Writer.addsAtLine ht hnewline none _
  | _ => cases ho

/-- **The end of the line, in every run.** The writer is right about the end of its text after each
operation that is called, on it or on a writer nested in it, exactly if no call asks for no blank
lines, or fewer, where no line has ended. Then it is right when the run is over, and each `#line`
directive that was written stands at the start of a line. -/
theorem lineEnd_truthful (ops : List CodeOp) (s : Session)
    (hnewline : endsWithLF s.writer.layout.newline = true) (hs : s.writer.Truthful) :
    (BlanksAllowed EndsLineWith (RunCalls false ops s) ↔
        ∀ o t, RunCalls false ops s o t → (o.run t).1.writer.Truthful) ∧
      (BlanksAllowed EndsLineWith (RunCalls false ops s) →
        (runSteps ops s).1.writer.Truthful ∧
          ∀ o t d, RunCalls false ops s o t → o.directive? t.writer = some d →
            t.writer.AddsAtLine d (o.run t).1.writer) := by
  have hlayout {o t} (ho : RunCalls false ops s o t) :
      endsWithLF t.writer.layout.newline = true := by
    have hedits : Writer.Edits (fun _ _ => True) s.writer t.writer :=
      ho.edits fun _ _ _ => trivial
    rw [hedits.layout]
    exact hnewline
  refine ⟨⟨fun hblank o t ho => ?_, fun htruth n t ho => ?_⟩, fun hblank => ⟨?_, ?_⟩⟩
  · have hbefore := (ho.edits hblank).truthful hs hnewline
    have hrun := moves_run o t fun n u hu => hblank n u (ho.trans hu)
    exact hrun.edits.truthful hbefore (hlayout ho)
  · exact (Writer.truthful_blankLine (hlayout ho) n).1 (htruth _ t ho)
  · exact ((moves_cases.ops ops s).2 hblank).edits.truthful hs hnewline
  · intro o t d ho hd
    exact addsAtLine_run hd ((ho.edits hblank).truthful hs hnewline) (hlayout ho)

/-- A directive behind a text without a line end, and behind a blank line. -/
theorem lineEnd_truthful_sample :
    let ops : List CodeOp := [.write (utf8 "a"), .lineHidden, .blankLine 1, .lineDefault]
    let s := Session.ofWriter (.ofLayout .standard)
    endsWithLF s.writer.layout.newline = true ∧ s.writer.Truthful ∧
      BlanksAllowed EndsLineWith (RunCalls false ops s) ∧ (runSteps ops s).1.writer.Truthful ∧
      (runSteps ops s).1.writer.out = utf8 "a\n#line hidden\n\n#line default\n" := by
  have hblank : BlanksAllowed EndsLineWith
      (RunCalls false [.write (utf8 "a"), .lineHidden, .blankLine 1, .lineDefault]
        (Session.ofWriter (.ofLayout .standard))) := by
    intro n t ho
    simp only [runCalls_cons, not_runCalls_nil, or_false] at ho
    rcases ho with ho | ho | ho | ho
    all_goals cases (ho.of_plain trivial).1
    exact .inl Int.one_pos
  have hs : (Session.ofWriter (.ofLayout .standard)).writer.Truthful := rfl
  exact ⟨rfl, hs, hblank, ((lineEnd_truthful _ _ rfl hs).2 hblank).1, by decide +kernel⟩

/-- No blank lines behind an open line: the writer takes the line for ended, and the directive that
follows is written into it. -/
theorem lineDefault_inside_line :
    let s := (runSteps [.write (utf8 "a"), .blankLine 0]
      (.ofWriter (.ofLayout .standard))).1
    s.writer.endsLine = true ∧ endsWithLF s.writer.out = false ∧
      s.writer.lineDefault.out = utf8 "a#line default\n" := by
  decide +kernel

end CodeOp
end TextTemplate
