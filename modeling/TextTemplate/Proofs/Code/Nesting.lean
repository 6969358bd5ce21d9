/-
Nesting: programs whose scopes are closed where they end leave the indent as they found it, and what
they write stands at it.

`WellNested` is the grammar of the programs; the numbers of the open scopes and of all scopes so far
go along with it. Such a program runs through and is a row of balanced edits (`WellNested.leads`). A
scope that is closed once more than needed is one that is not open, and stays as it is.

Every line that balanced edits write stands at the indent of the start or is blank
(`Balanced.within`). A text is followed byte by byte for it, since it may end lines and leave one
open.
-/
import TextTemplate.Proofs.Code.Runs
import TextTemplate.Proofs.Text.Lines

namespace TextTemplate

theorem Text.pieces_lines {sep : UInt8} {lines : List Text} (hlines : ∀ line ∈ lines, sep ∉ line)
    {rest : Text} (hrest : sep ∉ rest) :
    pieces sep (lines.flatMap (· ++ [sep]) ++ rest) = lines ++ [rest] := by
  induction lines with
  | nil => exact pieces_of_not_mem hrest
  | cons line lines ih =>
    rw [List.flatMap_cons, List.append_assoc, List.append_assoc, List.singleton_append,
      pieces_append_cons (hlines line List.mem_cons_self),
      ih fun l hl => hlines l (List.mem_cons_of_mem line hl), List.cons_append]

/-! ## Lines at an indent -/

namespace Writer

variable {w v : Writer}

/-- What a writer added to a text is made of lines that stand at an indent or are blank; the line
that is open stands at it. -/
structure Within (i base : Text) (w : Writer) : Prop where
  newline : w.layout.newline = [0x0A] ∨ w.layout.newline = [0x0D, 0x0A]
  unit : 0x0A ∉ w.layout.unit
  oneLine : 0x0A ∉ w.indent
  indent : i <+: w.indent
  lines : ∃ (lines : List Text) (rest : Text),
    w.out = base ++ (lines.flatMap (· ++ [0x0A]) ++ rest) ∧
    (∀ line ∈ lines, 0x0A ∉ line ∧ (line.isBlank = true ∨ i <+: line)) ∧ 0x0A ∉ rest ∧
    (w.AtLine → rest = []) ∧ (¬w.AtLine → i <+: rest)

namespace Within

variable {i base : Text}

theorem write_byte (h : Within i base w) (b : UInt8) : Within i base (w.write [b]) := by
  obtain ⟨lines, rest, hout, hlines, hrest, hstart, hopen⟩ := h.lines
  -- the line the byte comes to, with the indent if it starts one
  obtain ⟨line, hline, hi, hlf⟩ : ∃ line,
      w.out ++ (if (w.out.isEmpty || w.endsLine) = true then w.indent else []) =
        base ++ (lines.flatMap (· ++ [0x0A]) ++ line) ∧ i <+: line ∧ 0x0A ∉ line := by
    by_cases hat : (w.out.isEmpty || w.endsLine) = true
    · refine ⟨w.indent, ?_, h.indent, h.oneLine⟩
      rw [if_pos hat, hout, hstart hat]
      simp
    · refine ⟨rest, ?_, hopen hat, hrest⟩
      rw [if_neg hat, List.append_nil]
      exact hout
  have hbyte : indented w.indent [b] = [b] := indented_concat w.indent [] b
  rw [write_eq w (List.cons_ne_nil b []), hbyte, hline]
  refine ⟨h.newline, h.unit, h.oneLine, h.indent, ?_⟩
  by_cases hb : b = 0x0A
  · subst hb
    refine ⟨lines ++ [line], [], ?_, ?_, List.not_mem_nil, fun _ => rfl, fun hat => ?_⟩
    · simp
    · intro l hl
      rcases List.mem_append.1 hl with hl | hl
      · exact hlines l hl
      · obtain rfl := List.mem_singleton.1 hl
        exact ⟨hlf, .inr hi⟩
    · exact absurd (by simp [AtLine, endsWithLF]) hat
  · refine ⟨lines, line ++ [b], ?_, hlines, ?_, fun hat => ?_, fun _ => ?_⟩
    · simp
    · simp [hlf, Ne.symm hb]
    · simp [AtLine, endsWithLF, hb] at hat
    · exact hi.trans (List.prefix_append line [b])

/-- A text is written like its bytes, one after the other. -/
theorem write (h : Within i base w) (s : Text) : Within i base (w.write s) := by
  have hbytes : s = (s.map fun b => [b]).flatten := by simp [← List.flatMap_def]
  rw [hbytes, ← foldl_write]
  generalize s = bytes
  induction bytes generalizing w with
  | nil => exact h
  | cons b bytes ih => exact ih (h.write_byte b)

theorem endLine (h : Within i base w) : Within i base w.endLine := by
  obtain ⟨lines, rest, hout, hlines, hrest, hstart, hopen⟩ := h.lines
  refine ⟨h.newline, h.unit, h.oneLine, h.indent, ?_⟩
  -- behind a line that is open nothing but the carriage return of the newline is blank
  obtain ⟨cr, hcr, hblank, hlf⟩ : ∃ cr, w.layout.newline = cr ++ [0x0A] ∧
      Text.isBlank cr = true ∧ 0x0A ∉ cr := by
    rcases h.newline with hnewline | hnewline
    · exact ⟨[], hnewline, rfl, by decide⟩
    · exact ⟨[0x0D], hnewline, by decide, by decide⟩
  have hline : (rest ++ cr).isBlank = true ∨ i <+: rest ++ cr := by
    by_cases hat : w.AtLine
    · rw [hstart hat]
      exact .inl hblank
    · exact .inr ((hopen hat).trans (List.prefix_append rest cr))
  refine ⟨lines ++ [rest ++ cr], [], ?_, ?_, List.not_mem_nil, fun _ => rfl, fun hat => ?_⟩
  · simp [Writer.endLine, hout, hcr]
  · intro l hl
    rcases List.mem_append.1 hl with hl | hl
    · exact hlines l hl
    · obtain rfl := List.mem_singleton.1 hl
      exact ⟨by simp [hrest, hlf], hline⟩
  · exact absurd (by simp [AtLine, Writer.endLine]) hat

theorem addIndent (h : Within i base w) : Within i base w.addIndent :=
  ⟨h.newline, h.unit, by simp [Writer.addIndent, pushIndent, h.oneLine, h.unit],
    h.indent.trans (List.prefix_append _ _), h.lines⟩

end Within

/-- **Balanced edits keep to the indent** they start from, and to any that it begins with. -/
theorem Balanced.within {i base : Text} (h : Balanced w v) (hw : Within i base w) :
    Within i base v := by
  induction h with
  | refl => exact hw
  | write _ s ih => exact (ih hw).write s
  | endLine _ ih => exact (ih hw).endLine
  | remember _ _ ih =>
    have hv := ih hw
    exact ⟨hv.newline, hv.unit, hv.oneLine, hv.indent, hv.lines⟩
  | @further _ v u _ hin ih ihin =>
    have hv := ih hw
    have hu := ihin hv.addIndent
    obtain ⟨hlayout, hindent, -⟩ := ((refl v).further hin).layout_indent
    have hpop : u.popIndent.out = u.out ∧ u.popIndent.endsLine = u.endsLine := by
      unfold popIndent
      split
      · exact ⟨rfl, rfl⟩
      · exact ⟨rfl, rfl⟩
    refine ⟨hlayout ▸ hv.newline, hlayout ▸ hv.unit, hindent ▸ hv.oneLine, hindent ▸ hv.indent, ?_⟩
    rw [AtLine, hpop.1, hpop.2]
    exact hu.lines

end Writer

/-! ## Programs -/

namespace CodeOp

open Writer (Balanced Opened Within)

variable {op : CodeOp} {ops : List CodeOp} {s t : Session}

/-- Programs in which each scope is closed where it ends, and perhaps again later. `around` are the
numbers of the scopes that are open around the program, and of the two numbers the first counts the
scopes there were before it, the second those with its own. -/
inductive WellNested : (around : List Nat) → Nat → List CodeOp → Nat → Prop where
  | nil (around : List Nat) (n : Nat) : WellNested around n [] n
  | writes {around : List Nat} {n : Nat} {op : CodeOp} {f : Writer → Writer}
      (h : op.writes? = some f) : WellNested around n [op] n
  | again {around : List Nat} {n k : Nat} (hk : k < n) (hended : k ∉ around) :
    WellNested around n [.close k] n
  | append {around : List Nat} {n m p : Nat} {ops ops' : List CodeOp}
      (h : WellNested around n ops m) (h' : WellNested around m ops' p) :
    WellNested around n (ops ++ ops') p
  | scope {around : List Nat} {n m : Nat} {op : CodeOp} {body : List CodeOp}
      {f : Writer → Writer × Scope} (h : op.opens? = some f)
      (hbody : WellNested (n :: around) (n + 1) body m) :
    WellNested around n (op :: (body ++ [.close n])) m
  | region {around : List Nat} {n m p : Nat} {body other : List CodeOp} (condition : Text)
      (hbody : WellNested (n :: around) (n + 1) body m)
      (hother : WellNested (n :: around) m other p) :
    WellNested around n
      (.pragmaIf condition :: (body ++ .pragmaElse :: (other ++ [.close n]))) p
  | statement {around : List Nat} {n m : Nat} {op : CodeOp} {c : Conditional}
      (h : op.conditional? = some c) (hother : c.other = none)
      (hbody : WellNested around n c.body m) : WellNested around n [op] m
  | branches {around : List Nat} {n m p : Nat} {op : CodeOp} {c : Conditional}
      {other : List CodeOp} (h : op.conditional? = some c) (hother : c.other = some other)
      (hbody : WellNested around n c.body m) (helse : WellNested around m other p) :
    WellNested around n [op] p

/-- Operations that lead from one session to the other and name no unknown access, whatever
operations follow them. -/
structure Leads (ops : List CodeOp) (s t : Session) : Prop where
  steps (rest : List CodeOp) : (runSteps (ops ++ rest) s).1 = (runSteps rest t).1
  body (rest : List CodeOp) : runBody (ops ++ rest) s = runBody rest t

namespace Leads

variable {ops' : List CodeOp} {u : Session}

theorem nil (s : Session) : Leads [] s s := ⟨fun _ => rfl, fun _ => rfl⟩

theorem append (h : Leads ops s t) (h' : Leads ops' t u) : Leads (ops ++ ops') s u := by
  constructor
  · intro rest
    rw [List.append_assoc, h.steps, h'.steps]
  · intro rest
    rw [List.append_assoc, h.body, h'.body]

theorem single {answer : CodeAnswer} (h : op.run s = (t, answer))
    (hanswer : ∀ n, answer ≠ .unknownAccess n) : Leads [op] s t := by
  constructor
  · intro rest
    simp [runSteps, h]
  · intro rest
    rw [List.singleton_append, runBody, h]
    cases answer with
    | unknownAccess n => exact absurd rfl (hanswer n)
    | _ => rfl

theorem cons {answer : CodeAnswer} (h : op.run s = (t, answer))
    (hanswer : ∀ n, answer ≠ .unknownAccess n) (h' : Leads ops t u) : Leads (op :: ops) s u :=
  (single h hanswer).append h'

theorem runSteps_eq (h : Leads ops s t) : (runSteps ops s).1 = t := by
  have hall := h.steps []
  rwa [List.append_nil] at hall

theorem runBody_eq (h : Leads ops s t) : runBody ops s = (leaveBody t, .nothing) := by
  have hall := h.body []
  rwa [List.append_nil] at hall

end Leads

/-- The scopes that are open are those whose numbers are given; there are `n` in all. -/
structure Tracks (around : List Nat) (n : Nat) (scopes : List Scope) : Prop where
  length : scopes.length = n
  lt : ∀ k ∈ around, k < n
  closed_iff (k : Nat) (scope : Scope) : scopes[k]? = some scope →
    (scope.closed = true ↔ k ∉ around)

namespace Tracks

variable {around : List Nat} {n m : Nat} {scopes : List Scope} {scope : Scope}

theorem not_mem (h : Tracks around n scopes) : n ∉ around := fun hn => absurd (h.lt n hn) (by omega)

theorem opened (h : Tracks around n scopes) (hscope : scope.closed = false) :
    Tracks (n :: around) (n + 1) (scopes ++ [scope]) := by
  refine ⟨by simp [h.length], fun k hk => ?_, fun k other hother => ?_⟩
  · rcases List.mem_cons.1 hk with rfl | hk
    · omega
    · have := h.lt k hk
      omega
  · by_cases hkn : k < scopes.length
    · rw [List.getElem?_append_left hkn] at hother
      have hne : k ≠ n := by
        have := h.length
        omega
      rw [h.closed_iff k other hother, List.mem_cons, or_iff_right hne]
    · have hlt := (List.getElem?_eq_some_iff.1 hother).1
      have hk : k = scopes.length := by
        rw [List.length_append, List.length_singleton] at hlt
        omega
      subst hk
      rw [List.getElem?_concat_length] at hother
      cases hother
      simp [hscope, h.length]

theorem closed (h : Tracks (n :: around) m scopes) (hn : n ∉ around)
    (hscope : scope.closed = true) : Tracks around m (scopes.set n scope) := by
  refine ⟨by simp [h.length], fun k hk => h.lt k (List.mem_cons_of_mem n hk), ?_⟩
  intro k other hother
  by_cases hkn : n = k
  · subst hkn
    rw [List.getElem?_set_self (by rw [h.length]; exact h.lt n List.mem_cons_self)] at hother
    cases hother
    simp [hscope, hn]
  · rw [List.getElem?_set_ne hkn] at hother
    rw [h.closed_iff k other hother, List.mem_cons, or_iff_right (Ne.symm hkn)]

end Tracks

/-- The close of the innermost scope ends its level. -/
theorem close_innermost {around : List Nat} {n m : Nat} {w : Writer} (hn : n ∉ around)
    (hscopes : Tracks (n :: around) m t.scopes) (hopen : Opened w s.writer)
    (hbody : Balanced s.writer t.writer) :
    Balanced w (t.close n).writer ∧ Tracks around m (t.close n).scopes := by
  have hlt : n < t.scopes.length := hscopes.length ▸ hscopes.lt n List.mem_cons_self
  obtain ⟨scope, hscope⟩ : ∃ scope, t.scopes[n]? = some scope := ⟨_, List.getElem?_eq_getElem hlt⟩
  have hclosed : scope.closed = false := by
    simpa using (hscopes.closed_iff n scope hscope).not.2 (by simp)
  have hclose : t.close n =
      ⟨(scope.close t.writer).1, t.scopes.set n { scope with closed := true }⟩ := by
    simp [Session.close, hscope, Scope.close, hclosed]
  rw [hclose]
  exact ⟨hopen.close hbody scope hclosed, hscopes.closed hn rfl⟩

/-- A body in braces behind a line. -/
theorem balanced_body {text : Text} (h : Balanced (enter (·.writeLine text) s).writer t.writer) :
    Balanced s.writer (leaveBody t).writer :=
  (((Balanced.refl s.writer).writeLine text).openScope _).close h .brace rfl

/-- **What a program does whose scopes are nested**: it runs through, its edits are balanced, and its
scopes are closed. -/
theorem WellNested.leads {around : List Nat} {n m : Nat} (h : WellNested around n ops m) :
    ∀ s : Session, Tracks around n s.scopes →
      ∃ t, Leads ops s t ∧ Balanced s.writer t.writer ∧ Tracks around m t.scopes := by
  induction h with
  | nil around n => exact fun s hs => ⟨s, .nil s, .refl _, hs⟩
  | writes hop =>
    intro s hs
    obtain ⟨hrun, hbalanced⟩ := run_writes hop s
    exact ⟨_, .single hrun fun _ => by simp, hbalanced, hs⟩
  | @again around n k hk hended =>
    intro s hs
    obtain ⟨scope, hscope⟩ : ∃ scope, s.scopes[k]? = some scope :=
      ⟨_, List.getElem?_eq_getElem (hs.length ▸ hk)⟩
    have hclose := Session.close_of_closed hscope ((hs.closed_iff k scope hscope).2 hended)
    have hrun : (CodeOp.close k).run s = (s, .nothing) := by rw [run, hclose]
    exact ⟨s, .single hrun fun _ => by simp, .refl _, hs⟩
  | append _ _ ih ih' =>
    intro s hs
    obtain ⟨t, hleads, hbalanced, ht⟩ := ih s hs
    obtain ⟨u, hleads', hbalanced', hu⟩ := ih' t ht
    exact ⟨u, hleads.append hleads', hbalanced.trans hbalanced', hu⟩
  | @scope _ _ _ _ _ f hop _ ih =>
    intro s hs
    obtain ⟨hrun, hopened, hclosed⟩ := run_opens hop s
    obtain ⟨t, hleads, hbalanced, ht⟩ := ih (opened s f).1 (hs.opened hclosed)
    obtain ⟨hwhole, hscopes⟩ := close_innermost hs.not_mem ht hopened hbalanced
    exact ⟨_, .cons hrun (fun _ => by simp) (hleads.append (.single rfl fun _ => by simp)),
      hwhole, hscopes⟩
  | region condition _ _ ih ih' =>
    intro s hs
    have hop : (CodeOp.pragmaIf condition).opens? = some (·.pragmaIf condition) := rfl
    obtain ⟨hrun, hopened, hclosed⟩ := run_opens hop s
    obtain ⟨t, hleads, hbalanced, ht⟩ := ih (opened s (·.pragmaIf condition)).1 (hs.opened hclosed)
    obtain ⟨u, hleads', hbalanced', hu⟩ := ih' { t with writer := t.writer.pragmaElse } ht
    obtain ⟨hwhole, hscopes⟩ := close_innermost hs.not_mem hu
      (s := { t with writer := t.writer.pragmaElse }) (hopened.pragmaElse hbalanced) hbalanced'
    refine ⟨_, .cons hrun (fun _ => by simp) (hleads.append ?_), hwhole, hscopes⟩
    exact .cons rfl (fun _ => by simp) (hleads'.append (.single rfl fun _ => by simp))
  | @statement _ _ _ op c hc hother _ ih =>
    intro s hs
    obtain ⟨text, hline⟩ := line_conditional hc
    obtain ⟨t, hleads, hbalanced, ht⟩ := ih (enter c.line s) hs
    have hrun : op.run s = (leaveBody t, .nothing) := by
      rw [run_conditional hc, hother]
      exact hleads.runBody_eq
    rw [hline] at hbalanced
    exact ⟨_, .single hrun fun _ => by simp, balanced_body hbalanced, ht⟩
  | @branches _ _ _ _ op c _ hc hother _ _ ih ih' =>
    intro s hs
    obtain ⟨text, hline⟩ := line_conditional hc
    obtain ⟨t, hleads, hbalanced, ht⟩ := ih (enter c.line s) hs
    obtain ⟨u, hleads', hbalanced', hu⟩ := ih' (enter Writer.elseLine (leaveBody t)) ht
    have hrun : op.run s = (leaveBody u, .nothing) := by
      rw [run_conditional hc, hother, hleads.runBody_eq]
      exact hleads'.runBody_eq
    rw [hline] at hbalanced
    exact ⟨_, .single hrun fun _ => by simp,
      (balanced_body hbalanced).trans (balanced_body hbalanced'), hu⟩

/-- **Nested programs are balanced.** A program whose scopes are closed where they end, each once or
more often, is run on a writer at the start of a line, of one-line indents. Afterwards the indent and
its depth are what they were, down to the lengths of the levels; every scope is closed, and closing
one again changes nothing, neither then nor anywhere in a run once it was closed; and in the text
that was added every line that is not blank begins with the indent. -/
theorem wellNested_balanced {m : Nat} (h : WellNested [] 0 ops m) (w : Writer) (hline : w.AtLine)
    (hnewline : w.layout.newline = utf8 "\n" ∨ w.layout.newline = utf8 "\r\n")
    (hindent : 0x0A ∉ w.indent) (hunit : 0x0A ∉ w.layout.unit) :
    let s := (runSteps ops (.ofWriter w)).1
    (s.writer.depth = w.depth ∧ s.writer.indent = w.indent ∧ s.writer.lengths = w.lengths) ∧
      (s.scopes.length = m ∧ (∀ scope ∈ s.scopes, scope.closed = true) ∧
        (∀ k : Int, s.close k = s) ∧
        ∀ (t : Session) (k : Nat) (between : List CodeOp), k < t.scopes.length →
          let u := (runSteps between (t.close k)).1
          u.close k = u) ∧
      ∃ added, s.writer.out = w.out ++ added ∧
        ∀ line ∈ Text.pieces 0x0A added, line.isBlank = false → w.indent <+: line := by
  have hstart : Tracks [] 0 (Session.ofWriter w).scopes := by
    refine ⟨rfl, fun k hk => ?_, fun k scope hk => ?_⟩
    · cases hk
    · cases hk
  obtain ⟨s, hleads, hbalanced, hs⟩ := h.leads (.ofWriter w) hstart
  rw [hleads.runSteps_eq]
  have hclosed {k : Nat} {scope : Scope} (hk : s.scopes[k]? = some scope) :
      scope.closed = true := (hs.closed_iff k scope hk).2 List.not_mem_nil
  obtain ⟨-, hsame, hlengths⟩ := hbalanced.layout_indent
  refine ⟨⟨congrArg List.length hlengths, hsame, hlengths⟩, ⟨hs.length, fun scope hscope => ?_,
    fun k => ?_, fun t k between hk => ?_⟩, ?_⟩
  · obtain ⟨k, hk⟩ := List.mem_iff_getElem?.1 hscope
    exact hclosed hk
  · cases k with
    | negSucc k => rfl
    | ofNat k =>
      by_cases hk : k < s.scopes.length
      · have hscope := List.getElem?_eq_getElem hk
        exact Session.close_of_closed hscope (hclosed hscope)
      · simp [Session.close, List.getElem?_eq_none (Nat.le_of_not_lt hk)]
  · have hmoves : Session.Moves (fun _ _ => True) (t.close k) (runSteps between (t.close k)).1 :=
      (moves_cases.ops between (t.close k)).2 fun _ _ _ => trivial
    exact hmoves.close_again hk
  · have hw : Within w.indent w.out w :=
      ⟨hnewline, hunit, hindent, List.prefix_refl _, [], [], by simp, by simp, by simp,
        fun _ => rfl, fun hat => absurd hline hat⟩
    obtain ⟨lines, rest, hout, hlines, hrest, hat, hopen⟩ := (hbalanced.within hw).lines
    refine ⟨_, hout, fun line hmem hblank => ?_⟩
    rw [Text.pieces_lines (fun l hl => (hlines l hl).1) hrest] at hmem
    rcases List.mem_append.1 hmem with hmem | hmem
    · exact (hlines line hmem).2.resolve_left (by simp [hblank])
    · obtain rfl := List.mem_singleton.1 hmem
      refine hopen fun hended => ?_
      rw [hat hended] at hblank
      cases hblank

/-- A region with a statement in its first part; both scopes are closed twice, and a text leaves its
last line open. -/
theorem wellNested_balanced_sample :
    let w := (Writer.ofLayout .standard).pushIndent (utf8 "> ")
    let ops : List CodeOp := [.pragmaIf (utf8 "D"),
      .ifThen (utf8 "c") [.write (utf8 "x\n\ny")] (some [.block, .close 1]), .close 1, .pragmaElse,
      .writeLine (utf8 "b"), .close 0, .close 0]
    let s := (runSteps ops (.ofWriter w)).1
    WellNested [] 0 ops 2 ∧ w.AtLine ∧ w.layout.newline = utf8 "\n" ∧ 0x0A ∉ w.indent ∧
      0x0A ∉ w.layout.unit ∧ s.writer.depth = 1 ∧ s.writer.indent = utf8 "> " ∧ s.close 1 = s ∧
      s.writer.out = utf8 "> #if D\n>     if (c)\n>     \x7b\n>         x\n>         \n" ++
        utf8 ">         y\x7d\n>     else\n>     \x7b\n>         \x7b\n>         \x7d\n" ++
        utf8 ">     \x7d\n> #else\n>     b\n> #endif\n" := by
  have hblock : WellNested [0] 1 (.block :: ([] ++ [.close 1])) 2 := .scope rfl (.nil ..)
  have hif : WellNested [0] 1
      [.ifThen (utf8 "c") [.write (utf8 "x\n\ny")] (some [.block, .close 1])] 2 :=
    .branches rfl rfl (.writes rfl) hblock
  have hagain : WellNested [0] 2 [.close 1] 2 := .again (by decide) (by decide)
  have hline : WellNested [0] 2 [.writeLine (utf8 "b")] 2 := .writes rfl
  have hregion := WellNested.region (utf8 "D") (hif.append hagain) hline
  have hall := hregion.append (.again (k := 0) (by decide) (by decide))
  have hw : ((Writer.ofLayout .standard).pushIndent (utf8 "> ")).AtLine := rfl
  have h := wellNested_balanced hall _ hw (.inl rfl) (by decide) (by decide)
  exact ⟨hall, hw, rfl, by decide, by decide, h.1.1, h.1.2.1, h.2.1.2.2.1 1, by decide +kernel⟩

end CodeOp
end TextTemplate
