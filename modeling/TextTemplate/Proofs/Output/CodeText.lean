/-
The text of code, line by line. A block is written line by line at an indent; an expression is
trimmed and written with the indent behind its line feeds. Either way each line of the text carries
one line of the code, in order, and no code is left out (`Writes`).

This rests on what the code has for lines. A line end beyond ASCII ends a line of the text and none
of the template, so the code must have none. Trimming takes the blank lines in front of an
expression away, so its first line must not be blank.
-/
import TextTemplate.Proofs.Code.Lines
import TextTemplate.Proofs.Template.CodeLines

namespace TextTemplate
namespace Output

open Text (Joins Paired Ruled Unbroken pieces)

/-! ## Lines of code in lines of text -/

/-- Whether a line carries a line of code: all of it, but for blank text around it. -/
def Carries (x c : Text) : Prop :=
  ∃ a w b, c = a ++ w ++ b ∧ a.isBlank = true ∧ b.isBlank = true ∧ w <:+: x

/-- Lines that carry lines of code, one each. What is left of the code is blank. -/
inductive Carry : List Text → List Text → Prop where
  | rest {cs : List Text} (h : ∀ c ∈ cs, c.isBlank = true) : Carry [] cs
  | line {x c : Text} {xs cs : List Text} (hc : Carries x c) (h : Carry xs cs) :
    Carry (x :: xs) (c :: cs)

theorem Carries.whole {x c : Text} (h : c <:+: x) : Carries x c :=
  ⟨[], c, [], by simp, rfl, rfl, h⟩

theorem Carries.append {x c b : Text} (h : Carries x c) (hb : b.isBlank = true) :
    Carries x (c ++ b) := by
  obtain ⟨a, w, b', rfl, ha, hb', hw⟩ := h
  refine ⟨a, w, b' ++ b, by simp, ha, ?_, hw⟩
  rw [Text.isBlank_append_of_isBlank hb', hb]

theorem Carries.prepend {x c a : Text} (h : Carries x c) (ha : a.isBlank = true) :
    Carries x (a ++ c) := by
  obtain ⟨a', w, b, rfl, ha', hb, hw⟩ := h
  refine ⟨a ++ a', w, b, by simp, ?_, hb, hw⟩
  rw [Text.isBlank_append_of_isBlank ha, ha']

theorem carries_of_isBlank (x : Text) {c : Text} (h : c.isBlank = true) : Carries x c :=
  ⟨c, [], [], by simp, h, rfl, List.nil_infix⟩

theorem Carry.getElem? {xs cs : List Text} (h : Carry xs cs) {j : Nat} {x : Text}
    (hx : xs[j]? = some x) : ∃ c, cs[j]? = some c ∧ Carries x c := by
  induction h generalizing j with
  | rest => cases hx
  | line hc _ ih =>
    cases j with
    | zero =>
      cases hx
      exact ⟨_, rfl, hc⟩
    | succ j => exact ih hx

theorem Carry.isBlank {xs cs : List Text} (h : Carry xs cs) {j : Nat} {c : Text}
    (hc : cs[j]? = some c) (hj : xs.length ≤ j) : c.isBlank = true := by
  induction h generalizing j with
  | rest h => exact h c (List.mem_of_getElem? hc)
  | line _ _ ih =>
    cases j with
    | zero => exact absurd hj (by simp)
    | succ j => exact ih hc (Nat.le_of_succ_le_succ hj)

/-- A text of lines that carry the lines of a code, and starts with none of its own end. -/
def Writes (l : Layout) (t code : Text) : Prop :=
  ∃ xs, Ruled xs t ∧ Carry xs (pieces 0x0A code) ∧ ¬Text.Splits l.newline t

/-- An indent that adds no lines: ASCII without CR and LF. -/
def Level (i : Text) : Prop := ∀ b ∈ i, b < 0x80 ∧ b ≠ 0x0D ∧ b ≠ 0x0A

instance : DecidablePred Level := fun i =>
  inferInstanceAs (Decidable (∀ b ∈ i, b < 0x80 ∧ b ≠ 0x0D ∧ b ≠ 0x0A))

variable {l : Layout} {i : Text}

theorem Level.unbroken (h : Level i) : Unbroken i := Text.unbroken_of_ascii h

theorem Level.joins (h : Level i) (s : Text) : Joins i s :=
  fun b _ hb _ => .inl (h b (List.mem_of_getLast? hb)).1

theorem Level.joins_right (h : Level i) (s : Text) : Joins s i :=
  fun _ c _ hc => .inr (h c (List.mem_of_head? hc)).1

theorem Level.append {j : Text} (hi : Level i) (hj : Level j) : Level (i ++ j) :=
  fun b hb => (List.mem_append.1 hb).elim (hi b) (hj b)

theorem Level.not_splits (h : Level i) (hne : i ≠ []) (e s : Text) : ¬Text.Splits e (i ++ s) := by
  refine Text.not_splits_append_of_ne_nil hne (fun hsplits => ?_) s
  exact (h _ (List.mem_of_head? hsplits.2)).2.2 rfl

/-! ### Blocks -/

section Block

theorem dropEnd_concat (b z : UInt8) (s : Text) :
    Text.dropEnd [b] (s ++ [z]) = if b = z then s else s ++ [z] := by
  simp [Text.dropEnd, List.isSuffixOf]

theorem dropEnd_append (b : UInt8) {s : Text} (hs : s ≠ []) (t : Text) :
    Text.dropEnd [b] (t ++ s) = t ++ Text.dropEnd [b] s := by
  rw [← List.dropLast_append_getLast hs, ← List.append_assoc, dropEnd_concat, dropEnd_concat]
  split <;> simp

theorem replace_breaks_of_not_mem {u : Text} (h : 0x0D ∉ u) (s : Text) :
    Text.replace [0x0D, 0x0A] [0x0A] (u ++ s) = u ++ Text.replace [0x0D, 0x0A] [0x0A] s := by
  induction u with
  | nil => rfl
  | cons b u ih =>
    obtain ⟨hb, hu⟩ := not_or.1 (mt List.mem_cons.2 h)
    rw [List.cons_append, Text.replace_cons (by simp [List.isPrefixOf, hb]), ih hu,
      List.cons_append]

theorem linesOf_last {s : Text} (hcr : 0x0D ∉ s) (hlf : 0x0A ∉ s) : Writer.linesOf s = [s] := by
  have hsame := replace_breaks_of_not_mem hcr []
  rw [List.append_nil, Text.replace_nil, List.append_nil] at hsame
  have hdrop : Text.dropEnd [0x0A] s = s := by
    rw [Text.dropEnd, if_neg]
    intro hsuffix
    exact hlf ((List.isSuffixOf_iff_suffix.1 hsuffix).subset List.mem_cons_self)
  rw [Writer.linesOf, hsame, hdrop, Text.pieces_of_not_mem hlf]

theorem linesOf_line {u e : Text} (hcr : 0x0D ∉ u) (hlf : 0x0A ∉ u)
    (he : e = [0x0A] ∨ e = [0x0D, 0x0A]) (v : Text) :
    Writer.linesOf (u ++ e ++ v) = u :: if v = [] then [] else Writer.linesOf v := by
  have hreplace : Text.replace [0x0D, 0x0A] [0x0A] (u ++ e ++ v) =
      u ++ [0x0A] ++ Text.replace [0x0D, 0x0A] [0x0A] v := by
    rw [List.append_assoc, replace_breaks_of_not_mem hcr, List.append_assoc]
    rcases he with rfl | rfl
    · exact congrArg (u ++ ·) (Text.replace_cons rfl)
    · exact congrArg (u ++ ·) (Text.replace_pair 0x0D 0x0A [0x0A] v)
  rw [Writer.linesOf, hreplace]
  split
  · next hv =>
    rw [hv, Text.replace_nil, List.append_nil, dropEnd_concat, if_pos rfl,
      Text.pieces_of_not_mem hlf]
  · next hv =>
    have hne : Text.replace [0x0D, 0x0A] [0x0A] v ≠ [] := by
      obtain ⟨b, v, rfl⟩ := List.exists_cons_of_ne_nil hv
      rw [Text.replace, Text.replaceGo]
      split <;> simp
    rw [dropEnd_append 0x0A hne, List.append_assoc, List.singleton_append,
      Text.pieces_append_cons hlf, Writer.linesOf]

theorem not_mem_codeLine {b : UInt8} {line : Text} (hi : b ∉ i) (hline : b ∉ line)
    (hl : b ∉ l.newline) : b ∉ l.codeLine i line := by
  unfold Layout.codeLine
  split
  · exact hl
  · simp [hi, hline, hl]

/-- The lines of a block start with no LF that a CR in front of them could take. -/
theorem not_splits_block (hi : Level i) (hl : l.newline ∈ Text.breaks) (s : Text) :
    ¬Text.Splits l.newline ((Writer.linesOf s).flatMap (l.codeLine i)) := by
  rintro ⟨hcr, hlf⟩
  have hnewline : 0x0A ∉ l.newline := by
    rcases Text.mem_breaks.1 hl with h | h | h <;> rw [h] at hcr ⊢
    · cases hcr
    · cases hcr
    · decide
  obtain ⟨line, hline, hmem⟩ := List.mem_flatMap.1 (List.mem_of_head? hlf)
  exact not_mem_codeLine (fun h => (hi _ h).2.2 rfl) (Text.sep_not_mem_pieces _ _ line hline)
    hnewline hmem

/-- The first line of a code, with the CR of its end. -/
theorem exists_pieces_line {u e : Text} (hlf : 0x0A ∉ u) (he : e = [0x0A] ∨ e = [0x0D, 0x0A])
    (v : Text) :
    ∃ r, r.isBlank = true ∧ pieces 0x0A (u ++ e ++ v) = (u ++ r) :: pieces 0x0A v := by
  rcases he with rfl | rfl
  · exact ⟨[], rfl, by simpa using Text.pieces_append_cons hlf v⟩
  · have hcr : 0x0A ∉ u ++ [0x0D] := by simp [hlf]
    exact ⟨[0x0D], by decide, by simpa using Text.pieces_append_cons hcr v⟩

/-- A line of a block is a line of the text. -/
theorem exists_codeLine (hi : Level i) {u : Text} (hu : Unbroken u) :
    ∃ x, Unbroken x ∧ Carries x u ∧ l.codeLine i u = x ++ l.newline := by
  unfold Layout.codeLine
  split
  · next hblank => exact ⟨[], rfl, carries_of_isBlank [] hblank, rfl⟩
  · exact ⟨i ++ u, hi.unbroken.append hu (hi.joins u),
      .whole (List.suffix_append i u).isInfix, rfl⟩

/-- **A block, line by line.** -/
theorem writes_block (hi : Level i) (hl : l.newline ∈ Text.breaks) {s : Text} (hs : Paired s)
    (hwide : ∀ w ∈ Literal.wideEnds, ¬w <:+: s) :
    Writes l ((Writer.linesOf s).flatMap (l.codeLine i)) s := by
  refine hs.lines_induction (motive := fun s => (∀ w ∈ Literal.wideEnds, ¬w <:+: s) →
    Writes l ((Writer.linesOf s).flatMap (l.codeLine i)) s) ?_ ?_ hwide
  · intro s hcr hlf hwide
    obtain ⟨x, hx, hc, hline⟩ := exists_codeLine (l := l) hi
      (Text.unbroken_of_narrow hcr hlf hwide)
    refine ⟨[x], ?_, ?_, not_splits_block hi hl s⟩
    · rw [linesOf_last hcr hlf, List.flatMap_singleton, hline, ← List.append_nil (x ++ l.newline)]
      exact .cons hx hl (fun h => by cases h.2) .nil
    · rw [Text.pieces_of_not_mem hlf]
      exact .line hc (.rest (by simp))
  · intro u e v hcr hlf he hv ih hwide
    obtain ⟨x, hx, hc, hline⟩ := exists_codeLine (l := l) hi
      (Text.unbroken_of_narrow hcr hlf fun w hw h => hwide w hw (by
        rw [List.append_assoc]
        exact h.trans (List.prefix_append u _).isInfix))
    obtain ⟨xs, hxs, hcarry, hsplits⟩ := ih fun w hw h =>
      hwide w hw (h.trans (List.suffix_append _ v).isInfix)
    obtain ⟨r, hr, hpieces⟩ := exists_pieces_line hlf he v
    have hnot := not_splits_block hi hl (u ++ e ++ v)
    rw [linesOf_line hcr hlf he v, List.flatMap_cons, hline] at hnot ⊢
    rw [Writes, hpieces]
    by_cases hnil : v = []
    · -- The line break behind the last line starts no line of the block.
      rw [if_pos hnil] at hnot ⊢
      refine ⟨[x], .cons hx hl (fun h => by cases h.2) .nil, .line (hc.append hr) (.rest ?_), hnot⟩
      rw [hnil]
      simp [pieces, Text.isBlank, Text.runes, Text.runesGo]
    · rw [if_neg hnil] at hnot ⊢
      exact ⟨x :: xs, .cons hx hl hsplits hxs, .line (hc.append hr) hcarry, hnot⟩

end Block

/-! ### Expressions -/

section Expression

theorem behindFeeds_line {u e : Text} (hlf : 0x0A ∉ u) (he : e = [0x0A] ∨ e = [0x0D, 0x0A])
    (i v : Text) : Text.behindFeeds i (u ++ e ++ v) = u ++ e ++ (i ++ Text.behindFeeds i v) := by
  have hbreak : Text.behindFeeds i e = e ++ i := by
    rcases he with rfl | rfl <;> simp [Text.behindFeeds]
  rw [Writer.behindFeeds_append, Writer.behindFeeds_append, Writer.behindFeeds_of_not_mem hlf,
    hbreak]
  simp only [List.append_assoc]

/-- Lines of code at an indent, between a text in front of the first and one behind the last. -/
theorem ruled_behindFeeds (hi : Level i) (hl : l.newline ∈ Text.breaks) {head tail : Text}
    (hhead : Level head) (htail : Level tail) {s : Text} (hs : Paired s)
    (hwide : ∀ w ∈ Literal.wideEnds, ¬w <:+: s) :
    ∃ xs, Ruled xs (head ++ Text.behindFeeds i s ++ tail ++ l.newline) ∧
      List.Forall₂ Carries xs (pieces 0x0A s) := by
  refine hs.lines_induction (motive := fun s => ∀ head, Level head →
    (∀ w ∈ Literal.wideEnds, ¬w <:+: s) →
    ∃ xs, Ruled xs (head ++ Text.behindFeeds i s ++ tail ++ l.newline) ∧
      List.Forall₂ Carries xs (pieces 0x0A s)) ?_ ?_ head hhead hwide
  · intro s hcr hlf head hhead hwide
    have hx : Unbroken (head ++ s ++ tail) :=
      (hhead.unbroken.append (Text.unbroken_of_narrow hcr hlf hwide) (hhead.joins s)).append
        htail.unbroken (htail.joins_right _)
    refine ⟨[head ++ s ++ tail], ?_, ?_⟩
    · rw [Writer.behindFeeds_of_not_mem hlf, ← List.append_nil (head ++ s ++ tail ++ l.newline)]
      exact .cons hx hl (fun h => by cases h.2) .nil
    · rw [Text.pieces_of_not_mem hlf]
      exact .cons (.whole ⟨head, tail, rfl⟩) .nil
  · intro u e v hcr hlf he hv ih head hhead hwide
    have hu : Unbroken u := Text.unbroken_of_narrow hcr hlf fun w hw h =>
      hwide w hw (h.trans ⟨[], e ++ v, by simp⟩)
    obtain ⟨xs, hxs, hcarry⟩ := ih i hi fun w hw h =>
      hwide w hw (h.trans (List.suffix_append _ v).isInfix)
    obtain ⟨r, hr, hpieces⟩ := exists_pieces_line hlf he v
    have hbreak : e ∈ Text.breaks := Text.mem_breaks.2 (he.imp_right .inl)
    have hsplits (t : Text) : ¬Text.Splits e t := by
      rintro ⟨hcr, -⟩
      rcases he with rfl | rfl <;> cases hcr
    refine ⟨(head ++ u) :: xs, ?_, ?_⟩
    · have hrows := Ruled.cons (hhead.unbroken.append hu (hhead.joins u)) hbreak (hsplits _) hxs
      rw [behindFeeds_line hlf he]
      simpa only [List.append_assoc] using hrows
    · rw [hpieces]
      exact .cons ((Carries.whole (List.suffix_append head u).isInfix).append hr) hcarry

/-- Blank text behind the code adds to its last line, and blank lines. -/
theorem carry_append {s b : Text} {xs : List Text} (h : List.Forall₂ Carries xs (pieces 0x0A s))
    (hb : b.isBlank = true) : Carry xs (pieces 0x0A (s ++ b)) := by
  induction s using Text.lines_induction generalizing xs with
  | last s hs =>
    have hlines := Text.isBlank_of_mem_pieces hb
    rw [Text.pieces_of_not_mem hs] at h
    obtain ⟨x, xs, hx, hnil, rfl⟩ := List.forall₂_cons_right_iff.1 h
    obtain rfl := List.forall₂_nil_right_iff.1 hnil
    by_cases hlf : 0x0A ∈ b
    · obtain ⟨u, v, rfl, hu⟩ := List.eq_append_cons_of_mem hlf
      rw [Text.pieces_append_cons hu, List.forall_mem_cons] at hlines
      have hsu : 0x0A ∉ s ++ u := by simp [hs, hu]
      rw [← List.append_assoc, Text.pieces_append_cons hsu]
      exact .line (hx.append hlines.1) (.rest hlines.2)
    · have hsb : 0x0A ∉ s ++ b := by simp [hs, hlf]
      rw [Text.pieces_of_not_mem hsb]
      exact .line (hx.append hb) (.rest (by simp))
  | line u v hu ih =>
    rw [Text.pieces_append_cons hu] at h
    obtain ⟨x, xs, hx, hxs, rfl⟩ := List.forall₂_cons_right_iff.1 h
    rw [List.append_assoc, List.cons_append, Text.pieces_append_cons hu]
    exact .line hx (ih hxs)

/-- Blank text in front of the code adds to its first line. -/
theorem Carry.prepend {x a s : Text} {xs : List Text} (h : Carry (x :: xs) (pieces 0x0A s))
    (ha : a.isBlank = true) (hlf : 0x0A ∉ a) : Carry (x :: xs) (pieces 0x0A (a ++ s)) := by
  by_cases hs : 0x0A ∈ s
  · obtain ⟨u, v, rfl, hu⟩ := List.eq_append_cons_of_mem hs
    have hau : 0x0A ∉ a ++ u := by simp [hlf, hu]
    rw [Text.pieces_append_cons hu] at h
    rw [← List.append_assoc, Text.pieces_append_cons hau]
    cases h with
    | line hc hrest => exact .line (hc.prepend ha) hrest
  · have has : 0x0A ∉ a ++ s := by simp [hlf, hs]
    rw [Text.pieces_of_not_mem hs] at h
    rw [Text.pieces_of_not_mem has]
    cases h with
    | line hc hrest => exact .line (hc.prepend ha) hrest

/-- What is trimmed from the start of a code whose first line is not blank stays on that line. -/
theorem not_mem_of_first {a s : Text} (ha : a.isBlank = true)
    (hfirst : ∀ c ∈ (pieces 0x0A (a ++ s)).head?, c.isBlank = false) : 0x0A ∉ a := by
  intro hlf
  obtain ⟨u, v, rfl, hu⟩ := List.eq_append_cons_of_mem hlf
  have hlines := Text.isBlank_of_mem_pieces ha
  rw [Text.pieces_append_cons hu, List.forall_mem_cons] at hlines
  rw [List.append_assoc, List.cons_append, Text.pieces_append_cons hu] at hfirst
  exact absurd hlines.1 (by simp [hfirst u rfl])

/-- A line of a text between two others that break no line. -/
theorem line_between {a b : Text} (ha : 0x0A ∉ a) (hb : 0x0A ∉ b) (hne : b ≠ []) (l : Layout)
    (i t : Text) :
    l.line i (a ++ t ++ b) = i ++ a ++ Text.behindFeeds i t ++ b ++ l.newline := by
  have hlast : Writer.endsWithLF (a ++ t ++ b) = false := by
    have hend := Writer.endsWithLF_of_not_mem hb
    rwa [Writer.endsWithLF, List.getLast?_append_of_ne_nil _ hne]
  rw [Writer.line_eq (List.append_ne_nil_of_right_ne_nil _ hne) hlast, Writer.behindFeeds_append,
    Writer.behindFeeds_append, Writer.behindFeeds_of_not_mem ha, Writer.behindFeeds_of_not_mem hb]
  simp only [List.append_assoc]

/-- **An expression, line by line**, if its first line is not blank. -/
theorem writes_expression (hi : Level i) (hl : l.newline ∈ Text.breaks) {s : Text} (hs : Paired s)
    (hwide : ∀ w ∈ Literal.wideEnds, ¬w <:+: s)
    (hfirst : ∀ c ∈ (pieces 0x0A s).head?, c.isBlank = false) :
    Writes l (l.line i (utf8 "_output.Append(FormatObject(" ++ s.trim ++ utf8 "));")) s := by
  obtain ⟨a, b, hsplit, ha, hb, hlast⟩ := Text.exists_trim s
  generalize s.trim = t at hsplit hlast ⊢
  subst hsplit
  rw [List.append_assoc] at hs hwide hfirst
  have hlf := not_mem_of_first ha hfirst
  have ht : Paired t := hs.of_append.left hlast
  have hwide : ∀ w ∈ Literal.wideEnds, ¬w <:+: t := fun w hw h =>
    hwide w hw (h.trans ⟨a, b, by simp⟩)
  have hopening : Level (i ++ utf8 "_output.Append(FormatObject(") :=
    hi.append (Text.isAsciiLine_iff.1 (by decide +kernel))
  have hclosing : Level (utf8 "));") := Text.isAsciiLine_iff.1 (by decide +kernel)
  obtain ⟨xs, hxs, hcarry⟩ := ruled_behindFeeds hi hl hopening hclosing ht hwide
  rw [line_between (by decide +kernel) (by decide +kernel) (by decide +kernel)]
  refine ⟨xs, hxs, ?_, ?_⟩
  · obtain ⟨c, cs, hpieces⟩ := List.exists_cons_of_ne_nil (Text.pieces_ne_nil 0x0A t)
    rw [List.append_assoc]
    cases xs with
    | nil =>
      rw [hpieces] at hcarry
      cases hcarry
    | cons x xs => exact (carry_append hcarry hb).prepend ha hlf
  · rw [List.append_assoc, List.append_assoc]
    exact hopening.not_splits (List.append_ne_nil_of_right_ne_nil _ (by decide +kernel)) _ _

end Expression

end Output
end TextTemplate
