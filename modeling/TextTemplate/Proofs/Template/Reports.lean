/-
What calls of the reader report, one after the other. A call changes between text and tags as its
report says (`Shift`), so the kinds reported up to the end of the text make a word of a regular
language (`textReports`), and up to a fault the start of one. There are at most as many calls as
there are bytes, and one for the end; further calls change nothing.
-/
import Mathlib.Computability.Language
import Mathlib.Data.List.Chain
import TextTemplate.Proofs.Template.Scanning

namespace TextTemplate

open scoped Computability

/-! ## The words of reports -/

namespace EventKind

/-- Text or a code tag. -/
def IsPiece (kind : EventKind) : Prop :=
  kind = .content ∨ kind = .expression ∨ kind = .block ∨ kind = .helper

/-- A name or a value inside a directive tag. -/
def IsPart (kind : EventKind) : Prop := kind = .directiveName ∨ kind = .directiveValue

end EventKind

/-- A single report. -/
def report (kind : EventKind) : Language EventKind := {[kind]}

/-- The reports of a directive tag. -/
def tagReports : Language EventKind :=
  report .directive * (report .directiveName + report .directiveValue)∗ * report .directive

/-- The reports of a text. -/
def textReports : Language EventKind :=
  (report .content + report .expression + report .block + report .helper + tagReports)∗ * report .eof

/-- The reports that are left inside a directive tag. -/
def insideReports : Language EventKind :=
  (report .directiveName + report .directiveValue)∗ * (report .directive * textReports)

section Words

variable {l m : Language EventKind} {u w : List EventKind} {kind : EventKind}

theorem append_mem_kstar_mul (hu : u ∈ l) (hw : w ∈ l∗ * m) : u ++ w ∈ l∗ * m := by
  obtain ⟨v, hv, t, ht, rfl⟩ := Language.mem_mul.1 hw
  have huv : u ++ v ∈ l∗ :=
    Set.mem_of_mem_of_subset (Language.append_mem_mul hu hv) (mul_kstar_le_kstar (a := l))
  exact Language.mem_mul.2 ⟨u ++ v, huv, t, ht, List.append_assoc u v t⟩

theorem mem_kstar_mul (hw : w ∈ m) : w ∈ l∗ * m :=
  Language.mem_mul.2 ⟨[], Language.nil_mem_kstar l, w, hw, rfl⟩

theorem mem_report (kind : EventKind) : [kind] ∈ report kind := Set.mem_singleton _

theorem eof_mem_textReports : [.eof] ∈ textReports := mem_kstar_mul (mem_report _)

theorem cons_mem_textReports (hkind : kind.IsPiece) (hw : w ∈ textReports) :
    kind :: w ∈ textReports := by
  refine append_mem_kstar_mul (u := [kind]) ?_ hw
  simp only [Language.mem_add]
  rcases hkind with rfl | rfl | rfl | rfl <;> simp [mem_report]

theorem cons_mem_insideReports (hkind : kind.IsPart) (hw : w ∈ insideReports) :
    kind :: w ∈ insideReports := by
  refine append_mem_kstar_mul (u := [kind]) ?_ hw
  rcases hkind with rfl | rfl
  · exact .inl (mem_report _)
  · exact .inr (mem_report _)

theorem closing_mem_insideReports (hw : w ∈ textReports) : .directive :: w ∈ insideReports :=
  mem_kstar_mul (Language.append_mem_mul (mem_report _) hw)

/-- The reports that can be left, inside a directive tag or outside. -/
def leftReports (inside : Bool) : Language EventKind :=
  if inside then insideReports else textReports

theorem exists_mem_leftReports (inside : Bool) : ∃ w, w ∈ leftReports inside := by
  cases inside with
  | true => exact ⟨_, closing_mem_insideReports eof_mem_textReports⟩
  | false => exact ⟨_, eof_mem_textReports⟩

/-- What follows the opening of a tag makes the tag whole. -/
theorem opening_mem_textReports (hw : w ∈ insideReports) : .directive :: w ∈ textReports := by
  obtain ⟨parts, hparts, v, hv, rfl⟩ := Language.mem_mul.1 hw
  obtain ⟨closing, hclosing, rest, hrest, rfl⟩ := Language.mem_mul.1 hv
  have htag : [.directive] ++ parts ++ closing ∈ tagReports :=
    Language.append_mem_mul (Language.append_mem_mul (mem_report _) hparts) hclosing
  have hword : [.directive] ++ parts ++ closing ++ rest ∈ textReports :=
    append_mem_kstar_mul (.inr htag) hrest
  rwa [List.append_assoc, List.append_assoc] at hword

end Words

/-! ## One call -/

namespace Reader

variable {r r' : Reader}

/-- How a report leads from text into a directive tag and back. -/
inductive Shift : (inside : Bool) → EventKind → (inside' : Bool) → Prop where
  | eof : Shift false .eof false
  | piece {kind : EventKind} (hkind : kind.IsPiece) : Shift false kind false
  | opening : Shift false .directive true
  | part {kind : EventKind} (hkind : kind.IsPart) : Shift true kind true
  | closing : Shift true .directive false

namespace Shift

variable {inside inside' : Bool} {kind : EventKind} {w : List EventKind}

theorem ne_content (h : Shift true kind inside') : kind ≠ .content := by
  cases h with
  | part hkind => rcases hkind with rfl | rfl <;> decide
  | closing => decide

theorem not_isPart (h : Shift false kind inside') : ¬kind.IsPart := by
  rintro (rfl | rfl)
  all_goals
    cases h with
    | piece hpiece => simp [EventKind.IsPiece] at hpiece

theorem inside_of_directive (h : Shift false .directive inside') : inside' = true := by
  cases h with
  | piece hpiece => simp [EventKind.IsPiece] at hpiece
  | opening => rfl

theorem eof_mem (h : Shift inside .eof inside') : [.eof] ∈ leftReports inside := by
  cases h with
  | eof => exact eof_mem_textReports
  | piece hpiece => simp [EventKind.IsPiece] at hpiece
  | part hpart => simp [EventKind.IsPart] at hpart

theorem cons_mem (h : Shift inside kind inside') (hkind : kind ≠ .eof)
    (hw : w ∈ leftReports inside') : kind :: w ∈ leftReports inside := by
  cases h with
  | eof => exact absurd rfl hkind
  | piece hpiece => exact cons_mem_textReports hpiece hw
  | opening => exact opening_mem_textReports hw
  | part hpart => exact cons_mem_insideReports hpart hw
  | closing => exact closing_mem_insideReports hw

end Shift

theorem last_readCode {kind : EventKind} {width : Nat} {code : Text}
    (h : r.readCode kind width code = .ok r') :
    r'.last.kind = kind ∧ r'.inDirective = r.inDirective := by
  unfold readCode at h
  dsimp only at h
  split at h
  · cases h
  · cases h
    exact ⟨rfl, rfl⟩

theorem shift_readCode {kind : EventKind} {width : Nat} {code : Text} (hout : r.inDirective = false)
    (hkind : kind.IsPiece) (h : r.readCode kind width code = .ok r') :
    Shift r.inDirective r'.last.kind r'.inDirective := by
  obtain ⟨hlast, hinside⟩ := last_readCode h
  rw [hlast, hinside, hout]
  exact .piece hkind

theorem shift_advanceText (hout : r.inDirective = false) (h : r.advanceText = .ok r') :
    Shift r.inDirective r'.last.kind r'.inDirective := by
  unfold advanceText at h
  split at h
  · cases h
    rw [hout]
    exact .eof
  · cases h
    rw [hout]
    exact .opening
  · exact shift_readCode hout (.inr (.inl rfl)) h
  · exact shift_readCode hout (.inr (.inr (.inr rfl))) h
  · exact shift_readCode hout (.inr (.inr (.inl rfl))) h
  · cases h
    have hcontent : r.readContent.last.kind = .content ∧ r.readContent.inDirective = false := by
      unfold readContent
      exact ⟨rfl, hout⟩
    rw [hout, hcontent.1, hcontent.2]
    exact .piece (.inl rfl)

theorem inDirective_nextToken {t : DirectiveToken} (h : r.nextToken = .ok (some (t, r'))) :
    r'.inDirective = r.inDirective := by
  unfold nextToken at h
  split at h
  · cases h
  · split at h
    · cases h
    · cases h
      rfl

theorem shift_advanceDirective (hin : r.inDirective = true) (h : r.advanceDirective = .ok r') :
    Shift r.inDirective r'.last.kind r'.inDirective := by
  unfold advanceDirective at h
  dsimp only at h
  rw [hin]
  split at h
  · cases h
  · cases h
  · cases h
    exact .closing
  · next text behind hnext =>
    cases h
    have hinside : behind.inDirective = true := (inDirective_nextToken hnext).trans hin
    dsimp only
    rw [hinside]
    exact .part (.inl rfl)
  · next behind hnext =>
    have hbehind : behind.inDirective = true := (inDirective_nextToken hnext).trans hin
    split at h
    · cases h
    · next after hvalue =>
      cases h
      have hinside : after.inDirective = true := (inDirective_nextToken hvalue).trans hbehind
      dsimp only
      rw [hinside]
      exact .part (.inr rfl)
    · cases h
  · cases h

/-- **One call** leads from text into a tag and back as its report says. -/
theorem shift_advance (hlive : r.last.kind ≠ .eof) (h : r.advance = .ok r') :
    Shift r.inDirective r'.last.kind r'.inDirective := by
  unfold advance at h
  rw [if_neg hlive] at h
  split at h
  · next hin => exact shift_advanceDirective hin h
  · next hout => exact shift_advanceText (by simpa using hout) h

/-! ## Two runs of text are never reported in a row -/

/-- A run of text ends at a tag or at the end of the text. -/
theorem rest_before (a b : UInt8) (escaped : Bool) (s : Text) :
    (Region.before a b escaped s).rest = [] ∨ [a, b] <+: (Region.before a b escaped s).rest := by
  induction s generalizing escaped with
  | nil => exact .inl rfl
  | cons c s ih =>
    rw [Region.before]
    split
    · next h =>
      rw [Bool.and_eq_true] at h
      exact .inr (List.isPrefixOf_iff_prefix.1 h.2)
    · split
      · exact ih true
      · exact ih false

/-- Whether no run of text starts at a reader. -/
def PastText (r : Reader) : Prop :=
  r.inDirective = false ∧ (r.rest = [] ∨ Grammar.tagStart <+: r.rest)

/-- Text is reported where there is some and no tag starts. -/
theorem advanceText_content (h : r.advanceText = .ok r') (hcontent : r'.last.kind = .content) :
    r' = r.readContent ∧ ¬r.PastText := by
  have hother {kind : EventKind} {width : Nat} {code : Text} (hkind : kind ≠ .content)
      (h : r.readCode kind width code = .ok r') : False :=
    hkind ((last_readCode h).1.symm.trans hcontent)
  unfold advanceText at h
  split at h
  · cases h
    cases hcontent
  · cases h
    cases hcontent
  · exact (hother (by decide) h).elim
  · exact (hother (by decide) h).elim
  · exact (hother (by decide) h).elim
  · next hnil _ _ _ htag =>
    cases h
    refine ⟨rfl, ?_⟩
    rintro ⟨-, hrest | ⟨s, hs⟩⟩
    · exact hnil hrest
    · exact htag s hs.symm

/-- Behind a run of text the next call reports none. -/
theorem pastText_of_content (hlive : r.last.kind ≠ .eof) (h : r.advance = .ok r')
    (hcontent : r'.last.kind = .content) : r'.PastText := by
  have hshift := shift_advance hlive h
  unfold advance at h
  rw [if_neg hlive] at h
  cases hin : r.inDirective with
  | true =>
    rw [hin] at hshift
    exact absurd hcontent hshift.ne_content
  | false =>
    rw [hin, if_neg Bool.false_ne_true] at h
    obtain ⟨rfl, -⟩ := advanceText_content h hcontent
    unfold readContent
    exact ⟨hin, rest_before 0x3C 0x23 false r.rest⟩

theorem kind_ne_content (hlive : r.last.kind ≠ .eof) (hpast : r.PastText)
    (h : r.advance = .ok r') : r'.last.kind ≠ .content := by
  intro hcontent
  unfold advance at h
  rw [if_neg hlive, hpast.1, if_neg Bool.false_ne_true] at h
  exact (advanceText_content h hcontent).2 hpast

/-! ## All reports -/

/-- **The word of a run**: up to the end of the text it is complete, and up to a fault it can be
completed. -/
theorem exists_word (hlive : r.last.kind ≠ .eof) : ∃ more,
    r.run.1.map Event.kind ++ more ∈ leftReports r.inDirective ∧ (r.run.2 = none → more = []) := by
  fun_induction run r with
  | case1 r heof => exact absurd heof hlive
  | case2 r =>
    obtain ⟨more, hmore⟩ := exists_mem_leftReports r.inDirective
    exact ⟨more, hmore, nofun⟩
  | case3 r hlive r' h events fault hrun ih =>
    have hshift := shift_advance hlive h
    by_cases heof : r'.last.kind = .eof
    · rw [Grammar.run_of_eof heof] at hrun
      cases hrun
      rw [heof] at hshift
      exact ⟨[], by simpa [heof] using hshift.eof_mem, fun _ => rfl⟩
    · obtain ⟨more, hword, hnone⟩ := ih heof
      rw [hrun] at hword hnone
      exact ⟨more, hshift.cons_mem heof hword, hnone⟩

/-- Whether two reports are not both of runs of text. -/
def Apart (e e' : Event) : Prop := ¬(e.kind = .content ∧ e'.kind = .content)

theorem head_run (hpast : r.PastText) : ∀ e ∈ r.run.1.head?, e.kind ≠ .content := by
  intro e he
  by_cases hlive : r.last.kind = .eof
  · rw [Grammar.run_of_eof hlive] at he
    cases he
  cases h : r.advance with
  | error err =>
    rw [Grammar.run_of_error hlive h] at he
    cases he
  | ok r' =>
    rw [Grammar.run_of_ok hlive h] at he
    obtain rfl := Option.some.inj he
    exact kind_ne_content hlive hpast h

theorem isChain_run (r : Reader) : r.run.1.IsChain Apart := by
  fun_induction run r with
  | case1 => exact .nil
  | case2 => exact .nil
  | case3 r hlive r' h events fault hrun ih =>
    rw [hrun] at ih
    refine List.isChain_cons.2 ⟨fun e he => ?_, ih⟩
    rintro ⟨hcontent, hcontent'⟩
    have hpast := pastText_of_content hlive h hcontent
    exact head_run hpast e (by rw [hrun]; exact he) hcontent'

/-! ## Calls -/

/-- Calls one after the other: what they report, and the reader behind them or the fault that the
last of them met. -/
def calls : Nat → Reader → List Event × Except ScanError Reader
  | 0, r => ([], .ok r)
  | n + 1, r =>
    match r.advance with
    | .error e => ([], .error e)
    | .ok r' => (r'.last :: (r'.calls n).1, (r'.calls n).2)

/-- **At the end** every further call reports the end and leaves the reader as it is. -/
theorem calls_of_eof (heof : r.last.kind = .eof) (n : Nat) :
    r.calls n = (.replicate n r.last, .ok r) := by
  induction n with
  | zero => rfl
  | succ n ih =>
    have hadvance : r.advance = .ok r := by
      unfold advance
      rw [if_pos heof]
    simp only [calls, hadvance, ih, List.replicate_succ]

/-- Whether calls have led to the end of the text or to a fault, as a run tells. -/
def Ended : Option ScanError → Except ScanError Reader → Prop
  | some e, .error e' => e = e'
  | none, .ok r => r.last.kind = .eof
  | _, _ => False

/-- **The calls of a run**: no more than its size. -/
theorem exists_calls (hlive : r.last.kind ≠ .eof) :
    ∃ n ≤ r.size, (r.calls n).1 = r.run.1 ∧ Ended r.run.2 (r.calls n).2 := by
  fun_induction run r with
  | case1 r heof => exact absurd heof hlive
  | case2 r _ e h =>
    have hpos : 1 ≤ r.size := by
      unfold size
      rw [if_neg hlive]
      exact Nat.le_add_left _ _
    refine ⟨1, hpos, ?_⟩
    simp only [calls, h]
    exact ⟨trivial, rfl⟩
  | case3 r hlive r' h events fault hrun ih =>
    have hlt := advance_size_lt hlive h
    by_cases heof : r'.last.kind = .eof
    · rw [Grammar.run_of_eof heof] at hrun
      cases hrun
      refine ⟨1, Nat.one_le_of_lt hlt, ?_⟩
      simp only [calls, h]
      exact ⟨trivial, heof⟩
    · obtain ⟨k, hk, hreports, hended⟩ := ih heof
      rw [hrun] at hreports hended
      refine ⟨k + 1, Nat.lt_of_le_of_lt hk hlt, ?_⟩
      simp only [calls, h]
      exact ⟨congrArg _ hreports, hended⟩

/-- Whether some calls lead to the end of the text or to a fault, report the kinds of a word or, up
to a fault, the start of one, and no two runs of text in a row; and whether at the end of the text
further calls report the end and change nothing. -/
structure WellReported (r : Reader) (n : Nat) : Prop where
  ended : (∃ e, (r.calls n).2 = .error e) ∨
    ∃ r', (r.calls n).2 = .ok r' ∧ r'.last.kind = .eof ∧
      (r.calls n).1.map Event.kind ∈ textReports ∧ ∀ m, r'.calls m = (.replicate m r'.last, .ok r')
  word : ∃ more, (r.calls n).1.map Event.kind ++ more ∈ textReports
  apart : (r.calls n).1.IsChain Apart

theorem exists_wellReported (hout : r.inDirective = false) (hlive : r.last.kind ≠ .eof) :
    ∃ n ≤ r.size, r.WellReported n := by
  obtain ⟨n, hn, hreports, hended⟩ := exists_calls hlive
  obtain ⟨more, hword, hcomplete⟩ := exists_word hlive
  rw [hout] at hword
  refine ⟨n, hn, ?_, ⟨more, hreports ▸ hword⟩, hreports ▸ isChain_run r⟩
  cases houtcome : (r.calls n).2 with
  | error e => exact .inl ⟨e, rfl⟩
  | ok r' =>
    rw [houtcome] at hended
    cases hfault : r.run.2 with
    | some e =>
      rw [hfault] at hended
      exact hended.elim
    | none =>
      rw [hfault] at hended
      rw [hcomplete hfault, List.append_nil] at hword
      exact .inr ⟨r', rfl, hended, hreports ▸ hword, calls_of_eof hended⟩

end Reader
end TextTemplate
