/-
Reports of two texts: when a report is empty.

The line comparison is empty exactly between equal texts (`lines_eq_nil_iff`): the script it marks
leads from one to the other, and a script that keeps every line leads from a text to itself. But a
report compares the texts as they are shown, with carriage returns and tabs spelled out, and a text
that spells one out itself is shown the same. `ShownAlike` says which texts are, and a report is
empty between these (`textsBy_eq_nil_iff`).
-/
import TextTemplate.Diff.Report
import TextTemplate.Proofs.Diff.Script
import TextTemplate.Proofs.Text.Basic

namespace TextTemplate.Diff

variable {s t : Text} {old new : Text}

/-! ## The line comparison -/

theorem render_ne_nil (e : Edit) : ∃ b line, b ≠ 0x0A ∧ e.render = b :: line := by
  cases e with
  | keep line => exact ⟨0x20, _, by decide, rfl⟩
  | add line => exact ⟨0x2B, _, by decide, rfl⟩
  | remove line => exact ⟨0x2D, _, by decide, rfl⟩

/-- **The line comparison hides nothing**: it is empty exactly between equal texts. -/
theorem lines_eq_nil_iff : lines old new = [] ↔ old = new := by
  obtain ⟨hold, hnew⟩ := shortest_lines (Text.pieces 0x0A old) (Text.pieces 0x0A new)
  constructor
  · intro h
    rw [lines] at h
    split at h
    · next hkept =>
      have hpieces : Text.pieces 0x0A old = Text.pieces 0x0A new :=
        hold.symm.trans ((oldLines_eq_newLines hkept).trans hnew)
      rw [← Text.join_pieces 0x0A old, hpieces, Text.join_pieces]
    · next hchanged =>
      -- a script that does not keep every line has a step, and its mark stays
      obtain ⟨e, script, hscript⟩ := List.exists_cons_of_ne_nil
        (l := shortest (Text.pieces 0x0A old) (Text.pieces 0x0A new))
        (fun hnil => hchanged (by rw [hnil]; rfl))
      obtain ⟨b, line, hb, hrender⟩ := render_ne_nil e
      rw [hscript, List.flatMap_cons, hrender] at h
      exact absurd h (Text.dropEndWhile_cons_ne_nil (by simpa using hb) _)
  · rintro rfl
    -- the script of a text and itself keeps every line
    exact if_pos (by simp [shortest_self])

/-! ## Texts as they are shown -/

/-- The letter that stands for a control character behind a backslash, if it is shown so. -/
def letter? (b : UInt8) : Option UInt8 :=
  if b = 0x0D then some 0x72 else if b = 0x09 then some 0x74 else none

/-- Two texts are shown alike: they agree byte for byte, but that one of them may spell out a
carriage return or a tab where the other holds it. -/
inductive ShownAlike : Text → Text → Prop where
  | nil : ShownAlike [] []
  | same (b : UInt8) {s t : Text} (h : ShownAlike s t) : ShownAlike (b :: s) (b :: t)
  | left {b l : UInt8} {s t : Text} (hb : letter? b = some l) (h : ShownAlike s t) :
    ShownAlike (0x5C :: l :: s) (b :: t)
  | right {b l : UInt8} {s t : Text} (hb : letter? b = some l) (h : ShownAlike s t) :
    ShownAlike (b :: s) (0x5C :: l :: t)

theorem letter?_eq_some {b l : UInt8} :
    letter? b = some l ↔ (b = 0x0D ∧ l = 0x72) ∨ (b = 0x09 ∧ l = 0x74) := by
  unfold letter?
  split
  · next hcr => simp [hcr, eq_comm]
  · next hcr =>
    split
    · next htab => simp [htab, eq_comm]
    · next htab => simp [hcr, htab]

theorem visible_of_letter {b l : UInt8} (hb : letter? b = some l) (s : Text) :
    visible (b :: s) = 0x5C :: l :: visible s := by
  rcases letter?_eq_some.1 hb with ⟨rfl, rfl⟩ | ⟨rfl, rfl⟩
  · rfl
  · rfl

theorem visible_of_none {b : UInt8} (hb : letter? b = none) (s : Text) :
    visible (b :: s) = b :: visible s := by
  have hcr : b ≠ 0x0D := by
    rintro rfl
    cases hb
  have htab : b ≠ 0x09 := by
    rintro rfl
    cases hb
  simp [visible, hcr, htab]

theorem visible_cons_ne_nil (b : UInt8) (s : Text) : visible (b :: s) ≠ [] := by
  cases hb : letter? b with
  | some l =>
    rw [visible_of_letter hb]
    exact List.cons_ne_nil _ _
  | none =>
    rw [visible_of_none hb]
    exact List.cons_ne_nil _ _

/-- A spelled control character is shown as it stands. -/
theorem visible_spelled {b l : UInt8} (hb : letter? b = some l) (s : Text) :
    visible (0x5C :: l :: s) = 0x5C :: l :: visible s := by
  rcases letter?_eq_some.1 hb with ⟨rfl, rfl⟩ | ⟨rfl, rfl⟩
  · rfl
  · rfl

theorem ShownAlike.visible_eq (h : ShownAlike s t) : visible s = visible t := by
  induction h with
  | nil => rfl
  | same b _ ih => exact congrArg (_ ++ ·) ih
  | left hb _ ih => rw [visible_spelled hb, visible_of_letter hb, ih]
  | right hb _ ih => rw [visible_spelled hb, visible_of_letter hb, ih]

/-- What starts with another byte than a backslash is shown as it is there. -/
theorem exists_of_visible_eq_cons {l : UInt8} {u : Text} (h : visible t = l :: u) (hl : l ≠ 0x5C) :
    ∃ t', t = l :: t' ∧ visible t' = u := by
  cases t with
  | nil => cases h
  | cons c t =>
    cases hc : letter? c with
    | some l' =>
      rw [visible_of_letter hc] at h
      exact absurd (List.cons.inj h).1.symm hl
    | none =>
      rw [visible_of_none hc] at h
      obtain ⟨rfl, hrest⟩ := List.cons.inj h
      exact ⟨t, rfl, hrest⟩

theorem letter_ne_backslash {b l : UInt8} (hb : letter? b = some l) : l ≠ 0x5C := by
  rcases letter?_eq_some.1 hb with ⟨-, rfl⟩ | ⟨-, rfl⟩
  · decide
  · decide

theorem letter?_inj {b c l : UInt8} (hb : letter? b = some l) (hc : letter? c = some l) :
    b = c := by
  rcases letter?_eq_some.1 hb with ⟨rfl, rfl⟩ | ⟨rfl, rfl⟩
  · simpa [eq_comm] using letter?_eq_some.1 hc
  · simpa [eq_comm] using letter?_eq_some.1 hc

/-- A control character is met by itself or by its spelling. -/
theorem exists_of_letter {b l : UInt8} (hb : letter? b = some l)
    (h : visible (b :: s) = visible t) :
    ∃ t', (t = b :: t' ∨ t = 0x5C :: l :: t') ∧ visible s = visible t' := by
  rw [visible_of_letter hb] at h
  cases t with
  | nil => cases h
  | cons c t =>
    cases hc : letter? c with
    | some l' =>
      rw [visible_of_letter hc] at h
      obtain ⟨rfl, hrest⟩ := List.cons.inj (List.cons.inj h).2
      exact ⟨t, .inl (by rw [letter?_inj hb hc]), hrest⟩
    | none =>
      rw [visible_of_none hc] at h
      obtain ⟨rfl, hrest⟩ := List.cons.inj h
      obtain ⟨t', rfl, hshown⟩ := exists_of_visible_eq_cons hrest.symm (letter_ne_backslash hb)
      exact ⟨t', .inr rfl, hshown.symm⟩

theorem shownAlike_of_visible_eq (s t : Text) (h : visible s = visible t) : ShownAlike s t := by
  cases s with
  | nil =>
    cases t with
    | nil => exact .nil
    | cons c t => exact absurd h.symm (visible_cons_ne_nil c t)
  | cons b s =>
    cases hb : letter? b with
    | some l =>
      obtain ⟨t', rfl | rfl, hrest⟩ := exists_of_letter hb h
      · exact .same b (shownAlike_of_visible_eq s t' hrest)
      · exact .right hb (shownAlike_of_visible_eq s t' hrest)
    | none =>
      cases t with
      | nil => exact absurd h (visible_cons_ne_nil b s)
      | cons c t =>
        cases hc : letter? c with
        | some l =>
          obtain ⟨s', hs | hs, hrest⟩ := exists_of_letter hc h.symm
          · obtain ⟨rfl, rfl⟩ := List.cons.inj hs
            rw [hb] at hc
            cases hc
          · obtain ⟨rfl, rfl⟩ := List.cons.inj hs
            exact .left hc (shownAlike_of_visible_eq s' t hrest.symm)
        | none =>
          rw [visible_of_none hb, visible_of_none hc] at h
          obtain ⟨rfl, hrest⟩ := List.cons.inj h
          exact .same b (shownAlike_of_visible_eq s t hrest)
termination_by s.length

theorem visible_eq_iff : visible s = visible t ↔ ShownAlike s t :=
  ⟨shownAlike_of_visible_eq s t, ShownAlike.visible_eq⟩

/-- No carriage return and no tab is spelled out in the text. -/
def SpellsNone (s : Text) : Prop := ∀ u b l v, letter? b = some l → s ≠ u ++ 0x5C :: l :: v

theorem SpellsNone.tail {b : UInt8} (h : SpellsNone (b :: s)) : SpellsNone s := by
  intro u c l v hc hs
  exact h (b :: u) c l v hc (by rw [hs]; rfl)

/-- A text without a backslash spells out nothing. -/
theorem spellsNone_of_not_mem (h : 0x5C ∉ s) : SpellsNone s := by
  rintro u b l v - rfl
  simp at h

/-- Texts that spell out nothing are shown alike only if they are equal. -/
theorem ShownAlike.eq (h : ShownAlike s t) (hs : SpellsNone s) (ht : SpellsNone t) : s = t := by
  induction h with
  | nil => rfl
  | same b _ ih => rw [ih hs.tail ht.tail]
  | left hb => exact absurd rfl (hs [] _ _ _ hb)
  | right hb => exact absurd rfl (ht [] _ _ _ hb)

/-! ## Reports -/

theorem report_eq_nil_iff {marked : Text} : report marked = [] ↔ marked = [] := by
  rw [report]
  split
  · next hempty => simpa using hempty
  · next hmarked =>
    have hheading : heading ≠ [] := by decide
    simpa [hheading] using hmarked

/-- **When a report is empty.** With a line comparison that is empty exactly between equal texts, a
report of two texts is empty exactly if they are shown alike: a difference is hidden where one text
spells out the carriage return or the tab that the other holds, and nowhere else. Between texts that
spell out none, it is empty exactly if they are equal. -/
theorem textsBy_eq_nil_iff {compare : (old new : Text) → Text}
    (hcompare : ∀ old new, compare old new = [] ↔ old = new) (want got : Text) :
    (textsBy compare want got = [] ↔ ShownAlike want got) ∧
      (SpellsNone want → SpellsNone got → (textsBy compare want got = [] ↔ want = got)) := by
  have halike : textsBy compare want got = [] ↔ ShownAlike want got := by
    rw [← visible_eq_iff, textsBy]
    split
    · next heq => simp [heq]
    · rw [report_eq_nil_iff, hcompare]
      exact eq_comm
  refine ⟨halike, fun hwant hgot => halike.trans ⟨fun h => h.eq hwant hgot, ?_⟩⟩
  rintro rfl
  exact visible_eq_iff.1 rfl

/-- The line comparison of the library: a line end that changed is reported, a carriage return that
is spelled out is not. -/
theorem textsBy_eq_nil_iff_lines :
    (∀ old new, lines old new = [] ↔ old = new) ∧
      SpellsNone (utf8 "a\n") ∧ SpellsNone (utf8 "a\r\n") ∧
      textsBy lines (utf8 "a\n") (utf8 "a\r\n") ≠ [] ∧
      textsBy lines (utf8 "a\\r\n") (utf8 "a\r\n") = [] := by
  have hlines (old new : Text) : lines old new = [] ↔ old = new := lines_eq_nil_iff
  have hwant : SpellsNone (utf8 "a\n") := spellsNone_of_not_mem (by decide)
  have hgot : SpellsNone (utf8 "a\r\n") := spellsNone_of_not_mem (by decide)
  have halike : ShownAlike (utf8 "a\\r\n") (utf8 "a\r\n") :=
    .same 0x61 (.left rfl (.same 0x0A .nil))
  refine ⟨hlines, hwant, hgot, fun h => ?_, (textsBy_eq_nil_iff hlines _ _).1.2 halike⟩
  exact absurd (((textsBy_eq_nil_iff hlines _ _).2 hwant hgot).1 h) (by decide)

/-- Two texts that differ and are reported as equal: one holds a carriage return, the other spells
it out. -/
theorem texts_hides_carriage_return :
    utf8 "a\\r\n" ≠ utf8 "a\r\n" ∧ texts (utf8 "a\\r\n") (utf8 "a\r\n") = [] := by
  decide +kernel

end TextTemplate.Diff
