/-
Lines of texts. A template breaks its lines at LF, and a CR right before one belongs to the break;
`pieces` cuts it so and `lines_induction` goes through it line by line. The generated language also
ends a line at any other CR, at U+0085, U+2028 and U+2029; `physicalLines` cuts a text as its
compiler does. Lines can be cut one part after the other wherever the parts do not meet inside a
line end (`physicalLines_append`).

What is around the code of a line is blank: `exists_trim` says what trimming takes away.
-/
import Mathlib.Data.List.TakeWhile
import TextTemplate.Text.Blank
import TextTemplate.Proofs.Code.Quoting
import TextTemplate.Proofs.Text.Counting

namespace TextTemplate
namespace Text

open Literal (wideEnds startsWide)

/-! ## Lines of a template -/

theorem pieces_of_not_mem {sep : UInt8} {s : Text} (h : sep ∉ s) : pieces sep s = [s] := by
  induction s with
  | nil => rfl
  | cons b s ih =>
    obtain ⟨hb, hs⟩ := not_or.1 (mt List.mem_cons.2 h)
    rw [pieces, if_neg (fun h => hb h.symm), ih hs]

theorem pieces_append_cons {sep : UInt8} {u : Text} (h : sep ∉ u) (v : Text) :
    pieces sep (u ++ sep :: v) = u :: pieces sep v := by
  induction u with
  | nil => simp [pieces]
  | cons b u ih =>
    obtain ⟨hb, hu⟩ := not_or.1 (mt List.mem_cons.2 h)
    rw [List.cons_append, pieces, if_neg (fun h => hb h.symm), ih hu]

/-- Induction over the lines of a text. -/
theorem lines_induction {motive : Text → Prop} (s : Text) (last : ∀ s, 0x0A ∉ s → motive s)
    (line : ∀ u v, 0x0A ∉ u → motive v → motive (u ++ 0x0A :: v)) : motive s := by
  induction hn : s.length using Nat.strongRecOn generalizing s with
  | ind n ih =>
    by_cases hlf : 0x0A ∈ s
    · obtain ⟨u, v, rfl, hu⟩ := List.eq_append_cons_of_mem hlf
      exact line u v hu (ih v.length (by simp at hn; omega) v rfl)
    · exact last s hlf

/-! ## Physical lines -/

/-- The lines of a text as a compiler counts them. A line ends at CR LF, CR, LF, U+0085, U+2028 or
U+2029. -/
def physicalLines : Text → List Text
  | 0x0D :: 0x0A :: s => [] :: physicalLines s
  | 0xC2 :: 0x85 :: s => [] :: physicalLines s
  | 0xE2 :: 0x80 :: 0xA8 :: s => [] :: physicalLines s
  | 0xE2 :: 0x80 :: 0xA9 :: s => [] :: physicalLines s
  | b :: s =>
    if b = 0x0D ∨ b = 0x0A then [] :: physicalLines s else (physicalLines s).modifyHead (b :: ·)
  | [] => [[]]

/-- The lines that a text ends. -/
def endedLines (s : Text) : List Text := s.physicalLines.dropLast

/-- How many lines a text ends. -/
def lineEnds (s : Text) : Nat := s.physicalLines.length - 1

theorem length_endedLines (s : Text) : s.endedLines.length = s.lineEnds := List.length_dropLast

/-- Whether a text ends no line. -/
def Unbroken (s : Text) : Prop := s.physicalLines = [s]

/-- Whether a line end of one part goes on in another. -/
def Splits (s t : Text) : Prop := s.getLast? = some 0x0D ∧ t.head? = some 0x0A

theorem physicalLines_cons {b : UInt8} {s : Text} (hcr : b = 0x0D → s.head? ≠ some 0x0A)
    (hwide : startsWide (b :: s) = false) :
    physicalLines (b :: s) = if b = 0x0D ∨ b = 0x0A then [] :: physicalLines s
      else (physicalLines s).modifyHead (b :: ·) := by
  rw [physicalLines.eq_def]
  split <;> simp_all [startsWide, wideEnds]

/-- Induction along the cuts: a text starts with a line end that is one whatever follows it, or with
a byte of which the next bytes make no line end. -/
theorem physicalLines_induction {motive : Text → Prop} (s : Text) (nil : motive [])
    (ended : ∀ e s, (∀ t, physicalLines (e ++ t) = [] :: physicalLines t) → motive s →
      motive (e ++ s))
    (cons : ∀ b s, (b = 0x0D → s.head? ≠ some 0x0A) → startsWide (b :: s) = false → motive s →
      motive (b :: s)) : motive s := by
  have step {b : UInt8} {s : Text} (hcr : ∀ t, b = 0x0D → s = 0x0A :: t → False)
      (hnel : ∀ t, b = 0xC2 → s = 0x85 :: t → False)
      (hls : ∀ t, b = 0xE2 → s = 0x80 :: 0xA8 :: t → False)
      (hps : ∀ t, b = 0xE2 → s = 0x80 :: 0xA9 :: t → False) (ih : motive s) : motive (b :: s) := by
    refine cons b s (fun hb hlf => ?_) (Bool.eq_false_iff.2 fun hwide => ?_) ih
    · obtain ⟨t, rfl⟩ := List.head?_eq_some_iff.1 hlf
      exact hcr t hb rfl
    · obtain ⟨t, ht | ht | ht⟩ := Literal.exists_of_startsWide hwide
      · exact hnel t (List.cons.inj ht).1 (List.cons.inj ht).2
      · exact hls t (List.cons.inj ht).1 (List.cons.inj ht).2
      · exact hps t (List.cons.inj ht).1 (List.cons.inj ht).2
  fun_induction physicalLines s with
  | case1 s ih => exact ended [0x0D, 0x0A] s (fun _ => rfl) ih
  | case2 s ih => exact ended [0xC2, 0x85] s (fun _ => rfl) ih
  | case3 s ih => exact ended [0xE2, 0x80, 0xA8] s (fun _ => rfl) ih
  | case4 s ih => exact ended [0xE2, 0x80, 0xA9] s (fun _ => rfl) ih
  | case5 b s hcr hnel hls hps hb ih => exact step hcr hnel hls hps ih
  | case6 b s hcr hnel hls hps hb ih => exact step hcr hnel hls hps ih
  | case7 => exact nil

theorem physicalLines_ne_nil (s : Text) : physicalLines s ≠ [] := by
  fun_induction physicalLines s <;> simp_all

theorem not_mem_physicalLines (s : Text) : ∀ x ∈ physicalLines s, 0x0D ∉ x ∧ 0x0A ∉ x := by
  induction s using physicalLines_induction with
  | nil => simp [physicalLines]
  | ended e s he ih =>
    rw [he]
    exact List.forall_mem_cons.2 ⟨by simp, ih⟩
  | cons b s hcr hwide ih =>
    rw [physicalLines_cons hcr hwide]
    split
    · exact List.forall_mem_cons.2 ⟨by simp, ih⟩
    · next hb =>
      obtain ⟨x, xs, hs⟩ := List.exists_cons_of_ne_nil (physicalLines_ne_nil s)
      rw [hs] at ih ⊢
      obtain ⟨hx, hxs⟩ := List.forall_mem_cons.1 ih
      refine List.forall_mem_cons.2 ⟨?_, hxs⟩
      simp only [List.mem_cons, not_or]
      exact ⟨⟨fun h => hb (.inl h.symm), hx.1⟩, fun h => hb (.inr h.symm), hx.2⟩

/-! ### Part by part -/

/-- A line end beyond ASCII does not go on in another part when one of the parts is ASCII where they
meet. -/
theorem startsWide_append {b : UInt8} {s t : Text} (h : Joins (b :: s) t) :
    startsWide (b :: (s ++ t)) = startsWide (b :: s) := by
  match s, t with
  | s, [] => rw [List.append_nil]
  | [], c :: t =>
    have hlow : b < 0x80 ∨ c < 0x80 := h b c rfl rfl
    simp only [startsWide, wideEnds, List.any_cons, List.any_nil, List.isPrefixOf, List.nil_append]
    grind
  | [a], c :: t =>
    have hlow : a < 0x80 ∨ c < 0x80 := h a c rfl rfl
    simp only [startsWide, wideEnds, List.any_cons, List.any_nil, List.isPrefixOf, List.cons_append,
      List.nil_append]
    grind
  | _ :: _ :: _, _ :: _ => simp [startsWide, wideEnds, List.isPrefixOf]

theorem Splits.append {s t : Text} (h : Splits s t) (e : Text) : Splits (e ++ s) t :=
  ⟨by rw [List.getLast?_append, h.1, Option.some_or], h.2⟩

theorem not_splits_append {e s t : Text} (hs : ¬Splits e s) (ht : ¬Splits e t) :
    ¬Splits e (s ++ t) := by
  cases s with
  | nil => exact ht
  | cons b s => exact hs

theorem not_splits_append_of_ne_nil {e s : Text} (hne : s ≠ []) (hs : ¬Splits e s) (t : Text) :
    ¬Splits e (s ++ t) := by
  obtain ⟨b, s, rfl⟩ := List.exists_cons_of_ne_nil hne
  exact hs

/-- **Lines part by part**: the last line of the first part goes on in the first line of the
second. -/
theorem physicalLines_append {s t : Text} (hjoins : Joins s t) (hsplits : ¬Splits s t) :
    ∃ lines last, physicalLines s = lines ++ [last] ∧
      physicalLines (s ++ t) = lines ++ (physicalLines t).modifyHead (last ++ ·) := by
  induction s using physicalLines_induction with
  | nil =>
    obtain ⟨x, xs, ht⟩ := List.exists_cons_of_ne_nil (physicalLines_ne_nil t)
    exact ⟨[], [], rfl, by simp [ht]⟩
  | ended e s he ih =>
    obtain ⟨lines, last, hs, hst⟩ := ih hjoins.of_append fun h => hsplits (h.append e)
    refine ⟨[] :: lines, last, by rw [he, hs]; rfl, ?_⟩
    rw [List.append_assoc, he, hst]
    rfl
  | cons b s hcr hwide ih =>
    obtain ⟨lines, last, hs, hst⟩ :=
      ih (Joins.of_append (t := [b]) hjoins) fun h => hsplits (h.append [b])
    have hcr' : b = 0x0D → (s ++ t).head? ≠ some 0x0A := by
      intro hb hlf
      cases s with
      | nil => exact hsplits ⟨by rw [hb]; rfl, hlf⟩
      | cons c s => exact hcr hb hlf
    rw [List.cons_append, physicalLines_cons hcr hwide,
      physicalLines_cons hcr' ((startsWide_append hjoins).trans hwide), hs, hst]
    split
    · exact ⟨[] :: lines, last, rfl, rfl⟩
    · cases lines with
      | nil => exact ⟨[], b :: last, rfl, by simp [Function.comp_def]⟩
      | cons x lines => exact ⟨(b :: x) :: lines, last, rfl, rfl⟩

/-! ### Unbroken text -/

theorem Unbroken.not_mem {x : Text} (h : Unbroken x) : 0x0D ∉ x ∧ 0x0A ∉ x :=
  not_mem_physicalLines x x (h ▸ List.mem_singleton_self x)

/-- Text without any of the bytes of a line end. -/
theorem unbroken_of_narrow {x : Text} (hcr : 0x0D ∉ x) (hlf : 0x0A ∉ x)
    (hwide : ∀ w ∈ wideEnds, ¬w <:+: x) : Unbroken x := by
  induction x with
  | nil => rfl
  | cons b x ih =>
    obtain ⟨hb, hx⟩ := not_or.1 (mt List.mem_cons.2 hcr)
    obtain ⟨hb', hx'⟩ := not_or.1 (mt List.mem_cons.2 hlf)
    have hrest : physicalLines x = [x] :=
      ih hx hx' fun w hw h => hwide w hw (h.trans (List.suffix_cons b x).isInfix)
    have hnarrow : startsWide (b :: x) = false := by
      refine List.any_eq_false.2 fun w hw h => hwide w hw ?_
      exact (List.isPrefixOf_iff_prefix.1 h).isInfix
    have hline : ¬(b = 0x0D ∨ b = 0x0A) := fun h => h.elim (hb ·.symm) (hb' ·.symm)
    rw [Unbroken, physicalLines_cons (fun h => absurd h.symm hb) hnarrow, hrest, if_neg hline]
    rfl

/-- Whether a text is ASCII without CR and LF. -/
def isAsciiLine (x : Text) : Bool := x.all fun b => b < 0x80 && b != 0x0D && b != 0x0A

theorem isAsciiLine_iff {x : Text} :
    x.isAsciiLine = true ↔ ∀ b ∈ x, b < 0x80 ∧ b ≠ 0x0D ∧ b ≠ 0x0A := by
  simp [isAsciiLine, and_assoc]

/-- ASCII without CR and LF. -/
theorem unbroken_of_ascii {x : Text} (h : ∀ b ∈ x, b < 0x80 ∧ b ≠ 0x0D ∧ b ≠ 0x0A) :
    Unbroken x := by
  refine unbroken_of_narrow (fun hm => (h _ hm).2.1 rfl) (fun hm => (h _ hm).2.2 rfl) ?_
  intro w hw hin
  have hhigh : ∀ w ∈ wideEnds, ∃ b ∈ w, ¬b < 0x80 := by decide
  obtain ⟨b, hb, hge⟩ := hhigh w hw
  exact hge (h b (hin.subset hb)).1

theorem unbroken_of_isAsciiLine {x : Text} (h : x.isAsciiLine = true) : Unbroken x :=
  unbroken_of_ascii (isAsciiLine_iff.1 h)

theorem Unbroken.physicalLines_append {x : Text} (h : Unbroken x) {t : Text} (hjoins : Joins x t) :
    physicalLines (x ++ t) = (physicalLines t).modifyHead (x ++ ·) := by
  have hsplits : ¬Splits x t := fun hs => h.not_mem.1 (List.mem_of_getLast? hs.1)
  obtain ⟨lines, last, hx, hxt⟩ := Text.physicalLines_append hjoins hsplits
  rw [h] at hx
  cases lines with
  | nil =>
    cases hx
    exact hxt
  | cons y lines => simp at hx

theorem Unbroken.append {x y : Text} (hx : Unbroken x) (hy : Unbroken y) (hjoins : Joins x y) :
    Unbroken (x ++ y) := by
  rw [Unbroken, hx.physicalLines_append hjoins, hy]
  rfl

/-! ### Lines with their ends -/

/-- The line ends that the lines of a template and of a layout have. -/
def breaks : List Text := [utf8 "\n", utf8 "\r\n", utf8 "\r"]

/-- Text that is made of lines with their ends. -/
inductive Ruled : List Text → Text → Prop where
  | nil : Ruled [] []
  | cons {x e s : Text} {xs : List Text} (hx : Unbroken x) (he : e ∈ breaks)
      (hs : ¬Splits e s) (h : Ruled xs s) : Ruled (x :: xs) (x ++ e ++ s)

/-- ASCII lines that LFs end. -/
theorem ruled_asciiLines {xs : List Text} (h : xs.all isAsciiLine = true) :
    Ruled xs (xs.flatMap (· ++ utf8 "\n")) := by
  induction xs with
  | nil => exact .nil
  | cons x xs ih =>
    rw [List.all_cons, Bool.and_eq_true] at h
    exact .cons (unbroken_of_isAsciiLine h.1) (by decide) (fun h => by cases h.1) (ih h.2)

theorem mem_breaks {e : Text} : e ∈ breaks ↔ e = [0x0A] ∨ e = [0x0D, 0x0A] ∨ e = [0x0D] := by
  simp [breaks, utf8, String.utf8EncodeChar]

theorem physicalLines_break {e s : Text} (he : e ∈ breaks) (hs : ¬Splits e s) :
    physicalLines (e ++ s) = [] :: physicalLines s := by
  rcases mem_breaks.1 he with rfl | rfl | rfl
  · exact physicalLines_cons (fun h => absurd h (by decide))
      (Literal.startsWide_of_ne s (by decide) (by decide))
  · rfl
  · exact physicalLines_cons (fun _ hlf => hs ⟨rfl, hlf⟩)
      (Literal.startsWide_of_ne s (by decide) (by decide))

/-- A line ends in front of its end, whatever stands behind it. -/
theorem exists_physicalLines_break {e : Text} (he : e ∈ breaks) (s : Text) :
    ∃ rest, physicalLines (e ++ s) = [] :: rest := by
  by_cases hs : Splits e s
  · obtain ⟨t, rfl⟩ := List.head?_eq_some_iff.1 hs.2
    rcases mem_breaks.1 he with rfl | rfl | rfl
    · exact absurd hs.1 (by decide)
    · exact absurd hs.1 (by decide)
    · exact ⟨physicalLines t, rfl⟩
  · exact ⟨_, physicalLines_break he hs⟩

theorem joins_break {e : Text} (he : e ∈ breaks) (x s : Text) : Joins x (e ++ s) := by
  intro _ c _ hc
  rcases mem_breaks.1 he with rfl | rfl | rfl <;> cases hc <;> exact .inr (by decide)

theorem Ruled.ne_nil {x : Text} {xs : List Text} {s : Text} (h : Ruled (x :: xs) s) : s ≠ [] := by
  cases h with
  | cons _ he => rcases mem_breaks.1 he with rfl | rfl | rfl <;> simp

theorem Ruled.physicalLines {xs : List Text} {s : Text} (h : Ruled xs s) :
    s.physicalLines = xs ++ [[]] := by
  induction h with
  | nil => rfl
  | cons hx he hs _ ih =>
    rw [List.append_assoc, hx.physicalLines_append (joins_break he _ _),
      physicalLines_break he hs, ih]
    simp

theorem Ruled.lineEnds {xs : List Text} {s : Text} (h : Ruled xs s) : s.lineEnds = xs.length := by
  rw [Text.lineEnds, h.physicalLines, List.length_append, List.length_singleton,
    Nat.add_sub_cancel]

theorem Ruled.endedLines {xs : List Text} {s : Text} (h : Ruled xs s) : s.endedLines = xs := by
  rw [Text.endedLines, h.physicalLines, List.dropLast_concat]

/-- The lines are those of the text also when it goes on. -/
theorem Ruled.prefix_physicalLines {xs : List Text} {s : Text} (h : Ruled xs s) (t : Text) :
    xs <+: (s ++ t).physicalLines := by
  induction h with
  | nil => exact List.nil_prefix
  | @cons x e s xs hx he hs h ih =>
    rw [List.append_assoc, List.append_assoc, hx.physicalLines_append (joins_break he _ _)]
    cases xs with
    | nil =>
      obtain ⟨rest, hrest⟩ := exists_physicalLines_break he (s ++ t)
      exact ⟨rest, by simp [hrest]⟩
    | cons y ys =>
      rw [physicalLines_break he (not_splits_append_of_ne_nil h.ne_nil hs t)]
      simpa using ih

/-- Behind a line end the lines of the rest follow. -/
theorem exists_physicalLines_of_getLast? {u : Text} {b : UInt8} (h : u.getLast? = some b)
    (hb : b = 0x0D ∨ b = 0x0A) : ∃ x lines, physicalLines u = x :: lines ++ [[]] := by
  induction u using physicalLines_induction with
  | nil => cases h
  | ended e s he ih =>
    rw [he]
    cases s with
    | nil => exact ⟨[], [], rfl⟩
    | cons c s =>
      rw [List.getLast?_append, List.getLast?_eq_some_getLast (List.cons_ne_nil c s),
        Option.some_or, ← List.getLast?_eq_some_getLast] at h
      obtain ⟨x, lines, hs⟩ := ih h
      exact ⟨[], x :: lines, by rw [hs]; rfl⟩
  | cons c s hcr hwide ih =>
    rw [physicalLines_cons hcr hwide]
    cases s with
    | nil =>
      have hc : c = b := Option.some.inj h
      exact ⟨[], [], by rw [hc, if_pos hb]; rfl⟩
    | cons d s =>
      rw [List.getLast?_cons_cons] at h
      obtain ⟨x, lines, hs⟩ := ih h
      rw [hs]
      split
      · exact ⟨[], x :: lines, rfl⟩
      · exact ⟨c :: x, lines, rfl⟩

/-- **Behind a line end** the lines of the rest follow those ended so far. -/
theorem physicalLines_append_of_getLast? {u s : Text} {b : UInt8} (h : u.getLast? = some b)
    (hb : b = 0x0D ∨ b = 0x0A) (hsplits : ¬Splits u s) :
    physicalLines (u ++ s) = u.endedLines ++ physicalLines s := by
  have hjoins : Joins u s := by
    intro c _ hc _
    rw [h] at hc
    cases hc
    exact .inl (by rcases hb with rfl | rfl <;> decide)
  obtain ⟨x, init, hu⟩ := exists_physicalLines_of_getLast? h hb
  obtain ⟨lines, last, hlines, hall⟩ := physicalLines_append hjoins hsplits
  obtain ⟨rfl, hlast⟩ := List.append_inj' (hu.symm.trans hlines) rfl
  cases hlast
  obtain ⟨y, ys, hy⟩ := List.exists_cons_of_ne_nil (physicalLines_ne_nil s)
  rw [hall, endedLines, hu, List.dropLast_concat, hy]
  rfl

/-! ## Blank text -/

theorem isBlank_eq_all_codes (s : Text) : s.isBlank = s.codes.all Rune.isBlankCode := by
  rw [isBlank, codes, List.all_map]
  rfl

theorem isBlank_append {s t : Text} (h : Joins s t) :
    (s ++ t).isBlank = (s.isBlank && t.isBlank) := by
  simp [isBlank_eq_all_codes, codes_append h]

/-- Blank text is UTF-8, so it meets any other without a character across. -/
theorem codes_append_of_isBlank {a : Text} (h : a.isBlank = true) (s : Text) :
    codes (a ++ s) = codes a ++ codes s := by
  induction a using runes_induction with
  | nil => rfl
  | sequence code bytes a hw ih =>
    rw [isBlank_eq_all_codes, codes_sequence hw, List.all_cons, Bool.and_eq_true,
      ← isBlank_eq_all_codes] at h
    rw [List.append_assoc, codes_sequence hw, codes_sequence hw, ih h.2, List.cons_append]
  | stray b a hd ih =>
    rw [isBlank_eq_all_codes, codes_stray hd, List.all_cons, Bool.and_eq_true] at h
    exact absurd h.1 (by decide)

theorem isBlank_append_of_isBlank {a : Text} (h : a.isBlank = true) (s : Text) :
    (a ++ s).isBlank = s.isBlank := by
  rw [isBlank_eq_all_codes, codes_append_of_isBlank h, List.all_append, ← isBlank_eq_all_codes,
    ← isBlank_eq_all_codes, h, Bool.true_and]

/-- Text over several lines is blank if its lines are. -/
theorem isBlank_line (u v : Text) : isBlank (u ++ 0x0A :: v) = (isBlank u && isBlank v) := by
  have hjoins : Joins u (0x0A :: v) := fun _ c _ hc => .inr (by cases hc; decide)
  rw [isBlank_append hjoins]
  exact congrArg _ (isBlank_append_of_isBlank (a := [0x0A]) (by decide) v)

/-- The lines of blank text are blank. -/
theorem isBlank_of_mem_pieces {s : Text} (h : s.isBlank = true) :
    ∀ p ∈ pieces 0x0A s, p.isBlank = true := by
  induction s using lines_induction with
  | last s hs =>
    rw [pieces_of_not_mem hs]
    exact fun p hp => List.mem_singleton.1 hp ▸ h
  | line u v hu ih =>
    rw [isBlank_line, Bool.and_eq_true] at h
    rw [pieces_append_cons hu]
    exact List.forall_mem_cons.2 ⟨h.1, ih h.2⟩

theorem ofRunes_runes (s : Text) : ofRunes s.runes = s := by
  induction s using runes_induction with
  | nil => rfl
  | sequence code bytes s hw ih =>
    rw [runes_append hw]
    exact congrArg (bytes ++ ·) ih
  | stray b s hd ih =>
    rw [runes_stray hd]
    exact congrArg (b :: ·) ih

/-- A character that ends in CR is CR. -/
theorem isBlank_of_getLast? {code : Nat} {bytes : Text} (h : Rune.WellFormed code bytes)
    (hcr : bytes.getLast? = some 0x0D) : Rune.isBlankCode code = true := by
  cases h with
  | one ha =>
    cases hcr
    decide
  | two _ _ hb | three _ _ _ hb | four _ _ _ _ hb =>
    cases hcr
    exact absurd hb (by decide)

/-- What is known of the characters of a text: they have bytes, the blank ones are UTF-8, and one
that ends in CR is blank. -/
theorem runes_spec (s : Text) :
    ∀ r ∈ s.runes, r.bytes ≠ [] ∧ (r.isBlank = true → Rune.WellFormed r.code r.bytes) ∧
      (r.bytes.getLast? = some 0x0D → r.isBlank = true) := by
  induction s using runes_induction with
  | nil => simp [runes, runesGo]
  | sequence code bytes s hw ih =>
    rw [runes_append hw]
    refine List.forall_mem_cons.2 ⟨⟨?_, fun _ => hw, isBlank_of_getLast? hw⟩, ih⟩
    obtain ⟨a, tails, rfl, -, -⟩ := hw.exists_cons
    exact List.cons_ne_nil a tails
  | stray b s hd ih =>
    rw [runes_stray hd]
    have hcode : Rune.isBlankCode Rune.replacement ≠ true := by decide
    refine List.forall_mem_cons.2 ⟨⟨List.cons_ne_nil b [], (absurd · hcode), fun hcr => ?_⟩, ih⟩
    have hb : b = 0x0D := Option.some.inj hcr
    have hone := Rune.decode?_append (.one (a := 0x0D) (by decide)) s
    rw [hb] at hd
    exact absurd (hd.symm.trans hone) (by simp)

/-- Blank characters of a text make a blank text. -/
theorem isBlank_ofRunes {s : Text} {rs : List Rune} (hmem : ∀ r ∈ rs, r ∈ s.runes)
    (hblank : ∀ r ∈ rs, r.isBlank = true) : (ofRunes rs).isBlank = true := by
  induction rs with
  | nil => rfl
  | cons r rs ih =>
    obtain ⟨hr, hrs⟩ := List.forall_mem_cons.1 hblank
    obtain ⟨hm, hms⟩ := List.forall_mem_cons.1 hmem
    have hcode : Rune.isBlankCode r.code = true := hr
    have hrest := ih hms hrs
    rw [isBlank_eq_all_codes] at hrest
    rw [isBlank_eq_all_codes, ofRunes, List.flatMap_cons,
      codes_sequence ((runes_spec s r hm).2.1 hr), List.all_cons, hcode]
    exact hrest

theorem exists_trimStart (s : Text) : ∃ a, s = a ++ s.trimStart ∧ a.isBlank = true := by
  have hsplit := List.takeWhile_append_dropWhile (p := Rune.isBlank) (l := s.runes)
  refine ⟨ofRunes (s.runes.takeWhile Rune.isBlank), ?_, ?_⟩
  · rw [trimStart, ofRunes, ofRunes, ← List.flatMap_append, hsplit]
    exact (ofRunes_runes s).symm
  · exact isBlank_ofRunes (fun r hr => (List.takeWhile_sublist _).subset hr)
      fun r hr => List.mem_takeWhile_imp hr

theorem exists_trimEnd (s : Text) :
    ∃ b, s = s.trimEnd ++ b ∧ b.isBlank = true ∧ s.trimEnd.getLast? ≠ some 0x0D := by
  have hsplit := congrArg List.reverse
    (List.takeWhile_append_dropWhile (p := Rune.isBlank) (l := s.runes.reverse))
  rw [List.reverse_append, List.reverse_reverse] at hsplit
  refine ⟨ofRunes (s.runes.reverse.takeWhile Rune.isBlank).reverse, ?_, ?_, ?_⟩
  · rw [trimEnd, ofRunes, ofRunes, ← List.flatMap_append, hsplit]
    exact (ofRunes_runes s).symm
  · refine isBlank_ofRunes (s := s) (fun r hr => ?_) fun r hr => ?_
    · exact List.mem_reverse.1 ((List.takeWhile_sublist _).subset (List.mem_reverse.1 hr))
    · exact List.mem_takeWhile_imp (List.mem_reverse.1 hr)
  · -- The last character that stays is not blank.
    intro hcr
    rw [trimEnd] at hcr
    cases hkept : s.runes.reverse.dropWhile Rune.isBlank with
    | nil =>
      rw [hkept] at hcr
      cases hcr
    | cons r rs =>
      have hr : r ∈ s.runes := by
        refine List.mem_reverse.1 ((List.dropWhile_sublist Rune.isBlank).subset ?_)
        rw [hkept]
        exact List.mem_cons_self
      obtain ⟨hne, -, hblank⟩ := runes_spec s r hr
      have hhead := List.head?_dropWhile_not Rune.isBlank s.runes.reverse
      rw [hkept] at hhead
      rw [hkept, List.reverse_cons, ofRunes, List.flatMap_append, List.flatMap_singleton,
        List.getLast?_append, List.getLast?_eq_some_getLast hne, Option.some_or,
        ← List.getLast?_eq_some_getLast hne] at hcr
      simp [hblank hcr] at hhead

/-- Trimming takes blank text from both ends, and leaves no CR at the end. -/
theorem exists_trim (s : Text) :
    ∃ a b, s = a ++ s.trim ++ b ∧ a.isBlank = true ∧ b.isBlank = true ∧
      s.trim.getLast? ≠ some 0x0D := by
  obtain ⟨a, hs, ha⟩ := exists_trimStart s
  obtain ⟨b, ht, hb, hlast⟩ := exists_trimEnd s.trimStart
  refine ⟨a, b, ?_, ha, hb, hlast⟩
  rw [List.append_assoc, trim, ← ht]
  exact hs

end Text
end TextTemplate
