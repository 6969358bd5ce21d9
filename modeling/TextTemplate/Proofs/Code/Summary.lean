/-
Summary comments: the words of a text, filled into lines that are all comments.

What is known of words comes from one equation: at a blank character the words of a text are those
in front of it and those behind it (`Text.words_append_blank`). So a line that grows by a space and
a word grows by that word, and a filled line holds the words it was given.

A line end of the generated language is a character wherever its bytes stand
(`Text.mem_codes_of_bytes`), and all line ends are blank. The only blank character of a filled line
is the space, and the escapes of the others hold no line end, so a comment line is not broken by
what it is made of.
-/
import Mathlib.Data.List.Chain
import Mathlib.Data.List.Infix
import TextTemplate.Proofs.Code.Chunks
import TextTemplate.Proofs.Code.LiteralForm

namespace TextTemplate

open Rune (WellFormed)

/-! ## Words -/

namespace Text

variable {s t w : Text} {r : Rune} {rs word : List Rune} {code : Nat} {bytes : Text}

/-- A text of at least one character, none of them blank. -/
structure IsWord (w : Text) : Prop where
  ne_nil : w ≠ []
  dense : ∀ r ∈ w.runes, r.isBlank = false

theorem mem_wordsGo_nil : w ∈ wordsGo word [] ↔ word ≠ [] ∧ w = ofRunes word.reverse := by
  cases word with
  | nil => simp [wordsGo]
  | cons r word => simp [wordsGo]

theorem wordsGo_cons_blank (hr : r.isBlank = true) (word rs : List Rune) :
    wordsGo word (r :: rs) = wordsGo word [] ++ wordsGo [] rs := by
  cases word with
  | nil => simp [wordsGo, hr]
  | cons c word => simp [wordsGo, hr]

theorem wordsGo_cons_dense (hr : r.isBlank = false) (word rs : List Rune) :
    wordsGo word (r :: rs) = wordsGo (r :: word) rs := by
  simp [wordsGo, hr]

theorem wordsGo_append_blank (hr : r.isBlank = true) (word rs rs' : List Rune) :
    wordsGo word (rs ++ r :: rs') = wordsGo word rs ++ wordsGo [] rs' := by
  induction rs generalizing word with
  | nil => exact wordsGo_cons_blank hr word rs'
  | cons c rs ih =>
    cases hc : c.isBlank with
    | true =>
      rw [List.cons_append, wordsGo_cons_blank hc, wordsGo_cons_blank hc, ih, List.append_assoc]
    | false => rw [List.cons_append, wordsGo_cons_dense hc, wordsGo_cons_dense hc, ih]

theorem wordsGo_dense (hrs : ∀ r ∈ rs, r.isBlank = false) (word : List Rune) :
    wordsGo word rs = wordsGo (rs.reverse ++ word) [] := by
  induction rs generalizing word with
  | nil => rfl
  | cons r rs ih =>
    obtain ⟨hr, hrs⟩ := List.forall_mem_cons.1 hrs
    rw [wordsGo_cons_dense hr, ih hrs, List.reverse_cons, List.append_assoc, List.singleton_append]

/-- A word is a run of characters that are not blank. -/
theorem exists_run_of_mem_wordsGo (hword : ∀ r ∈ word, r.isBlank = false)
    (hw : w ∈ wordsGo word rs) :
    ∃ run, w = ofRunes run ∧ run ≠ [] ∧ run <:+: word.reverse ++ rs ∧
      ∀ r ∈ run, r.isBlank = false := by
  have hreverse : ∀ r ∈ word.reverse, r.isBlank = false :=
    fun r hr => hword r (List.mem_reverse.1 hr)
  induction rs generalizing word with
  | nil =>
    obtain ⟨hne, rfl⟩ := mem_wordsGo_nil.1 hw
    exact ⟨word.reverse, rfl, mt List.reverse_eq_nil_iff.1 hne, by simp, hreverse⟩
  | cons r rs ih =>
    cases hr : r.isBlank with
    | true =>
      rw [wordsGo_cons_blank hr, List.mem_append] at hw
      rcases hw with hw | hw
      · obtain ⟨hne, rfl⟩ := mem_wordsGo_nil.1 hw
        exact ⟨word.reverse, rfl, mt List.reverse_eq_nil_iff.1 hne,
          (List.prefix_append _ _).isInfix, hreverse⟩
      · obtain ⟨run, hrun, hne, hin, hdense⟩ := ih (by simp) hw (by simp)
        have hsuffix := (List.suffix_cons r rs).trans (List.suffix_append word.reverse _)
        exact ⟨run, hrun, hne, hin.trans hsuffix.isInfix, hdense⟩
    | false =>
      rw [wordsGo_cons_dense hr] at hw
      obtain ⟨run, hrun, hne, hin, hdense⟩ :=
        ih (List.forall_mem_cons.2 ⟨hr, hword⟩) hw (by simpa [or_imp, forall_and, hr] using hword)
      refine ⟨run, hrun, hne, ?_, hdense⟩
      rwa [List.reverse_cons, List.append_assoc, List.singleton_append] at hin

/-- Characters that stand next to each other in a text are the characters of their own text. -/
theorem runes_ofRunes (h : rs <:+: s.runes) : (ofRunes rs).runes = rs := by
  obtain ⟨before, after, hs⟩ := h
  have hwhole : before ++ (rs ++ after) =
      (ofRunes before ++ (ofRunes rs ++ ofRunes after)).runes := by
    have hbytes := ofRunes_runes s
    rw [← hs] at hbytes
    rw [← List.append_assoc, hs, ← hbytes]
    simp [ofRunes]
  exact (runes_of_append (runes_of_append hwhole rfl).2 rfl).1.symm

theorem isWord_of_mem_words (hw : w ∈ s.words) : w.IsWord := by
  obtain ⟨run, rfl, hne, hin, hdense⟩ := exists_run_of_mem_wordsGo (by simp) hw
  have hrunes : (ofRunes run).runes = run := runes_ofRunes (by simpa using hin)
  refine ⟨fun hnil => hne ?_, by rwa [hrunes]⟩
  rw [← hrunes, hnil]
  rfl

theorem IsWord.words (h : w.IsWord) : w.words = [w] := by
  have hne : w.runes ≠ [] := by
    intro hnil
    rw [← ofRunes_runes w, hnil] at h
    exact h.ne_nil rfl
  rw [Text.words, wordsGo_dense h.dense, wordsGo, List.append_nil, List.reverse_reverse,
    ofRunes_runes, if_neg (by simpa using hne)]

/-- **At a blank character** the words are those in front of it and those behind it. -/
theorem words_append_blank (hw : WellFormed code bytes) (hblank : Rune.isBlankCode code = true)
    (s t : Text) : (s ++ (bytes ++ t)).words = s.words ++ t.words := by
  obtain ⟨a, tails, rfl, ha, -⟩ := hw.exists_cons
  have hcut := runes_append_leads s (t := a :: tails ++ t) ⟨a, tails ++ t, rfl, ha⟩
  have hr : Rune.isBlank ⟨code, a :: tails⟩ = true := hblank
  rw [words, hcut, runes_append hw, wordsGo_append_blank hr]
  rfl

theorem words_append_space (s t : Text) : (s ++ 0x20 :: t).words = s.words ++ t.words :=
  words_append_blank (.one (a := 0x20) (by decide)) (by decide) s t

theorem words_append_feed (s t : Text) : (s ++ 0x0A :: t).words = s.words ++ t.words :=
  words_append_blank (.one (a := 0x0A) (by decide)) (by decide) s t

theorem flatMap_words_pieces (s : Text) : (pieces 0x0A s).flatMap words = s.words := by
  induction s using lines_induction with
  | last s hs => rw [pieces_of_not_mem hs, List.flatMap_singleton]
  | line u v hu ih => rw [pieces_append_cons hu, List.flatMap_cons, ih, words_append_feed]

/-- A CR in front of an LF is blank next to blank. The text in front is carried along, since its
last character may go on. -/
theorem words_replace_breaks (s t : Text) :
    (t ++ replace [0x0D, 0x0A] [0x0A] s).words = (t ++ s).words := by
  induction hn : s.length using Nat.strongRecOn generalizing s t with
  | ind n ih =>
    cases s with
    | nil => rfl
    | cons b s =>
      by_cases hbreak : List.isPrefixOf [0x0D, 0x0A] (b :: s) = true
      · obtain ⟨rfl, u, rfl⟩ : b = 0x0D ∧ ∃ u, s = 0x0A :: u := by
          obtain ⟨u, hu⟩ := List.isPrefixOf_iff_prefix.1 hbreak
          exact ⟨(List.cons.inj hu).1.symm, u, (List.cons.inj hu).2.symm⟩
        have hrest : (replace [0x0D, 0x0A] [0x0A] u).words = words u :=
          ih u.length (by simp at hn; omega) u [] rfl
        have hcr : (t ++ 0x0D :: 0x0A :: u).words = t.words ++ words (0x0A :: u) :=
          words_append_blank (.one (a := 0x0D) (by decide)) (by decide) t (0x0A :: u)
        have hlf : words (0x0A :: u) = words u := words_append_feed [] u
        rw [replace_pair, List.singleton_append, words_append_feed, hrest, hcr, hlf]
      · have hrest := ih s.length (by simp at hn; omega) s (t ++ [b]) rfl
        rw [replace_cons (Bool.eq_false_iff.2 hbreak)]
        simpa using hrest

end Text

/-! ## Filled lines -/

open Text (IsWord)

/-- Whether lines are what a text is filled into at a width. -/
structure Filled (width : Nat) (line : Text) (lines : List Text) : Prop where
  words : lines.flatMap Text.words = line.words
  /-- Between two words of a line is a space, and nothing else. -/
  spaced : ∀ x ∈ lines, x = Text.join (utf8 " ") x.words
  /-- A line is too long only if it is a single word. -/
  fits : ∀ x ∈ lines, x.length ≤ width ∨ x.words = [x]
  /-- The first word of a line would not have fitted on the line in front of it. -/
  full : lines.IsChain fun x y => ∃ word ∈ y.words.head?, width < x.length + 1 + word.length

variable {width : Nat} {current word : Text} {ws : List Text}

theorem Text.words_grow (current : Text) (hword : word.IsWord) :
    (current ++ utf8 " " ++ word).words = current.words ++ [word] := by
  have hspace := words_append_space current word
  rw [hword.words] at hspace
  rw [← hspace, List.append_assoc]
  rfl

theorem Text.join_concat (sep : Text) (hws : ws ≠ []) (word : Text) :
    join sep (ws ++ [word]) = join sep ws ++ sep ++ word := by
  induction ws with
  | nil => exact absurd rfl hws
  | cons w ws ih =>
    cases ws with
    | nil => simp [join]
    | cons v ws =>
      have hrest := ih (List.cons_ne_nil v ws)
      simp only [join, List.cons_append, List.intersperse, List.flatten_cons, List.append_assoc]
        at hrest ⊢
      rw [hrest]

theorem flatMap_words_fillLines (hws : ∀ w ∈ ws, IsWord w) (current : Text) :
    (fillLines width current ws).flatMap Text.words = current.words ++ ws := by
  induction ws generalizing current with
  | nil => simp [fillLines]
  | cons word ws ih =>
    obtain ⟨hword, hws⟩ := List.forall_mem_cons.1 hws
    rw [fillLines]
    split
    · rw [List.flatMap_cons, ih hws, hword.words, List.singleton_append]
    · rw [ih hws, Text.words_grow current hword, List.append_assoc, List.singleton_append]

theorem spaced_fillLines (hws : ∀ w ∈ ws, IsWord w) (hne : current.words ≠ [])
    (hspaced : current = Text.join (utf8 " ") current.words) :
    ∀ x ∈ fillLines width current ws, x = Text.join (utf8 " ") x.words := by
  induction ws generalizing current with
  | nil => exact fun x hx => List.mem_singleton.1 hx ▸ hspaced
  | cons word ws ih =>
    obtain ⟨hword, hws⟩ := List.forall_mem_cons.1 hws
    rw [fillLines]
    split
    · refine List.forall_mem_cons.2 ⟨hspaced, ih hws ?_ ?_⟩
      · simp [hword.words]
      · simp [hword.words, Text.join]
    · refine ih hws ?_ ?_
      · rw [Text.words_grow current hword]
        simp
      · rw [Text.words_grow current hword, Text.join_concat _ hne, ← hspaced]

theorem fits_fillLines (hws : ∀ w ∈ ws, IsWord w)
    (hfits : current.length ≤ width ∨ current.words = [current]) :
    ∀ x ∈ fillLines width current ws, x.length ≤ width ∨ x.words = [x] := by
  induction ws generalizing current with
  | nil => exact fun x hx => List.mem_singleton.1 hx ▸ hfits
  | cons word ws ih =>
    obtain ⟨hword, hws⟩ := List.forall_mem_cons.1 hws
    rw [fillLines]
    split
    · exact List.forall_mem_cons.2 ⟨hfits, ih hws (.inr hword.words)⟩
    · next hroom =>
      refine ih hws (.inl ?_)
      have hspace : (utf8 " ").length = 1 := rfl
      rw [List.length_append, List.length_append, hspace]
      omega

/-- The first line starts with the words it was begun with. -/
theorem exists_cons_fillLines (width : Nat) (hws : ∀ w ∈ ws, IsWord w) (current : Text) :
    ∃ x xs more, fillLines width current ws = x :: xs ∧ x.words = current.words ++ more := by
  induction ws generalizing current with
  | nil => exact ⟨current, [], [], rfl, (List.append_nil _).symm⟩
  | cons word ws ih =>
    obtain ⟨hword, hws⟩ := List.forall_mem_cons.1 hws
    rw [fillLines]
    split
    · exact ⟨current, _, [], rfl, (List.append_nil _).symm⟩
    · obtain ⟨x, xs, more, hlines, hx⟩ := ih hws (current ++ utf8 " " ++ word)
      rw [Text.words_grow current hword, List.append_assoc] at hx
      exact ⟨x, xs, _, hlines, hx⟩

theorem full_fillLines (hws : ∀ w ∈ ws, IsWord w) (current : Text) :
    (fillLines width current ws).IsChain fun x y =>
      ∃ word ∈ y.words.head?, width < x.length + 1 + word.length := by
  induction ws generalizing current with
  | nil => exact .singleton current
  | cons word ws ih =>
    obtain ⟨hword, hws⟩ := List.forall_mem_cons.1 hws
    rw [fillLines]
    split
    · next hlong =>
      obtain ⟨x, xs, more, hlines, hx⟩ := exists_cons_fillLines width hws word
      have hrest := ih hws word
      rw [hlines] at hrest ⊢
      refine List.isChain_cons_cons.2 ⟨⟨word, ?_, hlong⟩, hrest⟩
      rw [hx, hword.words]
      rfl
    · exact ih hws _

theorem filled_wrapWords (width : Nat) (line : Text) :
    Filled width line (wrapWords width line) := by
  have hwords : ∀ w ∈ line.words, IsWord w := fun w hw => Text.isWord_of_mem_words hw
  unfold wrapWords
  split
  · next hnone =>
    refine ⟨hnone.symm, fun x hx => ?_, fun x hx => .inl ?_, .singleton []⟩
    · rw [List.mem_singleton.1 hx]
      rfl
    · rw [List.mem_singleton.1 hx]
      exact Nat.zero_le width
  · next word ws hsome =>
    rw [hsome] at hwords
    obtain ⟨hword, hws⟩ := List.forall_mem_cons.1 hwords
    refine ⟨?_, spaced_fillLines hws ?_ ?_, fits_fillLines hws (.inr hword.words),
      full_fillLines hws word⟩
    · rw [flatMap_words_fillLines hws, hword.words, hsome, List.singleton_append]
    · simp [hword.words]
    · simp [hword.words, Text.join]

/-! ## Characters that end no line -/

/-- The code points of the line ends. -/
def lineEndCodes : List Nat := [0x0D, 0x0A, 0x85, 0x2028, 0x2029]

namespace Text

variable {s t : Text} {code : Nat} {bytes : Text}

/-- The bytes of a character are that character wherever they stand. -/
theorem mem_codes_of_bytes (hw : WellFormed code bytes) (h : bytes <:+: s) : code ∈ s.codes := by
  obtain ⟨u, v, rfl⟩ := h
  obtain ⟨a, tails, rfl, ha, -⟩ := hw.exists_cons
  have hcut := runes_append_leads u (t := a :: tails ++ v) ⟨a, tails ++ v, rfl, ha⟩
  rw [runes_append hw] at hcut
  rw [codes, List.append_assoc, hcut]
  simp

/-- Each line end is a character. -/
theorem exists_code_of_lineEnd {e : Text} (he : e ∈ StringExpression.lineEnds) :
    ∃ code ∈ lineEndCodes, WellFormed code e := by
  simp only [StringExpression.lineEnds, List.mem_cons, List.not_mem_nil, or_false] at he
  rcases he with rfl | rfl | rfl | rfl | rfl
  · exact ⟨0x0D, by decide, .one (a := 0x0D) (by decide)⟩
  · exact ⟨0x0A, by decide, .one (a := 0x0A) (by decide)⟩
  · exact ⟨0x85, by decide, .two (a := 0xC2) (b := 0x85) (by decide) (by decide) (by decide)⟩
  · exact ⟨0x2028, by decide, .three (a := 0xE2) (b := 0x80) (c := 0xA8) (by decide) (by decide)
      (by decide) (by decide) (by decide) (by decide)⟩
  · exact ⟨0x2029, by decide, .three (a := 0xE2) (b := 0x80) (c := 0xA9) (by decide) (by decide)
      (by decide) (by decide) (by decide) (by decide)⟩

theorem not_infix_of_codes (h : ∀ c ∈ s.codes, c ∉ lineEndCodes) :
    ∀ e ∈ StringExpression.lineEnds, ¬e <:+: s := by
  intro e he hin
  obtain ⟨code, hcode, hw⟩ := exists_code_of_lineEnd he
  exact h code (mem_codes_of_bytes hw hin) hcode

/-- Text without a line end is one line. -/
theorem unbroken_of_no_lineEnd (h : ∀ e ∈ StringExpression.lineEnds, ¬e <:+: s) : Unbroken s := by
  refine unbroken_of_narrow (fun hcr => ?_) (fun hlf => ?_) fun e he => ?_
  · exact h [0x0D] (by decide) ((List.singleton_infix_iff _ _).2 hcr)
  · exact h [0x0A] (by decide) ((List.singleton_infix_iff _ _).2 hlf)
  · exact h e (List.mem_cons_of_mem _ (List.mem_cons_of_mem _ he))

/-- A character that is not a stray byte has the bytes of its code point. -/
theorem wellFormed_of_isValid {r : Rune} (hr : r ∈ s.runes) (hvalid : r.isValid = true) :
    WellFormed r.code r.bytes := by
  induction s using runes_induction with
  | nil => cases hr
  | sequence code bytes s hw ih =>
    rw [runes_append hw] at hr
    rcases List.mem_cons.1 hr with rfl | hr
    · exact hw
    · exact ih hr
  | stray b s hd ih =>
    rw [runes_stray hd] at hr
    rcases List.mem_cons.1 hr with rfl | hr
    · cases hvalid
    · exact ih hr

theorem leads_of_head? {b : UInt8} (h : s.head? = some b) (hb : Rune.isTail b = false) :
    s.Leads := by
  obtain ⟨t, rfl⟩ := List.head?_eq_some_iff.1 h
  exact ⟨b, t, rfl, hb⟩

/-- A character that is not blank, or a space, ends no line when it is escaped. -/
theorem escapeElement_spec {r : Rune} (hr : r ∈ s.runes)
    (hcode : r.isBlank = true → r.code = 0x20) :
    r.escapeElement.Leads ∧ ∀ c ∈ r.escapeElement.codes, c ∉ lineEndCodes := by
  unfold Rune.escapeElement
  split
  case h_9 =>
    split
    · exact ⟨leads_of_head? (b := 0xEF) (by decide) (by decide), by decide⟩
    · next h =>
      simp only [Bool.or_eq_true, Bool.not_eq_true', not_or, Bool.not_eq_false] at h
      have hw := wellFormed_of_isValid hr h.2
      obtain ⟨a, tails, hbytes, ha, -⟩ := hw.exists_cons
      refine ⟨⟨a, tails, hbytes, ha⟩, fun c hc hend => ?_⟩
      have hone := codes_sequence hw []
      rw [List.append_nil] at hone
      rw [hone] at hc
      obtain rfl : c = r.code := by simpa [codes, runes, runesGo] using hc
      have hblank : r.isBlank = true := by
        have hall : ∀ c ∈ lineEndCodes, Rune.isBlankCode c = true := by decide
        exact hall _ hend
      rw [hcode hblank] at hend
      exact absurd hend (by decide)
  all_goals exact ⟨leads_of_head? (b := 0x26) (by decide) (by decide), by decide +kernel⟩

end Text

/-! ## Comment lines -/

/-- A line of text as a line of a documentation comment. -/
def commentLine (line : Text) : Text := utf8 "/// " ++ line.runes.flatMap Rune.escapeElement

/-- Whether a text is made of whole lines that are comments behind the indent. -/
structure CommentLines (newline indent : Text) (lines : List Text) (added : Text) : Prop where
  text : added = lines.flatMap fun x => indent ++ x ++ newline
  slashes : ∀ x ∈ lines, utf8 "///" <+: x
  whole : ∀ x ∈ lines, ∀ e ∈ StringExpression.lineEnds, ¬e <:+: x
  /-- The compiler sees these lines, and behind them the start of the next one. -/
  physical : added.physicalLines = lines.map (indent ++ ·) ++ [[]]

variable {line newline indent : Text} {lines : List Text}

/-- The only blank character of a line made of words is the space. -/
theorem Text.blank_join (hws : ∀ w ∈ ws, IsWord w) :
    ∀ r ∈ (join (utf8 " ") ws).runes, r.isBlank = true → r.code = 0x20 := by
  induction ws with
  | nil => simp [join, runes, runesGo]
  | cons w ws ih =>
    obtain ⟨hw, hws⟩ := List.forall_mem_cons.1 hws
    intro r hr hblank
    cases ws with
    | nil =>
      have hone : join (utf8 " ") [w] = w := by simp [join]
      rw [hone] at hr
      rw [hw.dense r hr] at hblank
      cases hblank
    | cons v ws =>
      have hsplit : join (utf8 " ") (w :: v :: ws) = w ++ 0x20 :: join (utf8 " ") (v :: ws) := by
        simp [join]
        rfl
      have hleads : Leads (0x20 :: join (utf8 " ") (v :: ws)) := leads_of_head? rfl (by decide)
      have hspace := runes_append (.one (a := 0x20) (by decide)) (join (utf8 " ") (v :: ws))
      rw [List.singleton_append] at hspace
      rw [hsplit, runes_append_leads w hleads, hspace, List.mem_append, List.mem_cons] at hr
      rcases hr with hr | rfl | hr
      · rw [hw.dense r hr] at hblank
        cases hblank
      · rfl
      · exact ih hws r hr hblank

theorem codes_commentLine (hblank : ∀ r ∈ line.runes, r.isBlank = true → r.code = 0x20) :
    ∀ c ∈ (commentLine line).codes, c ∉ lineEndCodes := by
  have hparts : commentLine line = (utf8 "/// " :: line.runes.map Rune.escapeElement).flatten := by
    rw [List.flatten_cons, ← List.flatMap_def]
    rfl
  have hspec : ∀ part ∈ utf8 "/// " :: line.runes.map Rune.escapeElement,
      part.Leads ∧ ∀ c ∈ part.codes, c ∉ lineEndCodes := by
    refine List.forall_mem_cons.2 ⟨⟨Text.leads_of_head? (b := 0x2F) (by decide) (by decide),
      by decide +kernel⟩, fun part hpart => ?_⟩
    obtain ⟨r, hr, rfl⟩ := List.mem_map.1 hpart
    exact Text.escapeElement_spec hr (hblank r hr)
  intro c hc
  rw [hparts, Text.codes, ← Text.flatMap_runes_of_leads fun part hpart => (hspec part hpart).1,
    List.map_flatMap] at hc
  obtain ⟨part, hpart, hc⟩ := List.mem_flatMap.1 hc
  exact (hspec part hpart).2 c hc

/-- Filled lines make comment lines that hold no line end. -/
theorem Filled.commentLine {width : Nat} (h : Filled width line lines) :
    ∀ x ∈ lines, ∀ e ∈ StringExpression.lineEnds, ¬e <:+: commentLine x := by
  intro x hx
  refine Text.not_infix_of_codes (codes_commentLine ?_)
  rw [h.spaced x hx]
  exact Text.blank_join fun w hw => Text.isWord_of_mem_words hw

/-- Unbroken lines that start with slashes stay lines behind an unbroken indent. -/
theorem ruled_lines (hnewline : newline = [0x0A] ∨ newline = [0x0D, 0x0A])
    (hindent : ∀ e ∈ StringExpression.lineEnds, ¬e <:+: indent)
    (hslashes : ∀ x ∈ lines, utf8 "///" <+: x)
    (hwhole : ∀ x ∈ lines, ∀ e ∈ StringExpression.lineEnds, ¬e <:+: x) :
    Text.Ruled (lines.map (indent ++ ·)) (lines.flatMap fun x => indent ++ x ++ newline) := by
  have hbreak : newline ∈ Text.breaks := Text.mem_breaks.2 (hnewline.imp_right .inl)
  have hends : newline.getLast? = some 0x0A := by rcases hnewline with rfl | rfl <;> rfl
  induction lines with
  | nil => exact .nil
  | cons x lines ih =>
    obtain ⟨hx, hslashes⟩ := List.forall_mem_cons.1 hslashes
    obtain ⟨hx', hwhole⟩ := List.forall_mem_cons.1 hwhole
    have hjoins : Text.Joins indent x := by
      obtain ⟨t, rfl⟩ := hx
      intro _ c _ hc
      cases hc
      exact .inr (by decide)
    refine .cons ?_ hbreak (fun hsplits => ?_) (ih hslashes hwhole)
    · exact (Text.unbroken_of_no_lineEnd hindent).append (Text.unbroken_of_no_lineEnd hx') hjoins
    · rw [Text.Splits, hends] at hsplits
      exact absurd hsplits.1 (by decide)

/-! ## The summary -/

/-- The lines that the text of a summary is filled into. -/
def summaryLines (text : Text) : List Text :=
  (Text.pieces 0x0A (Text.replace [0x0D, 0x0A] [0x0A] text)).flatMap (wrapWords summaryWidth)

/-- Filled lines as a summary: comment lines between the two tags. -/
def summaryComment (filled : List Text) : List Text :=
  utf8 "/// <summary>" :: (filled.map commentLine ++ [utf8 "/// </summary>"])

variable {x text : Text}

theorem flatMap_words_summaryLines (text : Text) :
    (summaryLines text).flatMap Text.words = text.words := by
  rw [summaryLines, List.flatMap_assoc]
  calc (Text.pieces 0x0A (Text.replace [0x0D, 0x0A] [0x0A] text)).flatMap
        (fun piece => (wrapWords summaryWidth piece).flatMap Text.words)
      = (Text.pieces 0x0A (Text.replace [0x0D, 0x0A] [0x0A] text)).flatMap Text.words :=
        List.flatMap_congr fun piece _ => (filled_wrapWords summaryWidth piece).words
    _ = Text.words (Text.replace [0x0D, 0x0A] [0x0A] text) := Text.flatMap_words_pieces _
    _ = text.words := Text.words_replace_breaks text []

theorem exists_filled_summaryLines (hx : x ∈ summaryLines text) :
    ∃ piece lines, Filled summaryWidth piece lines ∧ x ∈ lines := by
  obtain ⟨piece, -, hx⟩ := List.mem_flatMap.1 hx
  exact ⟨piece, _, filled_wrapWords summaryWidth piece, hx⟩

/-- A line of a summary is one of the tags or made of a filled line. -/
theorem summaryComment_spec (hx : x ∈ summaryComment (summaryLines text)) :
    (∃ rest, x = utf8 "/// " ++ rest) ∧ ∀ e ∈ StringExpression.lineEnds, ¬e <:+: x := by
  rw [summaryComment, List.mem_cons, List.mem_append, List.mem_map, List.mem_singleton] at hx
  rcases hx with rfl | ⟨y, hy, rfl⟩ | rfl
  · exact ⟨⟨utf8 "<summary>", by decide⟩, Text.not_infix_of_codes (by decide +kernel)⟩
  · obtain ⟨piece, lines, hfilled, hy⟩ := exists_filled_summaryLines hy
    exact ⟨⟨_, rfl⟩, hfilled.commentLine y hy⟩
  · exact ⟨⟨utf8 "</summary>", by decide⟩, Text.not_infix_of_codes (by decide +kernel)⟩

theorem slashes_of_mem_summaryComment (hx : x ∈ summaryComment (summaryLines text)) :
    utf8 "///" <+: x := by
  obtain ⟨⟨rest, rfl⟩, -⟩ := summaryComment_spec hx
  exact ⟨0x20 :: rest, rfl⟩

namespace Writer

open StringExpression (lineEnds)

variable {w : Writer} {s : Text}

theorem writeLine_eq (hline : w.AtLine) (hs : s ≠ []) (hlf : 0x0A ∉ s) :
    w.writeLine s =
      { w with out := w.out ++ (w.indent ++ s ++ w.layout.newline), endsLine := true } := by
  have hstart : (w.out.isEmpty || w.endsLine) = true := hline
  rw [writeLine, write_eq w hs, if_pos hstart, indented_eq (endsWithLF_of_not_mem hlf),
    behindFeeds_of_not_mem hlf]
  simp [endLine]

theorem out_foldl_writeLine (hline : w.AtLine) (hlines : ∀ x ∈ lines, x ≠ [] ∧ 0x0A ∉ x) :
    (lines.foldl writeLine w).out =
      w.out ++ lines.flatMap fun x => w.indent ++ x ++ w.layout.newline := by
  induction lines generalizing w with
  | nil => simp
  | cons x lines ih =>
    obtain ⟨⟨hne, hlf⟩, hlines⟩ := List.forall_mem_cons.1 hlines
    rw [List.foldl_cons, writeLine_eq hline hne hlf, ih (by simp [AtLine]) hlines]
    simp

theorem summary_eq (htext : text.isBlank = false) (w : Writer) :
    w.summary text = (summaryComment (summaryLines text)).foldl writeLine w := by
  rw [summary, htext, if_neg Bool.false_ne_true, summaryComment, List.foldl_cons,
    List.foldl_append, List.foldl_map]
  rfl

theorem out_summary (hline : w.AtLine) (htext : text.isBlank = false) :
    (w.summary text).out = w.out ++
      (summaryComment (summaryLines text)).flatMap fun x => w.indent ++ x ++ w.layout.newline := by
  rw [summary_eq htext, out_foldl_writeLine hline]
  intro x hx
  obtain ⟨⟨rest, rfl⟩, hends⟩ := summaryComment_spec hx
  refine ⟨List.append_ne_nil_of_left_ne_nil (by decide) _, fun hlf => ?_⟩
  exact hends [0x0A] (by decide) ((List.singleton_infix_iff _ _).2 hlf)

/-- **A summary keeps the words and stays a comment.** Words are filled into lines in order: a line
is too long only if it is a single word, and ends only where the next word would not have fitted.
What a summary writes at the start of a line holds all words of the text, between the two tags, in
lines that begin with three slashes behind the indent and end nowhere but at their newline, whatever
line ends the text has. -/
theorem summary_stays_comment :
    (∀ width line, Filled width line (wrapWords width line)) ∧
      ∀ (w : Writer) (text : Text), w.AtLine →
        w.layout.newline = utf8 "\n" ∨ w.layout.newline = utf8 "\r\n" →
        (∀ e ∈ lineEnds, ¬e <:+: w.indent) → text.isBlank = false →
        ∃ (filled : List Text) (added : Text), (w.summary text).out = w.out ++ added ∧
          filled.flatMap Text.words = text.words ∧
          (∀ x ∈ filled, x.length ≤ summaryWidth ∨ x.words = [x]) ∧
          CommentLines w.layout.newline w.indent (summaryComment filled) added := by
  refine ⟨filled_wrapWords, fun w text hline hnewline hindent htext => ?_⟩
  have hslashes : ∀ x ∈ summaryComment (summaryLines text), utf8 "///" <+: x :=
    fun x hx => slashes_of_mem_summaryComment hx
  have hwhole : ∀ x ∈ summaryComment (summaryLines text), ∀ e ∈ lineEnds, ¬e <:+: x :=
    fun x hx => (summaryComment_spec hx).2
  refine ⟨summaryLines text, _, out_summary hline htext, flatMap_words_summaryLines text,
    fun x hx => ?_, rfl, hslashes, hwhole, ?_⟩
  · obtain ⟨piece, lines, hfilled, hx⟩ := exists_filled_summaryLines hx
    exact hfilled.fits x hx
  · exact (ruled_lines hnewline hindent hslashes hwhole).physicalLines

/-- Every line end between words, a word that is too long, and bytes that are not UTF-8. -/
theorem summary_stays_comment_sample :
    let w := ((ofLayout (Layout.standard.withNewline (utf8 "\r\n"))).pushIndent
      (utf8 "\t")).writeLine (utf8 "a")
    let long := utf8 "abcdefghijklmnopqrstuvwxyzabcdefghijklmnopqrstuvwxyz"
    let text := utf8 "one\rtwo\u0085<three>\u2028four\u2029 " ++ long ++ utf8 "\r\n\nfive" ++
      [0xE2, 0x80]
    w.AtLine ∧ w.layout.newline = utf8 "\r\n" ∧ (∀ e ∈ lineEnds, ¬e <:+: w.indent) ∧
      text.isBlank = false ∧
      (w.summary text).out = utf8 "\ta\r\n\t/// <summary>\r\n" ++
        utf8 "\t/// one two &lt;three&gt; four\r\n\t/// " ++ long ++
        utf8 "\r\n\t/// \r\n\t/// five\uFFFD\uFFFD\r\n\t/// </summary>\r\n" ∧
      ∃ (filled : List Text) (added : Text), (w.summary text).out = w.out ++ added ∧
        filled.flatMap Text.words = text.words ∧
        (∀ x ∈ filled, x.length ≤ summaryWidth ∨ x.words = [x]) ∧
        CommentLines (utf8 "\r\n") (utf8 "\t") (summaryComment filled) added := by
  intro w long text
  have hline : w.AtLine := rfl
  have hindent : ∀ e ∈ lineEnds, ¬e <:+: w.indent := by decide +kernel
  have htext : text.isBlank = false := by decide +kernel
  refine ⟨hline, rfl, hindent, htext, by decide +kernel, ?_⟩
  exact summary_stays_comment.2 w text hline (.inr rfl) hindent htext

end Writer
end TextTemplate
