/-
What a literal stands for. A text is quoted so that the reader of string expressions gives it back,
with one exception: a line end beyond ASCII is escaped only when it lies within one cluster. Where a
text that is not UTF-8 has its clusters cut inside such a character, its bytes stand in the literal
as they are, and the literal is none.

`Text.isQuotable` says that this does not happen, and `Writer.eval?_quote` that it is the whole
condition. UTF-8 is always quotable (`Text.isQuotable_of_isUtf8`).
-/
import TextTemplate.Code.Literal
import TextTemplate.Proofs.Text.Basic
import TextTemplate.Proofs.Text.Utf8
import TextTemplate.Proofs.Code.StringExpression

namespace TextTemplate

open StringExpression

/-! ## Escaping, byte by byte -/

namespace Literal

/-- The line ends beyond ASCII. -/
def wideEnds : List Text := [[0xC2, 0x85], [0xE2, 0x80, 0xA8], [0xE2, 0x80, 0xA9]]

/-- Whether a text starts with a line end beyond ASCII. -/
def startsWide (s : Text) : Bool := wideEnds.any (·.isPrefixOf s)

/-- A byte inside a regular literal. -/
def escapeByte (b : UInt8) : Text :=
  match b with
  | 0x0D => utf8 "\\r"
  | 0x09 => utf8 "\\t"
  | 0x22 => utf8 "\\\""
  | 0x27 => utf8 "\\'"
  | 0x5C => utf8 "\\\\"
  | 0x00 => utf8 "\\0"
  | 0x0A => utf8 "\\n"
  | b => [b]

/-- A text inside a regular literal. -/
def escaped : Text → Text
  | 0xC2 :: 0x85 :: s => utf8 "\\u0085" ++ escaped s
  | 0xE2 :: 0x80 :: 0xA8 :: s => utf8 "\\u2028" ++ escaped s
  | 0xE2 :: 0x80 :: 0xA9 :: s => utf8 "\\u2029" ++ escaped s
  | b :: s => escapeByte b ++ escaped s
  | [] => []

/-- The code points that are escaped. -/
def escapedCodes : List Nat := [0x0D, 0x09, 0x22, 0x27, 0x5C, 0x00, 0x0A, 0x2028, 0x2029, 0x85]

theorem escape_plain {r : Rune} (h : r.code ∉ escapedCodes) : escape r = r.bytes := by
  simp only [escapedCodes, List.mem_cons, not_or] at h
  unfold escape
  split <;> simp_all

theorem escaped_cons {b : UInt8} {s : Text} (h : startsWide (b :: s) = false) :
    escaped (b :: s) = escapeByte b ++ escaped s := by
  rw [escaped.eq_def]
  split <;> simp_all [startsWide, wideEnds]

theorem startsWide_of_ne {b : UInt8} (s : Text) (h₁ : b ≠ 0xC2) (h₂ : b ≠ 0xE2) :
    startsWide (b :: s) = false := by
  simp [startsWide, wideEnds, List.isPrefixOf, h₁.symm, h₂.symm]

theorem tail_plain {b : UInt8} (h : Rune.isTail b = true) :
    escapeByte b = [b] ∧ ∀ s, startsWide (b :: s) = false := by
  constructor
  · unfold escapeByte
    split <;> first | rfl | cases h
  · intro s
    exact startsWide_of_ne s (by rintro rfl; cases h) (by rintro rfl; cases h)

theorem escaped_tails {tails : Text} (h : ∀ b ∈ tails, Rune.isTail b = true) (s : Text) :
    escaped (tails ++ s) = tails ++ escaped s := by
  induction tails with
  | nil => rfl
  | cons b tails ih =>
    have hb := tail_plain (h b List.mem_cons_self)
    have ih := ih fun c hc => h c (List.mem_cons_of_mem _ hc)
    rw [List.cons_append, escaped_cons (hb.2 _), hb.1, ih]
    rfl

theorem exists_of_startsWide {s : Text} (h : startsWide s = true) :
    ∃ t, s = 0xC2 :: 0x85 :: t ∨ s = 0xE2 :: 0x80 :: 0xA8 :: t ∨ s = 0xE2 :: 0x80 :: 0xA9 :: t := by
  simp only [startsWide, wideEnds, List.any_cons, List.any_nil, Bool.or_false, Bool.or_eq_true,
    List.isPrefixOf_iff_prefix] at h
  rcases h with ⟨t, rfl⟩ | ⟨t, rfl⟩ | ⟨t, rfl⟩
  · exact ⟨t, .inl rfl⟩
  · exact ⟨t, .inr (.inl rfl)⟩
  · exact ⟨t, .inr (.inr rfl)⟩

/-- Where the character read is not escaped, the bytes call for no escape. -/
theorem plain_of_decode? {b : UInt8} {s : Text}
    (h : ∀ code ∈ escapedCodes, ∀ width, Rune.decode? (b :: s) ≠ some (code, width)) :
    startsWide (b :: s) = false ∧ escapeByte b = [b] := by
  constructor
  · cases hs : startsWide (b :: s) with
    | false => rfl
    | true =>
      obtain ⟨t, heq | heq | heq⟩ := exists_of_startsWide hs
      · exact absurd (heq ▸ rfl) (h 0x85 (by decide) 2)
      · exact absurd (heq ▸ rfl) (h 0x2028 (by decide) 3)
      · exact absurd (heq ▸ rfl) (h 0x2029 (by decide) 3)
  · unfold escapeByte
    split
    · exact absurd rfl (h 0x0D (by decide) 1)
    · exact absurd rfl (h 0x09 (by decide) 1)
    · exact absurd rfl (h 0x22 (by decide) 1)
    · exact absurd rfl (h 0x27 (by decide) 1)
    · exact absurd rfl (h 0x5C (by decide) 1)
    · exact absurd rfl (h 0x00 (by decide) 1)
    · exact absurd rfl (h 0x0A (by decide) 1)
    · rfl

/-- Escaping the characters of a text is escaping its bytes. -/
theorem flatMap_escape_runes (s : Text) : s.runes.flatMap escape = escaped s := by
  induction s using Text.runes_induction with
  | nil => rfl
  | sequence code bytes s hw ih =>
    rw [Text.runes_append hw, List.flatMap_cons, ih]
    by_cases hcode : code ∈ escapedCodes
    · rw [hw.eq_encode]
      simp only [escapedCodes, List.mem_cons, List.not_mem_nil, or_false] at hcode
      rcases hcode with rfl | rfl | rfl | rfl | rfl | rfl | rfl | rfl | rfl | rfl <;> rfl
    · obtain ⟨a, tails, rfl, -, htails⟩ := hw.exists_cons
      have hd := Rune.decode?_append hw s
      rw [List.cons_append] at hd
      have hplain : startsWide (a :: (tails ++ s)) = false ∧ escapeByte a = [a] := by
        refine plain_of_decode? fun c hc width heq => ?_
        rw [hd] at heq
        cases heq
        exact hcode hc
      rw [escape_plain hcode, List.cons_append, List.cons_append, escaped_cons hplain.1, hplain.2,
        escaped_tails htails]
      rfl
  | stray b s hd ih =>
    rw [Text.runes_stray hd, List.flatMap_cons, ih]
    have hplain : startsWide (b :: s) = false ∧ escapeByte b = [b] := by
      refine plain_of_decode? fun c hc width heq => ?_
      rw [hd] at heq
      cases heq
    rw [escaped_cons hplain.1, hplain.2]
    rfl

/-! ## Reading one text back -/

/-- Whether a line end beyond ASCII starts in the first text and ends in the second. -/
def tears : Text → Text → Bool
  | [], _ => false
  | b :: s, t => (!startsWide (b :: s) && startsWide (b :: (s ++ t))) || tears s t

/-- Behind its first byte a line end is tails, so only the tails that follow matter. -/
theorem startsWide_congr {s t : Text} (b : UInt8)
    (h : s.takeWhile Rune.isTail = t.takeWhile Rune.isTail) :
    startsWide (b :: s) = startsWide (b :: t) := by
  have same (ts : Text) (hts : ts.all Rune.isTail = true) :
      ts.isPrefixOf s = ts.isPrefixOf t := by
    have hts := List.all_eq_true.1 hts
    rw [← Text.isPrefixOf_takeWhile hts, h, Text.isPrefixOf_takeWhile hts]
  simp only [startsWide, wideEnds, List.any_cons, List.any_nil, List.isPrefixOf]
  rw [same [0x85] rfl, same [0x80, 0xA8] rfl, same [0x80, 0xA9] rfl]

theorem tears_congr {t u : Text} (s : Text)
    (h : t.takeWhile Rune.isTail = u.takeWhile Rune.isTail) : tears s t = tears s u := by
  induction s with
  | nil => rfl
  | cons b s ih => rw [tears, tears, ih, startsWide_congr b (Text.takeWhile_append_congr s h)]

/-- Escaping leaves the tails in front as they are: an escape starts where no tail stands. -/
theorem takeWhile_escaped (s t : Text) :
    (escaped s ++ t).takeWhile Rune.isTail = (s ++ t).takeWhile Rune.isTail := by
  fun_induction escaped s with
  | case1 s ih => rfl
  | case2 s ih => rfl
  | case3 s ih => rfl
  | case4 b s h₁ h₂ h₃ ih =>
    unfold escapeByte
    split <;> first | rfl | simp [List.takeWhile_cons, ih]
  | case5 => rfl

theorem map_prepend_nil (r : Option (Text × Text)) : r.map (prepend []) = r := by
  cases r with
  | none => rfl
  | some r => rfl

theorem startsLineEnd_eq {b : UInt8} (s : Text) (h₁ : b ≠ 0x0D) (h₂ : b ≠ 0x0A) :
    startsLineEnd (b :: s) = startsWide (b :: s) := by
  have h₁ : (0x0D == b) = false := beq_eq_false_iff_ne.2 h₁.symm
  have h₂ : (0x0A == b) = false := beq_eq_false_iff_ne.2 h₂.symm
  simp [startsLineEnd, lineEnds, startsWide, wideEnds, List.isPrefixOf, h₁, h₂]

/-- A byte is plain, or it starts no line end beyond ASCII and its escape is read as the byte. -/
theorem escapeByte_cases (b : UInt8) :
    (escapeByte b = [b] ∧ b ≠ 0x0D ∧ b ≠ 0x0A ∧ b ≠ 0x22 ∧ b ≠ 0x5C) ∨
    ((∀ s, startsWide (b :: s) = false) ∧
      ∀ s, regular? (escapeByte b ++ s) = (regular? s).map (prepend [b])) := by
  have simple {c : UInt8} (h : simple? c = some b) (s : Text) :
      regular? (0x5C :: c :: s) = (regular? s).map (prepend [b]) :=
    regular?_escape [c] (by simp [escape?, h])
  have narrow (h₁ : b ≠ 0xC2) (h₂ : b ≠ 0xE2) (s : Text) : startsWide (b :: s) = false :=
    startsWide_of_ne s h₁ h₂
  unfold escapeByte
  split
  · exact .inr ⟨narrow (by decide) (by decide), simple rfl⟩
  · exact .inr ⟨narrow (by decide) (by decide), simple rfl⟩
  · exact .inr ⟨narrow (by decide) (by decide), simple rfl⟩
  · exact .inr ⟨narrow (by decide) (by decide), simple rfl⟩
  · exact .inr ⟨narrow (by decide) (by decide), simple rfl⟩
  · exact .inr ⟨narrow (by decide) (by decide), simple rfl⟩
  · exact .inr ⟨narrow (by decide) (by decide), simple rfl⟩
  · next h₁ _ h₃ _ h₅ _ h₇ => exact .inl ⟨rfl, h₁, h₇, h₃, h₅⟩

/-- A line end beyond ASCII is not torn when it is there whole. -/
theorem tears_wide {w : Text} (hw : w ∈ wideEnds) (s t : Text) : tears (w ++ s) t = tears s t := by
  simp only [wideEnds, List.mem_cons, List.not_mem_nil, or_false] at hw
  rcases hw with rfl | rfl | rfl <;>
    simp [tears, startsWide, wideEnds, List.isPrefixOf]

/-- **Reading an escaped text** gives the text, unless it tears a line end apart with what follows;
then it gives nothing. -/
theorem regular?_escaped (s t : Text) :
    regular? (escaped s ++ t) = if tears s t then none else (regular? t).map (prepend s) := by
  have whole {w e : Text} (hw : w ∈ wideEnds) {s : Text}
      (he : regular? (0x5C :: (e ++ (escaped s ++ t))) =
        (regular? (escaped s ++ t)).map (prepend w))
      (ih : regular? (escaped s ++ t) = if tears s t then none else (regular? t).map (prepend s)) :
      regular? (0x5C :: (e ++ (escaped s ++ t))) =
        if tears (w ++ s) t then none else (regular? t).map (prepend (w ++ s)) := by
    rw [he, ih, tears_wide hw]
    split
    · rfl
    · exact map_prepend_append ..
  -- the cases of `escaped`: an escaped line end beyond ASCII, three times, or a byte
  fun_induction escaped s with
  | case1 s ih =>
    exact whole (w := [0xC2, 0x85]) (by decide) (regular?_escape (utf8 "u0085") rfl) ih
  | case2 s ih =>
    exact whole (w := [0xE2, 0x80, 0xA8]) (by decide) (regular?_escape (utf8 "u2028") rfl) ih
  | case3 s ih =>
    exact whole (w := [0xE2, 0x80, 0xA9]) (by decide) (regular?_escape (utf8 "u2029") rfl) ih
  | case4 b s h₁ h₂ h₃ ih =>
    have hwide : startsWide (b :: s) = false := by
      cases h : startsWide (b :: s) with
      | false => rfl
      | true =>
        obtain ⟨t, heq | heq | heq⟩ := exists_of_startsWide h <;> cases heq
        · exact (h₁ t rfl rfl).elim
        · exact (h₂ t rfl rfl).elim
        · exact (h₃ t rfl rfl).elim
    rcases escapeByte_cases b with ⟨hplain, hcr, hlf, hquote, hslash⟩ | ⟨hnarrow, hread⟩
    · have hend : startsLineEnd (b :: (escaped s ++ t)) = startsWide (b :: (s ++ t)) := by
        rw [startsLineEnd_eq _ hcr hlf]
        exact startsWide_congr b (takeWhile_escaped s t)
      rw [hplain, tears, hwide]
      change regular? (b :: (escaped s ++ t)) = _
      cases htorn : startsWide (b :: (s ++ t)) with
      | true =>
        rw [regular?_lineEnd (hend.trans htorn)]
        rfl
      | false =>
        rw [regular?_plain (hend.trans htorn) hquote hslash, ih]
        simp only [Bool.and_false, Bool.false_or]
        split
        · rfl
        · exact map_prepend_append ..
    · rw [List.append_assoc, hread, ih, tears]
      simp only [hnarrow, Bool.and_false, Bool.false_or]
      split
      · rfl
      · exact map_prepend_append ..
  | case5 => rw [tears, map_prepend_nil]; rfl

/-! ## Lines of clusters -/

/-- Whether a line end beyond ASCII is torn apart between clusters of a line. -/
def torn : List Text → Bool
  | [] => false
  | c :: cs => tears c cs.flatten || torn cs

theorem takeWhile_line (line : List Text) (s : Text) :
    (line.flatMap escaped ++ 0x22 :: s).takeWhile Rune.isTail =
      line.flatten.takeWhile Rune.isTail := by
  induction line with
  | nil => rfl
  | cons c cs ih =>
    rw [List.flatMap_cons, List.append_assoc, takeWhile_escaped, List.flatten_cons]
    exact Text.takeWhile_append_congr c ih

/-- The clusters of a line are read back up to the quote behind them. -/
theorem regular?_line (line : List Text) (s : Text) :
    regular? (line.flatMap escaped ++ 0x22 :: s) =
      if torn line then none else some (line.flatten, s) := by
  induction line with
  | nil => exact regular?_quote s
  | cons c cs ih =>
    rw [List.flatMap_cons, List.append_assoc, regular?_escaped, ih, torn,
      tears_congr c (takeWhile_line cs s)]
    cases tears c cs.flatten with
    | true => rfl
    | false =>
      cases torn cs with
      | true => rfl
      | false => rfl

/-- The lines of a chain of literals: the clusters up to the first break, and those of the lines
behind it. -/
def chain (total : Nat) : Nat → List Text → List Text × List (List Text)
  | _, [] => ([], [])
  | unit, c :: cs =>
    let next := unit + c.units
    let (line, lines) := chain total next cs
    if crossesBreak unit (next - 1) && next != total then ([c], line :: lines)
    else (c :: line, lines)

/-- The lines, one after the other, are the clusters. -/
theorem chain_flatten (total unit : Nat) (cs : List Text) :
    (chain total unit cs).1 ++ (chain total unit cs).2.flatten = cs := by
  induction cs generalizing unit with
  | nil => rfl
  | cons c cs ih =>
    rw [chain]
    dsimp only
    split
    · rw [List.flatten_cons, ih, List.singleton_append]
    · rw [List.cons_append, ih]

theorem flatten_chain (total unit : Nat) (cs : List Text) :
    (chain total unit cs).1.flatten ++ ((chain total unit cs).2.map List.flatten).flatten
      = cs.flatten := by
  rw [← List.flatten_flatten, ← List.flatten_append, chain_flatten]

theorem body_eq (separator : Text) (total unit : Nat) (cs : List Text) :
    body separator total unit cs =
      ((chain total unit cs).1.flatMap escaped
        ++ (chain total unit cs).2.flatMap (separator ++ ·.flatMap escaped),
       !(chain total unit cs).2.isEmpty) := by
  induction cs generalizing unit with
  | nil => rfl
  | cons c cs ih =>
    rw [body, chain, ih]
    dsimp only
    rw [flatMap_escape_runes]
    split
    · simp
    · simp

/-- A line as a literal of its own. -/
def quoteLine (line : List Text) : Text := 0x22 :: (line.flatMap escaped ++ [0x22])

/-- The further lines of a chain. -/
def moreLines (newline indent : Text) (lines : List (List Text)) : Text :=
  lines.flatMap fun line => utf8 " +" ++ (newline ++ indent) ++ quoteLine line

theorem moreLines_cons (newline indent : Text) (line : List Text) (lines : List (List Text))
    (s : Text) : moreLines newline indent (line :: lines) ++ s =
      [0x20] ++ 0x2B :: (newline ++ indent
        ++ (quoteLine line ++ (moreLines newline indent lines ++ s))) := by
  have hplus : utf8 " +" = [0x20, 0x2B] := rfl
  simp [moreLines, hplus]

theorem quote_moreLines (newline indent : Text) (lines : List (List Text)) :
    (lines.flatMap fun line =>
        utf8 "\" +" ++ newline ++ indent ++ utf8 "\"" ++ line.flatMap escaped) ++ [0x22] =
      0x22 :: moreLines newline indent lines := by
  induction lines with
  | nil => rfl
  | cons line lines ih =>
    have hsep : utf8 "\" +" = 0x22 :: utf8 " +" := rfl
    have hquote : utf8 "\"" = [0x22] := rfl
    rw [List.flatMap_cons, List.append_assoc, ih]
    simp [moreLines, quoteLine, hsep, hquote]

/-- All lines of a chain. -/
def linesOf (total : Nat) (cs : List Text) : List (List Text) :=
  (chain total 0 cs).1 :: (chain total 0 cs).2

/-- A chain is a literal for each line, with a plus sign and a line break between two. -/
theorem ofClusters_eq (newline indent : Text) (total : Nat) (cs : List Text) :
    ofClusters newline indent total cs =
      let lines := chain total 0 cs
      let text := quoteLine lines.1 ++ moreLines newline indent lines.2
      if lines.2.isEmpty then ⟨text, false⟩ else ⟨utf8 "(" ++ text ++ utf8 ")", true⟩ := by
  have hquote : utf8 "\"" = [0x22] := rfl
  simp only [ofClusters, body_eq, hquote]
  generalize chain total 0 cs = lines
  have htext : [0x22] ++ (lines.1.flatMap escaped ++ lines.2.flatMap
        ((utf8 "\" +" ++ newline ++ indent ++ [0x22]) ++ ·.flatMap escaped)) ++ [0x22] =
      quoteLine lines.1 ++ moreLines newline indent lines.2 := by
    have h := quote_moreLines newline indent lines.2
    rw [hquote] at h
    simp only [List.append_assoc] at h ⊢
    rw [h]
    simp [quoteLine]
  rw [htext]
  cases lines.2 with
  | nil => rfl
  | cons line lines => rfl

/-! ## What a literal stands for -/

theorem tokens?_quoteLine (line : List Text) (s : Text) :
    tokens? (quoteLine line ++ s) =
      if torn line then none else (tokens? s).map (.value line.flatten :: ·) := by
  have h : quoteLine line ++ s = 0x22 :: (line.flatMap escaped ++ 0x22 :: s) := by simp [quoteLine]
  rw [h, tokens?_regular, regular?_line]
  cases torn line with
  | true => rfl
  | false => rfl

/-- The tokens of the further lines of a chain. -/
def moreTokens (lines : List (List Text)) : List Token :=
  lines.flatMap fun line => [.plus, .value line.flatten]

theorem more?_moreTokens (outer : List Text) (sum : Text) (lines : List (List Text))
    (ts : List Token) :
    more? outer sum (moreTokens lines ++ ts) =
      more? outer (sum ++ (lines.map List.flatten).flatten) ts := by
  induction lines generalizing sum with
  | nil => simp [moreTokens]
  | cons line lines ih =>
    have hstep : more? outer sum (moreTokens (line :: lines) ++ ts) =
        more? outer (sum ++ line.flatten) (moreTokens lines ++ ts) := by
      simp [moreTokens, more?, term?]
    rw [hstep, ih, List.map_cons, List.flatten_cons, List.append_assoc]

section Chain

variable {newline indent : Text} (hblank : ∀ b ∈ newline ++ indent, isSpace b = true)

include hblank

theorem tokens?_moreLines (lines : List (List Text)) (s : Text) :
    tokens? (moreLines newline indent lines ++ s) =
      if lines.any torn then none else (tokens? s).map (moreTokens lines ++ ·) := by
  induction lines with
  | nil =>
    cases h : tokens? s with
    | none => simp [moreLines, h]
    | some ts => simp [moreLines, moreTokens, h]
  | cons line lines ih =>
    rw [moreLines_cons, List.singleton_append, tokens?_space (by decide),
      tokens?_mark (by decide) rfl, tokens?_blank hblank, tokens?_quoteLine, ih, List.any_cons]
    cases torn line with
    | true => rfl
    | false =>
      cases lines.any torn with
      | true => rfl
      | false =>
        cases tokens? s with
        | none => rfl
        | some ts => rfl

theorem tokens?_lines (line : List Text) (lines : List (List Text)) (s : Text) :
    tokens? (quoteLine line ++ moreLines newline indent lines ++ s) =
      if torn line || lines.any torn then none
      else (tokens? s).map fun ts => .value line.flatten :: (moreTokens lines ++ ts) := by
  rw [List.append_assoc, tokens?_quoteLine, tokens?_moreLines hblank]
  cases torn line with
  | true => rfl
  | false =>
    cases lines.any torn with
    | true => rfl
    | false => exact Option.map_map ..

/-- A chain between blank texts stands for its clusters, when no line end is torn in a line. -/
theorem eval?_ofClusters {before after : Text} (hbefore : ∀ b ∈ before, isSpace b = true)
    (hafter : ∀ b ∈ after, isSpace b = true) (total : Nat) (cs : List Text) :
    eval? (before ++ (ofClusters newline indent total cs).text ++ after) =
      if (linesOf total cs).any torn then none else some cs.flatten := by
  have hend : tokens? after = some [] := by
    have := tokens?_blank hafter []
    rwa [List.append_nil] at this
  rw [← flatten_chain total 0 cs, ofClusters_eq, linesOf, List.any_cons]
  generalize chain total 0 cs = lines
  obtain ⟨line, lines⟩ := lines
  have hlines := tokens?_lines hblank line lines
  dsimp only
  split
  · rw [eval?, List.append_assoc, tokens?_blank hbefore, hlines, hend]
    split
    · rfl
    · simp only [Option.map_some, Option.bind_some, term?, more?_moreTokens, more?,
        List.isEmpty_nil, if_true, List.nil_append]
  · have htext : before ++ (utf8 "(" ++ (quoteLine line ++ moreLines newline indent lines)
          ++ utf8 ")") ++ after =
        before ++ 0x28 :: (quoteLine line ++ moreLines newline indent lines ++ 0x29 :: after) := by
      have hopen : utf8 "(" = [0x28] := rfl
      have hclose : utf8 ")" = [0x29] := rfl
      simp [hopen, hclose]
    rw [htext, eval?, tokens?_blank hbefore, tokens?_mark (by decide) rfl, hlines,
      tokens?_mark (by decide) rfl, hend]
    split
    · rfl
    · simp only [Option.map_some, Option.bind_some, term?, more?_moreTokens, more?,
        List.isEmpty_nil, if_true, List.nil_append]

end Chain

/-- A verbatim literal is read up to its last quote. -/
theorem verbatim?_replace (s : Text) {t : Text} (h : t.head? ≠ some 0x22) :
    verbatim? (Text.replace [0x22] [0x22, 0x22] s ++ 0x22 :: t) = some (s, t) := by
  induction s with
  | nil => exact verbatim?_quote h
  | cons b s ih =>
    by_cases hb : b = 0x22
    · subst hb
      rw [Text.replace_one]
      change verbatim? (0x22 :: 0x22 :: (Text.replace [0x22] [0x22, 0x22] s ++ 0x22 :: t)) = _
      rw [verbatim?_doubled, ih]
      rfl
    · rw [Text.replace_other _ _ hb, List.cons_append, verbatim?_plain _ hb, ih]
      rfl

/-- A verbatim literal between blank texts stands for its text. -/
theorem eval?_verbatim {before after : Text} (hbefore : ∀ b ∈ before, isSpace b = true)
    (hafter : ∀ b ∈ after, isSpace b = true) (s : Text) :
    eval? (before ++ (verbatim s).text ++ after) = some s := by
  have hend : tokens? after = some [] := by
    have := tokens?_blank hafter []
    rwa [List.append_nil] at this
  have hhead : after.head? ≠ some 0x22 := by
    intro h
    exact absurd (hafter 0x22 (List.mem_of_mem_head? h)) (by decide)
  have htext : before ++ (verbatim s).text ++ after =
      before ++ 0x40 :: 0x22 :: (Text.replace [0x22] [0x22, 0x22] s ++ 0x22 :: after) := by
    have hopen : utf8 "@\"" = [0x40, 0x22] := rfl
    have hclose : utf8 "\"" = [0x22] := rfl
    simp [verbatim, hopen, hclose]
  rw [htext, eval?, tokens?_blank hbefore, tokens?_verbatim, verbatim?_replace s hhead]
  simp [hend, term?, more?]

end Literal

/-! ## Quotable texts -/

/-- Whether the literal of a text is a regular one. -/
def Text.isRegular (s : Text) : Bool :=
  s.units < Literal.verbatimMin || s.units > Literal.verbatimMax || s.contains 0

/-- Whether the literal of a text stands for it: it is verbatim, or no line end beyond ASCII is torn
apart by clusters of one line. -/
def Text.isQuotable (s : Text) : Bool :=
  !(s.isRegular && (Literal.linesOf s.units s.clusters).any Literal.torn)

theorem Writer.quoteBy_eq (w : Writer) (segment : Text → List Text) (s : Text) :
    w.quoteBy segment s = if s.isRegular then w.quoteEscapedBy segment s else .verbatim s := by
  simp [quoteBy, Text.isRegular]

theorem Writer.quote_eq (w : Writer) (s : Text) :
    w.quote s = if s.isRegular then w.quoteEscaped s else .verbatim s := w.quoteBy_eq _ s

/-- **A literal stands for its text** between blank texts exactly when the text is quotable;
otherwise it is no expression at all. -/
theorem Writer.eval?_quote {w : Writer}
    (hblank : ∀ b ∈ w.layout.newline ++ w.indent, isSpace b = true) {before after : Text}
    (hbefore : ∀ b ∈ before, isSpace b = true)
    (hafter : ∀ b ∈ after, isSpace b = true) (s : Text) :
    eval? (before ++ (w.quote s).text ++ after) = if s.isQuotable then some s else none := by
  rw [quote_eq, Text.isQuotable]
  cases s.isRegular with
  | true =>
    have h := Literal.eval?_ofClusters hblank hbefore hafter s.units s.clusters
    rw [Text.flatten_clusters] at h
    rw [if_pos rfl, quoteEscaped, quoteEscapedBy, h, Bool.true_and]
    cases (Literal.linesOf s.units s.clusters).any Literal.torn with
    | true => rfl
    | false => rfl
  | false => exact Literal.eval?_verbatim hbefore hafter s

theorem Literal.mem_of_mem_chain (total unit : Nat) (cs : List Text) :
    ∀ line ∈ (chain total unit cs).1 :: (chain total unit cs).2, ∀ c ∈ line, c ∈ cs := by
  intro line hline c hc
  rw [← chain_flatten total unit cs, ← List.flatten_cons]
  exact List.mem_flatten_of_mem hline hc

theorem Literal.tears_nil (s : Text) : tears s [] = false := by
  induction s with
  | nil => rfl
  | cons b s ih => rw [tears, ih, List.append_nil, Bool.not_and_self, Bool.false_or]

/-- Clusters that start where characters start tear nothing apart. -/
theorem Literal.torn_eq_false {line : List Text} (h : ∀ c ∈ line, c.Leads) : torn line = false := by
  induction line with
  | nil => rfl
  | cons c cs ih =>
    have hcs := fun d hd => h d (List.mem_cons_of_mem _ hd)
    have hlead : cs.flatten.takeWhile Rune.isTail = ([] : Text).takeWhile Rune.isTail := by
      cases cs with
      | nil => rfl
      | cons d cs =>
        obtain ⟨b, t, rfl, hb⟩ := hcs d List.mem_cons_self
        simp [hb]
    rw [torn, tears_congr c hlead, tears_nil, ih hcs]
    rfl

/-- Every UTF-8 text is quotable. -/
theorem Text.isQuotable_of_isUtf8 {s : Text} (h : s.isUtf8 = true) : s.isQuotable = true := by
  have hlines : (Literal.linesOf s.units s.clusters).any Literal.torn = false := by
    rw [List.any_eq_false]
    intro line hline
    have hleads := fun c hc => clusters_lead h c (Literal.mem_of_mem_chain _ _ _ line hline c hc)
    rw [Literal.torn_eq_false hleads]
    exact Bool.false_ne_true
  rw [isQuotable, hlines, Bool.and_false]
  rfl

/-- Bytes of a text that is not UTF-8: the first three are one cluster, which ends inside U+0085. -/
example : Text.isQuotable [0xE2, 0x9B, 0xC2, 0x85] = false := by decide +kernel

/-! ## Line breaks -/

section Breaks

variable {b : UInt8} (hb : b = 0x0D ∨ b = 0x0A)

include hb

theorem Literal.break_not_mem_escaped (s : Text) : b ∉ escaped s := by
  fun_induction escaped s with
  | case1 s ih | case2 s ih | case3 s ih =>
    exact List.not_mem_append (by rcases hb with rfl | rfl <;> decide) ih
  | case4 c s h₁ h₂ h₃ ih =>
    refine List.not_mem_append ?_ ih
    unfold escapeByte
    split
    case h_8 hcr _ _ _ _ _ hlf =>
      intro h
      rw [List.mem_singleton] at h
      exact hb.elim (fun hb => hcr (h.symm.trans hb)) fun hb => hlf (h.symm.trans hb)
    all_goals rcases hb with rfl | rfl <;> decide
  | case5 => exact List.not_mem_nil

theorem Literal.break_not_mem_quoteLine (line : List Text) : b ∉ quoteLine line := by
  have hline : b ∉ line.flatMap escaped := by
    intro h
    obtain ⟨c, -, hc⟩ := List.mem_flatMap.1 h
    exact break_not_mem_escaped hb c hc
  have hquote : b ≠ 0x22 := by rcases hb with rfl | rfl <;> decide
  simp [quoteLine, hline, hquote]

/-- Doubling quotes adds no line break. -/
theorem Literal.break_mem_verbatim_iff (s : Text) : b ∈ (verbatim s).text ↔ b ∈ s := by
  have hquote : b ≠ 0x22 := by rcases hb with rfl | rfl <;> decide
  have hreplace : b ∈ Text.replace [0x22] [0x22, 0x22] s ↔ b ∈ s := by
    induction s with
    | nil => rfl
    | cons c s ih =>
      by_cases hc : c = 0x22
      · subst hc
        simp [Text.replace_one, ih, hquote]
      · rw [Text.replace_other _ _ hc, List.mem_cons, List.mem_cons, ih]
  have hopen : b ∉ utf8 "@\"" := by rcases hb with rfl | rfl <;> decide
  have hclose : b ∉ utf8 "\"" := by rcases hb with rfl | rfl <;> decide
  simp [verbatim, hopen, hclose, hreplace]

/-- A literal on one line holds no line break. -/
theorem Writer.break_not_mem_quoteBy {w : Writer} {segment : Text → List Text} {s : Text}
    (h : (w.quoteBy segment s).multiline = false) : b ∉ (w.quoteBy segment s).text := by
  rw [quoteBy_eq] at h ⊢
  split at h
  · next hs =>
    rw [if_pos hs, quoteEscapedBy, Literal.ofClusters_eq]
    rw [quoteEscapedBy, Literal.ofClusters_eq] at h
    dsimp only at h ⊢
    split at h
    · next hone =>
      rw [if_pos hone, List.isEmpty_iff.1 hone]
      simpa [Literal.moreLines] using Literal.break_not_mem_quoteLine hb _
    · cases h
  · next hs =>
    obtain ⟨hcr, hlf⟩ : 0x0D ∉ s ∧ 0x0A ∉ s := by simpa [Literal.verbatim] using h
    rw [if_neg hs, Literal.break_mem_verbatim_iff hb]
    rcases hb with rfl | rfl
    · exact hcr
    · exact hlf

end Breaks
end TextTemplate
