/-
The form of a literal. `Expresses` gives the string expressions a literal is written as: a verbatim
literal, a regular literal, or a chain of regular literals in parentheses, joined by plus signs with
any blank text around them, line breaks included. A regular literal holds no line end of the
language. Each expression stands for one text (`Expresses.unique`).

`expresses_ofClusters_iff`: the literal of a text that is cut into clusters is such an expression
exactly if no line end is torn apart between clusters of one line. That holds however a text is cut,
as long as no character is torn apart. `body` may break the literal behind any cluster, so nothing
else is asked of the cuts.
-/
import Mathlib.Data.List.Basic
import TextTemplate.Proofs.Text.Lines

namespace TextTemplate

/-! ## String expressions -/

namespace StringExpression

/-- A regular literal with the text behind it. Its inside holds no line end. -/
def Regular (s value rest : Text) : Prop :=
  ∃ inside, s = 0x22 :: (inside ++ 0x22 :: rest) ∧ (∀ e ∈ lineEnds, ¬e <:+: inside) ∧
    regular? (inside ++ 0x22 :: rest) = some (value, rest)

/-- Regular literals joined by plus signs, up to a closing parenthesis. -/
inductive Chain : (s : Text) → (values : List Text) → Prop where
  | last {s value : Text} (h : Regular s value (utf8 ")")) : Chain s [value]
  | plus {s value before after t : Text} {values : List Text}
      (h : Regular s value (before ++ 0x2B :: (after ++ t))) (hbefore : before.isBlank)
      (hafter : after.isBlank) (ht : Chain t values) : Chain s (value :: values)

/-- The string expressions a literal is written as, with the text each stands for. -/
inductive Expresses : (s value : Text) → Prop where
  | verbatim {s value : Text} (h : verbatim? s = some (value, [])) :
      Expresses (0x40 :: 0x22 :: s) value
  | regular {s value : Text} (h : Regular s value []) : Expresses s value
  | chain {s : Text} {values : List Text} (h : Chain s values) (htwo : 2 ≤ values.length) :
      Expresses (0x28 :: s) values.flatten

/-! ### An expression stands for one text -/

/-- Blank text holds no other character of ASCII. -/
theorem not_mem_of_isBlank {s : Text} (h : s.isBlank = true) {b : UInt8} (hb : b < 0x80)
    (hnot : Rune.isBlankCode b.toNat = false) : b ∉ s := by
  rw [Text.isBlank_eq_all_codes] at h
  induction s using Text.runes_induction with
  | nil => simp
  | sequence code bytes s hw ih =>
    rw [Text.codes_sequence hw, List.all_cons, Bool.and_eq_true] at h
    refine List.not_mem_append (fun hmem => ?_) (ih h.2)
    by_cases hlong : 1 < bytes.length
    · exact hw.high hlong b hmem hb
    · cases hw with
      | one ha =>
        rw [List.mem_singleton] at hmem
        subst hmem
        rw [hnot] at h
        exact absurd h.1 (by simp)
      | two | three | four => simp at hlong
  | stray c s hd ih =>
    rw [Text.codes_stray hd, List.all_cons, Bool.and_eq_true] at h
    exact absurd h.1 (by decide)

/-- A text can be cut in front of the first of some byte in one way only. -/
theorem append_cons_inj {b : UInt8} {s t u v : Text} (hs : b ∉ s) (hu : b ∉ u)
    (h : s ++ b :: t = u ++ b :: v) : s = u ∧ t = v := by
  have cut {s : Text} (hs : b ∉ s) (t : Text) : (s ++ b :: t).takeWhile (· != b) = s := by
    have inside : ∀ c ∈ s, (c != b) = true := by
      intro c hc
      simpa using fun hcb : c = b => hs (hcb ▸ hc)
    rw [List.takeWhile_append_of_pos inside]
    simp
  have hsu : s = u := by rw [← cut hs t, h, cut hu]
  subst hsu
  exact ⟨rfl, (List.cons.inj (List.append_cancel_left h)).2⟩

theorem Regular.unique {s v v' rest rest' : Text} (h : Regular s v rest)
    (h' : Regular s v' rest') : v = v' ∧ rest = rest' := by
  obtain ⟨inside, rfl, -, hread⟩ := h
  obtain ⟨inside', heq, -, hread'⟩ := h'
  rw [← (List.cons.inj heq).2, hread] at hread'
  cases hread'
  exact ⟨rfl, rfl⟩

theorem Chain.exists_cons {s : Text} {vs : List Text} (h : Chain s vs) : ∃ t, s = 0x22 :: t := by
  cases h with
  | last h => exact ⟨_, h.choose_spec.1⟩
  | plus h => exact ⟨_, h.choose_spec.1⟩

theorem Chain.unique {s : Text} {vs vs' : List Text} (h : Chain s vs) (h' : Chain s vs') :
    vs = vs' := by
  have notLast {before t : Text} (heq : utf8 ")" = before ++ 0x2B :: t) : False := by
    have hmem : 0x2B ∈ utf8 ")" := heq ▸ by simp
    exact absurd hmem (by decide)
  induction h generalizing vs' with
  | last h =>
    cases h' with
    | last h' => rw [(h.unique h').1]
    | plus h' => exact (notLast (h.unique h').2).elim
  | @plus s v before after t vs h hbefore hafter ht ih =>
    cases h' with
    | last h' => exact (notLast (h.unique h').2.symm).elim
    | @plus _ v' before' after' t' vs' h' hbefore' hafter' ht' =>
      obtain ⟨rfl, hrest⟩ := h.unique h'
      have hplus {a : Text} (ha : a.isBlank = true) : 0x2B ∉ a :=
        not_mem_of_isBlank ha (by decide) (by decide)
      have hquote {a : Text} (ha : a.isBlank = true) : 0x22 ∉ a :=
        not_mem_of_isBlank ha (by decide) (by decide)
      obtain ⟨-, hrest⟩ := append_cons_inj (hplus hbefore) (hplus hbefore') hrest
      obtain ⟨u, rfl⟩ := ht.exists_cons
      obtain ⟨u', rfl⟩ := ht'.exists_cons
      obtain ⟨-, rfl⟩ := append_cons_inj (hquote hafter) (hquote hafter') hrest
      rw [ih ht']

/-- **An expression stands for one text.** -/
theorem Expresses.unique {s v v' : Text} (h : Expresses s v) (h' : Expresses s v') : v = v' := by
  cases h with
  | verbatim h =>
    cases h' with
    | verbatim h' =>
      rw [h] at h'
      cases h'
      rfl
    | regular h' =>
      obtain ⟨_, heq, -⟩ := h'
      cases heq
  | regular h =>
    cases h' with
    | verbatim h' | chain h' =>
      obtain ⟨_, heq, -⟩ := h
      cases heq
    | regular h' => exact (h.unique h').1
  | chain h =>
    cases h' with
    | regular h' =>
      obtain ⟨_, heq, -⟩ := h'
      cases heq
    | chain h' => rw [h.unique h']

/-! ### The inside of a regular literal -/

/-- Whether no line end starts with a byte. -/
def startsNone (b : UInt8) : Bool := lineEnds.all (·.head? != some b)

theorem startsNone_of_hexValue? {b : UInt8} (h : (hexValue? b).isSome) : startsNone b = true := by
  unfold hexValue? at h
  simp only [startsNone, lineEnds, List.all_cons, List.all_nil, List.head?_cons, Bool.and_true,
    Bool.and_eq_true, bne_iff_ne, ne_eq, Option.some.injEq]
  grind

theorem startsNone_of_simple? {b c : UInt8} (h : simple? b = some c) : startsNone b = true := by
  unfold simple? at h
  split at h <;> first | rfl | cases h

/-- The digits of a number are read to the last one. -/
theorem startsNone_of_foldlM {digits : Text} {n code : Nat}
    (h : digits.foldlM (fun n b => (hexValue? b).map (16 * n + ·)) n = some code) :
    ∀ b ∈ digits, startsNone b = true := by
  induction digits generalizing n with
  | nil => simp
  | cons b digits ih =>
    rw [List.foldlM_cons] at h
    obtain ⟨m, hm, h⟩ := Option.bind_eq_some_iff.1 h
    obtain ⟨d, hd, -⟩ := Option.map_eq_some_iff.1 hm
    exact List.forall_mem_cons.2 ⟨startsNone_of_hexValue? (by rw [hd]; rfl), ih h⟩

theorem numeric?_spec {digits t : Text} {k : Nat} (h : numeric? digits = some (t, k)) :
    k = digits.length + 1 ∧ ∀ b ∈ digits, startsNone b = true := by
  unfold numeric? at h
  split at h
  · cases h
  · next hfold =>
    split at h
    · cases h
    · cases h
      exact ⟨rfl, startsNone_of_foldlM hfold⟩

/-- No line end starts inside an escape. -/
theorem startsNone_of_escape? {s t : Text} {k : Nat} (h : escape? s = some (t, k)) :
    ∀ b ∈ s.take k, startsNone b = true := by
  have digits {b : UInt8} {s digits : Text} (hb : startsNone b = true) (hstarts : digits <+: s)
      (h : numeric? digits = some (t, k)) : ∀ c ∈ (b :: s).take k, startsNone c = true := by
    obtain ⟨rfl, hdigits⟩ := numeric?_spec h
    rw [List.take_succ_cons, ← List.prefix_iff_eq_take.1 hstarts]
    exact List.forall_mem_cons.2 ⟨hb, hdigits⟩
  unfold escape? at h
  split at h
  · cases h
  · next b s =>
    split at h
    · next hsimple =>
      cases h
      simpa using startsNone_of_simple? hsimple
    · split at h
      · next hb =>
        subst hb
        split at h
        · exact digits rfl (List.take_prefix 4 s) h
        · cases h
      · split at h
        · next hb =>
          subst hb
          split at h
          · exact digits rfl (List.take_prefix 8 s) h
          · cases h
        · split at h
          · next hb =>
            subst hb
            dsimp only at h
            split at h
            · cases h
            · exact digits rfl ((List.takeWhile_prefix _).trans (List.take_prefix 4 s)) h
          · cases h

/-- A line end inside `b :: s` starts at `b` or lies in `s`. -/
theorem not_infix_cons {b : UInt8} {s : Text} (hb : ∀ e ∈ lineEnds, ¬e <+: b :: s)
    (hs : ∀ e ∈ lineEnds, ¬e <:+: s) : ∀ e ∈ lineEnds, ¬e <:+: b :: s :=
  fun e he hinfix => (List.infix_cons_iff.1 hinfix).elim (hb e he) (hs e he)

theorem not_prefix_of_startsNone {b : UInt8} (h : startsNone b = true) (s : Text) :
    ∀ e ∈ lineEnds, ¬e <+: b :: s := by
  intro e he hstarts
  have hhead := List.all_eq_true.1 h e he
  cases e with
  | nil => exact absurd he (by decide)
  | cons c e => simp [(List.cons_prefix_cons.1 hstarts).1] at hhead

/-- **What is read as a regular literal holds no line end**, neither at a character, where the reader
looks for one, nor in an escape, of which `k` bytes are still to be passed. -/
theorem inside_of_regularGo {k : Nat} {s value rest : Text}
    (h : regularGo k s = some (value, rest)) (hk : ∀ b ∈ s.take k, startsNone b = true) :
    ∃ inside, s = inside ++ 0x22 :: rest ∧ ∀ e ∈ lineEnds, ¬e <:+: inside := by
  induction s generalizing k value with
  | nil => cases k <;> cases h
  | cons b s ih =>
    cases k with
    | succ k =>
      rw [List.take_succ_cons] at hk
      obtain ⟨hb, hk⟩ := List.forall_mem_cons.1 hk
      obtain ⟨inside, rfl, hinside⟩ := ih h hk
      exact ⟨b :: inside, rfl, not_infix_cons (not_prefix_of_startsNone hb inside) hinside⟩
    | zero =>
      simp only [regularGo] at h
      split at h
      · cases h
      · next hend =>
        -- What starts with a part of the text starts with the text, where no line end does.
        have hnone {inside : Text} (hs : inside <+: s) : ∀ e ∈ lineEnds, ¬e <+: b :: inside := by
          intro e he hstarts
          refine hend (List.any_eq_true.2 ⟨e, he, List.isPrefixOf_iff_prefix.2 ?_⟩)
          exact hstarts.trans (List.cons_prefix_cons.2 ⟨rfl, hs⟩)
        split at h
        · next hquote =>
          cases h
          exact ⟨[], by rw [hquote]; rfl, by decide⟩
        · split at h
          · split at h
            · cases h
            · next hescape =>
              obtain ⟨r, hread, heq⟩ := Option.map_eq_some_iff.1 h
              cases heq
              obtain ⟨inside, rfl, hinside⟩ := ih hread (startsNone_of_escape? hescape)
              exact ⟨b :: inside, rfl, not_infix_cons (hnone (List.prefix_append _ _)) hinside⟩
          · obtain ⟨r, hread, heq⟩ := Option.map_eq_some_iff.1 h
            cases heq
            obtain ⟨inside, rfl, hinside⟩ := ih hread (by simp)
            exact ⟨b :: inside, rfl, not_infix_cons (hnone (List.prefix_append _ _)) hinside⟩

theorem Regular.of_read {s value rest : Text} (h : regular? s = some (value, rest)) :
    Regular (0x22 :: s) value rest := by
  obtain ⟨inside, rfl, hinside⟩ := inside_of_regularGo h (by simp)
  exact ⟨inside, rfl, hinside, h⟩

end StringExpression

/-! ## Cuts between characters -/

namespace Text

/-- Whether a text is cut into parts without a character torn apart: the characters of the parts are
those of the text. -/
def CutsInto (s : Text) (cs : List Text) : Prop := cs.flatMap runes = s.runes

instance (s : Text) (cs : List Text) : Decidable (s.CutsInto cs) :=
  inferInstanceAs (Decidable (_ = _))

variable {s : Text} {cs : List Text}

theorem CutsInto.flatten (h : s.CutsInto cs) : cs.flatten = s := by
  rw [← ofRunes_runes s, ofRunes, ← h, List.flatMap_assoc, ← List.flatMap_id]
  exact List.flatMap_congr fun c _ => (ofRunes_runes c).symm

/-- Where the characters of a text can be cut, they are those of the two parts. -/
theorem runes_of_append {rs rs' : List Rune} {s t : Text} (h : rs ++ rs' = (s ++ t).runes)
    (hs : ofRunes rs = s) : rs = s.runes ∧ rs' = t.runes := by
  induction rs generalizing s with
  | nil =>
    subst hs
    exact ⟨rfl, h⟩
  | cons r rs ih =>
    obtain rfl : r.bytes ++ ofRunes rs = s := hs
    generalize hw : r.bytes ++ ofRunes rs ++ t = w at h
    induction w using runes_induction with
    | nil => cases h
    | sequence code bytes u hwell _ =>
      rw [runes_append hwell, List.cons_append] at h
      obtain ⟨rfl, hrest⟩ := List.cons.inj h
      rw [List.append_assoc] at hw
      rw [← List.append_cancel_left hw] at hrest
      obtain ⟨hrs, hrs'⟩ := ih hrest rfl
      rw [runes_append hwell, ← hrs]
      exact ⟨rfl, hrs'⟩
    | stray b u hstray _ =>
      rw [runes_stray hstray, List.cons_append] at h
      obtain ⟨rfl, hrest⟩ := List.cons.inj h
      obtain rfl : ofRunes rs ++ t = u := (List.cons.inj hw).2
      obtain ⟨hrs, hrs'⟩ := ih hrest rfl
      -- A sequence in the first part would be one in the whole text too.
      have hfirst : Rune.decode? (b :: ofRunes rs) = none := by
        cases hd : Rune.decode? (b :: ofRunes rs) with
        | none => rfl
        | some p =>
          obtain ⟨bytes, rest, heq, -, hwell⟩ := Rune.wellFormed_of_decode? hd
          have hlonger := Rune.decode?_append hwell (rest ++ t)
          rw [← List.append_assoc, ← heq, List.cons_append, hstray] at hlonger
          cases hlonger
      rw [List.singleton_append, runes_stray hfirst, ← hrs]
      exact ⟨rfl, hrs'⟩

theorem CutsInto.append {cs ds : List Text} (h : s.CutsInto (cs ++ ds)) :
    CutsInto cs.flatten cs ∧ CutsInto ds.flatten ds := by
  have hbytes : ofRunes (cs.flatMap runes) = cs.flatten := by
    rw [ofRunes, List.flatMap_assoc, ← List.flatMap_id]
    exact List.flatMap_congr fun c _ => ofRunes_runes c
  have hrunes : cs.flatMap runes ++ ds.flatMap runes = runes (cs.flatten ++ ds.flatten) := by
    rw [← List.flatMap_append, ← List.flatten_append, h.flatten]
    exact h
  exact runes_of_append hrunes hbytes

theorem CutsInto.line {lines : List (List Text)} (h : s.CutsInto lines.flatten) :
    ∀ line ∈ lines, CutsInto line.flatten line := by
  induction lines generalizing s with
  | nil => simp
  | cons line lines ih =>
    obtain ⟨hline, hlines⟩ := h.append
    exact List.forall_mem_cons.2 ⟨hline, ih hlines⟩

/-- Parts put together in lines tear no character apart either. -/
theorem CutsInto.map_flatten {lines : List (List Text)} (h : s.CutsInto lines.flatten) :
    s.CutsInto (lines.map List.flatten) := by
  rw [CutsInto, ← h, List.flatMap_map, ← List.flatMap_id, List.flatMap_assoc]
  exact List.flatMap_congr fun line hline => (h.line line hline).symm

/-- Where a text starts with no tail, another can end in front of it. -/
theorem runes_append_leads (s : Text) {t : Text} (ht : t.Leads) :
    (s ++ t).runes = s.runes ++ t.runes := by
  induction s using runes_induction with
  | nil => rfl
  | sequence code bytes s hw ih =>
    rw [List.append_assoc, runes_append hw, runes_append hw, ih, List.cons_append]
  | stray b s hd ih =>
    have hcut : Rune.decode? (b :: (s ++ t)) = none := by
      obtain ⟨d, u, rfl, hno⟩ := ht
      exact decode?_append_cut hd fun a c _ hc => .inr (Option.some.inj hc ▸ hno)
    rw [List.cons_append, runes_stray hcut, runes_stray hd, ih, List.cons_append]

/-- Parts that start with no tail have the characters of the whole. -/
theorem flatMap_runes_of_leads (hleads : ∀ c ∈ cs, c.Leads) : cs.flatMap runes = runes cs.flatten := by
  induction cs with
  | nil => rfl
  | cons c cs ih =>
    have ih := ih fun d hd => hleads d (List.mem_cons_of_mem _ hd)
    rw [List.flatMap_cons, List.flatten_cons, ih]
    cases cs with
    | nil => simp [runes, runesGo]
    | cons d cs =>
      obtain ⟨b, t, rfl, hb⟩ := hleads d (List.mem_cons_of_mem _ List.mem_cons_self)
      exact (runes_append_leads c ⟨b, t ++ cs.flatten, rfl, hb⟩).symm

/-- **The clusters of a UTF-8 text** tear no character apart. -/
theorem cutsInto_clusters (h : s.isUtf8 = true) : s.CutsInto s.clusters := by
  rw [CutsInto, flatMap_runes_of_leads (clusters_lead h), flatten_clusters]

end Text

/-! ## The lines of a chain -/

namespace Literal

open StringExpression

variable {s : Text} {cs : List Text}

/-- Where no character is torn apart, no line end is. -/
theorem torn_of_cutsInto (h : s.CutsInto cs) : torn cs = false := by
  have hescaped : cs.flatMap escaped = escaped s := by
    rw [← flatMap_escape_runes, ← h, List.flatMap_assoc]
    exact List.flatMap_congr fun c _ => (flatMap_escape_runes c).symm
  -- The literal of the text is read back whole, so it is also when it is read as a line of parts.
  have hwhole := regular?_escaped s [0x22]
  have hline := regular?_line cs []
  rw [hescaped, hwhole, tears_congr s (by rfl : _ = ([] : Text).takeWhile Rune.isTail), tears_nil,
    regular?_quote] at hline
  cases htorn : torn cs with
  | false => rfl
  | true =>
    rw [htorn] at hline
    cases hline

theorem startsWide_mono {s t : Text} (h : s <+: t) (hs : startsWide s = true) :
    startsWide t = true := by
  obtain ⟨e, he, hstarts⟩ := List.any_eq_true.1 hs
  refine List.any_eq_true.2 ⟨e, he, List.isPrefixOf_iff_prefix.2 ?_⟩
  exact (List.isPrefixOf_iff_prefix.1 hstarts).trans h

/-- What is torn apart with a text behind it is so with more behind it. -/
theorem tears_append (s t u : Text) (h : tears s (t ++ u) = false) : tears s t = false := by
  induction s with
  | nil => rfl
  | cons b s ih =>
    rw [tears, Bool.or_eq_false_iff, Bool.and_eq_false_iff] at h ⊢
    refine ⟨h.1.imp_right fun hwide => ?_, ih h.2⟩
    have hstarts : b :: (s ++ t) <+: b :: (s ++ (t ++ u)) := ⟨u, by simp⟩
    exact Bool.eq_false_iff.2 fun hs => Bool.eq_false_iff.1 hwide (startsWide_mono hstarts hs)

theorem torn_append {cs ds : List Text} (h : torn (cs ++ ds) = false) :
    torn cs = false ∧ torn ds = false := by
  induction cs with
  | nil => exact ⟨rfl, h⟩
  | cons c cs ih =>
    rw [List.cons_append, torn, Bool.or_eq_false_iff, List.flatten_append] at h
    obtain ⟨hcs, hds⟩ := ih h.2
    exact ⟨by rw [torn, tears_append _ _ _ h.1, hcs, Bool.or_false], hds⟩

theorem torn_flatten {lines : List (List Text)} (h : torn lines.flatten = false) :
    ∀ line ∈ lines, torn line = false := by
  induction lines with
  | nil => simp
  | cons line lines ih =>
    obtain ⟨hline, hlines⟩ := torn_append h
    exact List.forall_mem_cons.2 ⟨hline, ih hlines⟩

/-- A line is a regular literal that stands for its clusters. -/
theorem regular_quoteLine {line : List Text} (h : torn line = false) (rest : Text) :
    Regular (quoteLine line ++ rest) line.flatten rest := by
  have hread := regular?_line line rest
  rw [h] at hread
  have hquote : quoteLine line ++ rest = 0x22 :: (line.flatMap escaped ++ 0x22 :: rest) := by
    simp [quoteLine]
  rw [hquote]
  exact Regular.of_read hread

/-- Lines with plus signs between them are a chain. -/
theorem chain_moreLines {newline indent : Text} (hblank : (newline ++ indent).isBlank = true)
    {line : List Text} {lines : List (List Text)} (h : ∀ l ∈ line :: lines, torn l = false) :
    Chain (quoteLine line ++ (moreLines newline indent lines ++ utf8 ")"))
      ((line :: lines).map List.flatten) := by
  induction lines generalizing line with
  | nil => exact .last (regular_quoteLine (h line List.mem_cons_self) _)
  | cons next lines ih =>
    obtain ⟨hline, hlines⟩ := List.forall_mem_cons.1 h
    rw [moreLines_cons]
    exact .plus (regular_quoteLine hline _) (by decide) hblank (ih hlines)

/-- Where a line is read as a regular literal, nothing is torn apart in it, and it is read whole. -/
theorem torn_of_regular {line : List Text} {rest rest' v : Text}
    (h : Regular (quoteLine line ++ rest) v rest') : torn line = false ∧ rest' = rest := by
  obtain ⟨inside, heq, -, hread⟩ := h
  have hquote : quoteLine line ++ rest = 0x22 :: (line.flatMap escaped ++ 0x22 :: rest) := by
    simp [quoteLine]
  rw [hquote] at heq
  rw [← (List.cons.inj heq).2, regular?_line] at hread
  cases htorn : torn line with
  | true =>
    rw [htorn] at hread
    cases hread
  | false =>
    rw [htorn] at hread
    cases hread
    exact ⟨rfl, rfl⟩

/-- Where lines are a chain, nothing is torn apart in them. -/
theorem torn_of_chain {newline indent : Text} (hblank : (newline ++ indent).isBlank = true)
    {line : List Text} {lines : List (List Text)} {vs : List Text}
    (h : Chain (quoteLine line ++ (moreLines newline indent lines ++ utf8 ")")) vs) :
    ∀ l ∈ line :: lines, torn l = false := by
  induction lines generalizing line vs with
  | nil =>
    have hline : torn line = false := by
      cases h with
      | last h => exact (torn_of_regular h).1
      | plus h => exact (torn_of_regular h).1
    exact List.forall_mem_singleton.2 hline
  | cons next lines ih =>
    rw [moreLines_cons] at h
    cases h with
    | last h => exact absurd (torn_of_regular h).2 (by simp [show utf8 ")" = [0x29] from rfl])
    | @plus _ v before after t vs h hbefore hafter ht =>
      obtain ⟨hline, hrest⟩ := torn_of_regular h
      -- the plus sign and the quote behind it stand at the same places in both
      obtain ⟨-, hrest⟩ := append_cons_inj (not_mem_of_isBlank hbefore (by decide) (by decide))
        (by decide) hrest
      obtain ⟨u, rfl⟩ := ht.exists_cons
      have hquote {a : Text} (ha : a.isBlank = true) : 0x22 ∉ a :=
        not_mem_of_isBlank ha (by decide) (by decide)
      obtain ⟨-, rfl⟩ := append_cons_inj (hquote hafter) (hquote hblank) hrest
      exact List.forall_mem_cons.2 ⟨hline, ih ht⟩

/-- **What a literal of clusters stands for**: the clusters together, if no line end is torn apart in
a line of it, and nothing otherwise. -/
theorem expresses_ofClusters_iff {newline indent : Text}
    (hblank : (newline ++ indent).isBlank = true) (total : Nat) (cs : List Text) (v : Text) :
    Expresses (ofClusters newline indent total cs).text v ↔
      (linesOf total cs).any torn = false ∧ v = cs.flatten := by
  rw [← flatten_chain total 0 cs, ofClusters_eq, linesOf]
  generalize chain total 0 cs = lines
  obtain ⟨line, lines⟩ := lines
  have hany : ((line :: lines).any torn = false) ↔ ∀ l ∈ line :: lines, torn l = false := by
    simp [List.any_eq_false]
  dsimp only
  rw [hany]
  cases lines with
  | nil =>
    have hone : quoteLine line ++ moreLines newline indent [] = quoteLine line ++ [] := rfl
    have hflat : line.flatten ++ (([] : List (List Text)).map List.flatten).flatten =
        line.flatten := List.append_nil _
    rw [List.isEmpty_nil, if_pos rfl, hone, hflat]
    have hregular (htorn : torn line = false) : Expresses (quoteLine line ++ []) line.flatten :=
      .regular (regular_quoteLine htorn [])
    constructor
    · intro h
      have htorn : torn line = false := by
        cases h with
        | regular h => exact (torn_of_regular h).1
      exact ⟨List.forall_mem_singleton.2 htorn, h.unique (hregular htorn)⟩
    · rintro ⟨htorn, rfl⟩
      exact hregular (htorn line List.mem_cons_self)
  | cons next lines =>
    have hopen : utf8 "(" ++ (quoteLine line ++ moreLines newline indent (next :: lines))
          ++ utf8 ")" =
        0x28 :: (quoteLine line ++ (moreLines newline indent (next :: lines) ++ utf8 ")")) := by
      simp [show utf8 "(" = [0x28] from rfl]
    rw [List.isEmpty_cons, if_neg Bool.false_ne_true, hopen, ← List.flatten_cons, ← List.map_cons]
    have hchain (htorn : ∀ l ∈ line :: next :: lines, torn l = false) :=
      Expresses.chain (chain_moreLines hblank htorn) (by simp)
    constructor
    · intro h
      have htorn : ∀ l ∈ line :: next :: lines, torn l = false := by
        cases h with
        | regular h =>
          obtain ⟨_, heq, -⟩ := h
          cases heq
        | chain h => exact torn_of_chain hblank h
      exact ⟨htorn, h.unique (hchain htorn)⟩
    · rintro ⟨htorn, rfl⟩
      exact hchain htorn

/-- Where no character is torn apart, no line end is in any line of a chain. -/
theorem torn_linesOf (total : Nat) (h : s.CutsInto cs) : (linesOf total cs).any torn = false := by
  have htorn := torn_of_cutsInto h
  rw [← chain_flatten total 0 cs, ← List.flatten_cons] at htorn
  exact List.any_eq_false.2 fun line hline => by simp [torn_flatten htorn line hline]

/-- A literal of clusters that tear no character apart is an expression for the text. -/
theorem expresses_ofClusters {newline indent : Text} (hblank : (newline ++ indent).isBlank = true)
    (total : Nat) (h : s.CutsInto cs) :
    Expresses (ofClusters newline indent total cs).text s :=
  (expresses_ofClusters_iff hblank total cs s).2 ⟨torn_linesOf total h, h.flatten.symm⟩

theorem expresses_verbatim (s : Text) : Expresses (verbatim s).text s := by
  have hread := verbatim?_replace s (t := []) (by simp)
  have htext : (verbatim s).text =
      0x40 :: 0x22 :: (Text.replace [0x22] [0x22, 0x22] s ++ [0x22]) := by
    have hopen : utf8 "@\"" = [0x40, 0x22] := rfl
    have hclose : utf8 "\"" = [0x22] := rfl
    simp [verbatim, hopen, hclose]
  rw [htext]
  exact .verbatim hread

end Literal

/-! ## What a writer quotes -/

namespace Writer

open StringExpression

variable {segment : Text → List Text} {w : Writer} {s : Text}

theorem expresses_quoteEscapedBy (hcuts : s.CutsInto (segment s))
    (hnewline : w.layout.newline.isBlank = true) (hindent : w.indent.isBlank = true) :
    Expresses (w.quoteEscapedBy segment s).text s :=
  Literal.expresses_ofClusters ((Text.isBlank_append_of_isBlank hnewline _).trans hindent) _ hcuts

theorem expresses_quoteBy (hcuts : s.CutsInto (segment s))
    (hnewline : w.layout.newline.isBlank = true) (hindent : w.indent.isBlank = true) :
    Expresses (w.quoteBy segment s).text s := by
  rw [quoteBy_eq]
  split
  · exact expresses_quoteEscapedBy hcuts hnewline hindent
  · exact Literal.expresses_verbatim s

/-- The writer's own literals of UTF-8 texts stand for them. -/
theorem expresses_quote (h : s.isUtf8 = true) (hnewline : w.layout.newline.isBlank = true)
    (hindent : w.indent.isBlank = true) : Expresses (w.quote s).text s :=
  expresses_quoteBy (Text.cutsInto_clusters h) hnewline hindent

/-- A literal over several lines holds a line break: that of the text, or that between two lines. -/
theorem break_mem_quoteBy (hnewline : w.layout.newline ∈ Text.breaks)
    (h : (w.quoteBy segment s).multiline = true) :
    0x0D ∈ (w.quoteBy segment s).text ∨ 0x0A ∈ (w.quoteBy segment s).text := by
  have hbreak : 0x0D ∈ w.layout.newline ∨ 0x0A ∈ w.layout.newline := by
    rcases Text.mem_breaks.1 hnewline with h | h | h <;> simp [h]
  rw [quoteBy_eq] at h ⊢
  split at h
  · next hs =>
    rw [if_pos hs, quoteEscapedBy, Literal.ofClusters_eq]
    rw [quoteEscapedBy, Literal.ofClusters_eq] at h
    dsimp only at h ⊢
    split at h
    · cases h
    · next hmore =>
      obtain ⟨line, lines, hlines⟩ := List.exists_cons_of_ne_nil (mt List.isEmpty_iff.2 hmore)
      have hmem {b : UInt8} (hb : b ∈ w.layout.newline) :
          b ∈ Literal.moreLines w.layout.newline w.indent (line :: lines) := by
        simp [Literal.moreLines, hb]
      rw [if_neg hmore, hlines]
      simp only [List.mem_append]
      exact hbreak.imp (fun hb => .inl (.inr (.inr (hmem hb)))) fun hb =>
        .inl (.inr (.inr (hmem hb)))
  · next hs =>
    rw [if_neg hs, Literal.break_mem_verbatim_iff (.inl rfl),
      Literal.break_mem_verbatim_iff (.inr rfl)]
    simpa [Literal.verbatim] using h

/-- **Quoting round-trips**: however a text is cut without a character torn apart, and whatever
blank text newline and indent are, both its literal and its regular literal are expressions that
stand for the text and for no other. The literal spans several lines exactly if it holds a CR or an
LF, given that the newline is a line break. -/
theorem quoteBy_round_trips (hcuts : s.CutsInto (segment s))
    (hnewline : w.layout.newline.isBlank = true) (hindent : w.indent.isBlank = true) :
    (∀ v, Expresses (w.quoteBy segment s).text v ↔ v = s) ∧
      (∀ v, Expresses (w.quoteEscapedBy segment s).text v ↔ v = s) ∧
      (w.layout.newline ∈ Text.breaks → ((w.quoteBy segment s).multiline = true ↔
        0x0D ∈ (w.quoteBy segment s).text ∨ 0x0A ∈ (w.quoteBy segment s).text)) := by
  have hquote := expresses_quoteBy hcuts hnewline hindent
  have hescaped := expresses_quoteEscapedBy hcuts hnewline hindent
  refine ⟨fun v => ⟨fun h => h.unique hquote, fun h => h ▸ hquote⟩,
    fun v => ⟨fun h => h.unique hescaped, fun h => h ▸ hescaped⟩, fun hbreak => ?_⟩
  refine ⟨break_mem_quoteBy hbreak, fun hmem => ?_⟩
  cases hmulti : (w.quoteBy segment s).multiline with
  | true => rfl
  | false =>
    exact (hmem.elim (break_not_mem_quoteBy (.inl rfl) hmulti)
      (break_not_mem_quoteBy (.inr rfl) hmulti)).elim

/-- A writer whose lines end in CRLF and start with a tab. -/
def tabbed : Writer :=
  { ofLayout (Layout.standard.withNewline (utf8 "\r\n")) with indent := utf8 "\t" }

/-- A text wider than a line: a character of two units stands at the break, and behind it a line end
beyond ASCII, a quote, a NUL and a byte that is not UTF-8. -/
def wideText : Text := List.replicate 119 0x61 ++ utf8 "😀\u2028\"\x00" ++ [0xFF]

/-- The literal of the text is a chain of two lines. -/
theorem quoteBy_round_trips_wide :
    (tabbed.quote wideText).text = utf8 "(\"" ++ wideText.take 123 ++ utf8 "\" +\r\n\t\""
        ++ utf8 "\\u2028\\\"\\0" ++ [0xFF] ++ utf8 "\")" ∧
      (∀ v, Expresses (tabbed.quote wideText).text v ↔ v = wideText) ∧
      (tabbed.quote wideText).multiline = true := by
  have hcuts : wideText.CutsInto wideText.clusters := by decide +kernel
  have hnewline : tabbed.layout.newline ∈ Text.breaks := by decide +kernel
  obtain ⟨hquote, -, hmulti⟩ := quoteBy_round_trips (w := tabbed) hcuts (by decide +kernel)
    (by decide +kernel)
  have htext : (tabbed.quote wideText).text = utf8 "(\"" ++ wideText.take 123
      ++ utf8 "\" +\r\n\t\"" ++ utf8 "\\u2028\\\"\\0" ++ [0xFF] ++ utf8 "\")" := by
    decide +kernel
  refine ⟨htext, hquote, (hmulti hnewline).2 (.inl ?_)⟩
  change 0x0D ∈ (tabbed.quote wideText).text
  rw [htext]
  decide +kernel

end Writer
end TextTemplate
