/-
Reading follows the grammar. Each step of a scan is one report of the reader, and each fault is one
of its errors: there is one equation for the reader at each of them (`advance_text` and so on), and
`Simulation.run` carries what they say along a whole scan. So the reader reports what the scan sees,
and it reads a text without a fault exactly when steps lead from one end of the text to the other
(`scan_follows_grammar`).
-/
import Mathlib.Data.List.Forall2
import TextTemplate.Proofs.Template.Grammar

namespace TextTemplate
namespace Grammar

/-! ## Regions -/

section Region

variable {a b : UInt8} {s : Text}

theorem resolve_escaped (a b : UInt8) (t : Text) :
    resolve [a, b] (0x5C :: a :: b :: t) = a :: b :: resolve [a, b] t := by
  simp [resolve, Text.replace, Text.replaceGo, List.isPrefixOf]

theorem before_escaped (hm : IsMarker a b) (t : Text) :
    Region.before a b false (0x5C :: a :: b :: t) =
      ⟨0x5C :: a :: b :: (Region.before a b false t).raw,
        a :: b :: (Region.before a b false t).value, (Region.before a b false t).rest⟩ := by
  simp [Region.before, List.isPrefixOf, hm.fst, hm.snd, hm.ne]

theorem before_other {c : UInt8} (hc : ¬[a, b] <+: c :: s) (hs : c = 0x5C → ¬[a, b] <+: s) :
    Region.before a b false (c :: s) =
      ⟨c :: (Region.before a b false s).raw, c :: (Region.before a b false s).value,
        (Region.before a b false s).rest⟩ := by
  rw [← List.isPrefixOf_iff_prefix, Bool.not_eq_true] at hc
  have hslash : (c == 0x5C && [a, b].isPrefixOf s) = false := by
    rw [Bool.and_eq_false_imp, beq_iff_eq]
    intro h
    rw [← Bool.not_eq_true, List.isPrefixOf_iff_prefix]
    exact hs h
  rw [Region.before, hc, hslash]
  rfl

/-- A text is empty, starts with the marker, with an escaped marker, or with a byte that can be
passed. -/
theorem region_cases (a b : UInt8) (s : Text) :
    s = [] ∨ (∃ t, s = a :: b :: t) ∨ (∃ t, s = 0x5C :: a :: b :: t) ∨
      ∃ c t, s = c :: t ∧ ¬[a, b] <+: c :: t ∧ (c = 0x5C → ¬[a, b] <+: t) := by
  cases s with
  | nil => exact .inl rfl
  | cons c t =>
    by_cases hc : [a, b] <+: c :: t
    · obtain ⟨u, hu⟩ := hc
      exact .inr (.inl ⟨u, hu.symm⟩)
    by_cases hs : c = 0x5C ∧ [a, b] <+: t
    · obtain ⟨rfl, u, rfl⟩ := hs
      exact .inr (.inr (.inl ⟨u, rfl⟩))
    · exact .inr (.inr (.inr ⟨c, t, rfl, hc, fun h hp => hs ⟨h, hp⟩⟩))

theorem stops_escaped (hm : IsMarker a b) (t : Text) (j : Nat) :
    Stops [a, b] (0x5C :: a :: b :: t) j ↔ ∃ i, j = i + 3 ∧ Stops [a, b] t i := by
  match j with
  | 0 => simp [stops_zero, hm.fst]
  | 1 => simp [stops_succ]
  | 2 => simp [stops_succ, stops_zero, hm.ne]
  | j + 3 => simp [stops_succ, hm.snd, hm.fst]

theorem stops_other {c : UInt8} (hc : ¬[a, b] <+: c :: s) (hs : c = 0x5C → ¬[a, b] <+: s)
    (j : Nat) : Stops [a, b] (c :: s) j ↔ ∃ i, j = i + 1 ∧ Stops [a, b] s i := by
  cases j with
  | zero => simpa [stops_zero] using hc
  | succ j =>
    rw [stops_succ]
    constructor
    · exact fun h => ⟨j, rfl, h.1⟩
    · rintro ⟨i, hi, h⟩
      obtain rfl : j = i := by omega
      refine ⟨h, fun hj hslash => hs hslash ?_⟩
      subst hj
      exact stops_zero.1 h

/-- What `before` finds: the region up to the first place that stops it, or to the end. -/
theorem before_spec (hm : IsMarker a b) (s : Text) :
    (Region.before a b false s).value = resolve [a, b] (Region.before a b false s).raw ∧
      (∀ i < (Region.before a b false s).raw.length, ¬Stops [a, b] s i) ∧
      ((Region.before a b false s).rest = [] ∨
        Stops [a, b] s (Region.before a b false s).raw.length) := by
  induction hn : s.length using Nat.strongRecOn generalizing s with
  | ind n ih =>
    subst hn
    rcases region_cases a b s with rfl | ⟨t, rfl⟩ | ⟨t, rfl⟩ | ⟨c, t, rfl, hc, hs⟩
    · exact ⟨rfl, fun i hi => absurd hi (Nat.not_lt_zero i), .inl rfl⟩
    · have hbefore : Region.before a b false (a :: b :: t) = ⟨[], [], a :: b :: t⟩ := by
        simp [Region.before, List.isPrefixOf]
      rw [hbefore]
      exact ⟨rfl, fun i hi => absurd hi (Nat.not_lt_zero i), .inr (stops_zero.2 ⟨t, rfl⟩)⟩
    · obtain ⟨hvalue, hbefore, hend⟩ := ih t.length (by simp; omega) t rfl
      rw [before_escaped hm]
      refine ⟨by rw [hvalue, resolve_escaped], fun i hi hstop => ?_, hend.imp_right fun h =>
        (stops_escaped hm t _).2 ⟨_, rfl, h⟩⟩
      obtain ⟨k, rfl, hk⟩ := (stops_escaped hm t i).1 hstop
      simp only [List.length_cons] at hi
      exact hbefore k (by omega) hk
    · obtain ⟨hvalue, hbefore, hend⟩ := ih t.length (Nat.lt_succ_self _) t rfl
      rw [before_other hc hs]
      refine ⟨?_, fun i hi hstop => ?_, hend.imp_right fun h => (stops_other hc hs _).2 ⟨_, rfl, h⟩⟩
      · have hraw : (Region.before a b false t).raw <+: t := ⟨_, Region.raw_append_rest a b false t⟩
        rw [hvalue, resolve, resolve, Text.replace_cons]
        rw [← Bool.not_eq_true, List.isPrefixOf_iff_prefix, List.cons_prefix_cons]
        exact fun h => hs h.1.symm (h.2.trans hraw)
      · obtain ⟨k, rfl, hk⟩ := (stops_other hc hs i).1 hstop
        simp only [List.length_cons] at hi
        exact hbefore k (by omega) hk

theorem before_eq (hm : IsMarker a b) {n : Nat}
    (hn : (Region.before a b false s).raw.length = n) :
    Region.before a b false s = ⟨s.take n, resolve [a, b] (s.take n), s.drop n⟩ := by
  have happend := Region.raw_append_rest a b false s
  have hraw : s.take n = (Region.before a b false s).raw :=
    (congrArg (List.take n) happend.symm).trans (List.take_left' hn)
  have hrest : s.drop n = (Region.before a b false s).rest :=
    (congrArg (List.drop n) happend.symm).trans (List.drop_left' hn)
  rw [hraw, hrest, ← (before_spec hm s).1]

theorem length_raw_of_firstStop (hm : IsMarker a b) {j : Nat} (h : FirstStop [a, b] s j) :
    (Region.before a b false s).raw.length = j := by
  obtain ⟨-, hbefore, hend⟩ := before_spec hm s
  have happend := congrArg List.length (Region.raw_append_rest a b false s)
  rw [List.length_append] at happend
  have hle : (Region.before a b false s).raw.length ≤ j := by
    by_contra hlt
    exact hbefore j (by omega) h.1
  rcases hend with hnil | hstop
  · have := h.1.lt (by simp)
    rw [hnil, List.length_nil] at happend
    omega
  · by_contra hne
    exact h.2 _ (by omega) hstop

theorem length_raw_of_not_stops (hm : IsMarker a b) (h : ∀ j, ¬Stops [a, b] s j) :
    (Region.before a b false s).raw.length = s.length := by
  have hnil := (before_spec hm s).2.2.resolve_right (h _)
  have happend := congrArg List.length (Region.raw_append_rest a b false s)
  rw [hnil, List.append_nil] at happend
  exact happend

theorem ofText_eq {j : Nat} (h : TextEnds s j) :
    Region.ofText s = ⟨s.take j, resolve tagStart (s.take j), s.drop j⟩ := by
  refine before_eq Reader.isMarker_text ?_
  rcases h with h | ⟨rfl, h⟩
  · exact length_raw_of_firstStop Reader.isMarker_text h
  · exact length_raw_of_not_stops Reader.isMarker_text h

theorem ofCode_eq {j : Nat} (h : FirstStop tagEnd s j) :
    Region.ofCode s = ⟨s.take j, resolve tagEnd (s.take j), s.drop j⟩ :=
  before_eq Reader.isMarker_code (length_raw_of_firstStop Reader.isMarker_code h)

theorem rest_ofCode_of_not_stops (h : ∀ j, ¬Stops tagEnd s j) : (Region.ofCode s).rest = [] :=
  (before_spec Reader.isMarker_code s).2.2.resolve_right (h _)

/-! ## The line break behind a directive -/

theorem resolve_cons {c : UInt8} (hc : c ≠ 0x5C) (marker s : Text) :
    resolve marker (c :: s) = c :: resolve marker s :=
  Text.replace_cons (by simp [List.isPrefixOf, Ne.symm hc])

theorem resolve_slash (s : Text) : ∃ c t, resolve tagStart (0x5C :: s) = c :: t ∧
    (c = 0x5C ∨ c = 0x3C) := by
  by_cases hp : (0x5C :: tagStart).isPrefixOf (0x5C :: s) = true
  · obtain ⟨t, ht⟩ := List.isPrefixOf_iff_prefix.1 hp
    obtain ⟨-, rfl⟩ := List.cons.inj ht
    exact ⟨0x3C, _, resolve_escaped 0x3C 0x23 t, .inr rfl⟩
  · exact ⟨0x5C, _, Text.replace_cons (Bool.not_eq_true _ ▸ hp), .inl rfl⟩

theorem dropLineBreak?_of_ne {c : UInt8} (hcr : c ≠ 0x0D) (hlf : c ≠ 0x0A) (t : Text) :
    dropLineBreak? (c :: t) = none := by
  unfold dropLineBreak?
  split
  · next h => exact absurd (List.cons.inj h).1 hcr
  · next h => exact absurd (List.cons.inj h).1 hlf
  · next h => exact absurd (List.cons.inj h).1 hcr
  · rfl

theorem lineBreak_of_ne {c : UInt8} (hcr : c ≠ 0x0D) (hlf : c ≠ 0x0A) (t : Text) :
    lineBreak (c :: t) = 0 := by
  unfold lineBreak
  split
  · next h => exact absurd (List.cons.inj h).1 hcr
  · next h => exact absurd (List.cons.inj h).1 hcr
  · next h => exact absurd (List.cons.inj h).1 hlf
  · rfl

theorem head?_resolve {t : Text} (ht : t.head? ≠ some 0x0A) :
    (resolve tagStart t).head? ≠ some 0x0A := by
  cases t with
  | nil => exact ht
  | cons c t =>
    by_cases hs : c = 0x5C
    · obtain ⟨d, u, hd, hdc⟩ := resolve_slash t
      rw [hs, hd]
      rcases hdc with rfl | rfl
      · simp
      · simp
    · rw [resolve_cons hs]
      exact ht

theorem dropLineBreak?_cr {t : Text} (ht : t.head? ≠ some 0x0A) :
    dropLineBreak? (0x0D :: t) = some t ∧ lineBreak (0x0D :: t) = 1 := by
  cases t with
  | nil => exact ⟨rfl, rfl⟩
  | cons c t =>
    have hc : c ≠ 0x0A := fun h => ht (by rw [h, List.head?_cons])
    constructor
    · rw [dropLineBreak?]
      exact fun _ h => hc (List.cons.inj h).1
    · rw [lineBreak]
      exact fun _ h => hc (List.cons.inj h).1

/-- The line break a region starts with is the one its value starts with. -/
theorem dropLineBreak?_resolve (raw : Text) :
    dropLineBreak? (resolve tagStart raw) =
      if lineBreak raw = 0 then none else some (resolve tagStart (raw.drop (lineBreak raw))) := by
  cases raw with
  | nil => rfl
  | cons c t =>
    by_cases hs : c = 0x5C
    · obtain ⟨d, u, hd, hdc⟩ := resolve_slash t
      rw [hs, hd, lineBreak_of_ne (by decide) (by decide)]
      rcases hdc with rfl | rfl
      · rfl
      · rfl
    · rw [resolve_cons hs]
      by_cases hcr : c = 0x0D
      · subst hcr
        by_cases ht : t.head? = some 0x0A
        · obtain ⟨u, rfl⟩ := List.head?_eq_some_iff.1 ht
          rw [resolve_cons (by decide)]
          rfl
        · rw [(dropLineBreak?_cr (head?_resolve ht)).1, (dropLineBreak?_cr ht).2]
          rfl
      · by_cases hlf : c = 0x0A
        · subst hlf
          rfl
        · rw [dropLineBreak?_of_ne hcr hlf, lineBreak_of_ne hcr hlf]
          rfl

end Region

/-! ## The reader at each step -/

section Reader

variable {r : Reader} {t s : Text}

theorem TextEnds.not_prefix {j : Nat} (h : TextEnds s j) (hpos : 0 < j) : ¬tagStart <+: s := by
  intro hp
  rcases h with h | ⟨-, h⟩
  · exact h.2 0 hpos (stops_zero.2 hp)
  · exact h 0 (stops_zero.2 hp)

theorem advance_text {j : Nat} (hr : r.Stands s false) (hend : TextEnds s j) (hpos : 0 < j)
    (hne : s ≠ []) :
    let raw := s.take j
    let skip := swallowed r.afterDirective raw
    let start := if skip = 0 then r.position else r.position.addLine
    r.advance = .ok { r with
      rest := s.drop j
      position := r.position.advanceLines raw
      last := ⟨.content, resolve tagStart (raw.drop skip), start, start, r.position.advance raw⟩
      afterDirective := false } := by
  intro raw skip start
  obtain ⟨c, u, rfl⟩ := List.exists_cons_of_ne_nil hne
  have hp : [0x3C, 0x23].isPrefixOf (c :: u) = false := by
    rw [← Bool.not_eq_true, List.isPrefixOf_iff_prefix]
    exact hend.not_prefix hpos
  rw [hr.advance_text, Reader.advanceText_eq_readContent hr.rest hp, Reader.readContent, hr.rest,
    ofText_eq hend]
  dsimp only
  rw [dropLineBreak?_resolve]
  cases hafter : r.afterDirective with
  | false =>
    have hskip : skip = 0 := by simp [skip, swallowed, hafter]
    simp [start, hskip, raw]
  | true =>
    have hskip : skip = lineBreak raw := by simp [skip, swallowed, hafter]
    by_cases hbreak : lineBreak raw = 0
    · simp [start, hskip, hbreak, raw] at hbreak ⊢
    · -- Some of the region is skipped, so the report starts on the next line.
      simp [start, hskip, hbreak, raw] at hbreak ⊢

theorem advanceText_of_opens {kind : CodeKind} (h : Opens kind r.rest s) :
    r.advanceText = r.readCode kind.eventKind kind.opening.length s := by
  obtain ⟨hrest, hblock⟩ := h
  cases kind with
  | expression =>
    rw [Reader.advanceText, hrest]
    rfl
  | helper =>
    rw [Reader.advanceText, hrest]
    rfl
  | block =>
    obtain ⟨h1, h2, h3⟩ := hblock rfl
    unfold Reader.advanceText
    rw [hrest]
    simp only [CodeKind.opening, show utf8 "<#" = [0x3C, 0x23] from rfl, List.cons_append,
      List.nil_append]
    split <;> simp_all [CodeKind.eventKind]

theorem advance_code {kind : CodeKind} {j : Nat} (hr : r.Stands t false) (hopen : Opens kind t s)
    (hend : FirstStop tagEnd s j) :
    let inside := r.position.addCols (Int64.ofNat kind.opening.length)
    let stop := (inside.advanceLines (s.take j)).addCols 2
    r.advance = .ok { r with
      rest := s.drop (j + 2)
      position := stop
      last := ⟨kind.eventKind, resolve tagEnd (s.take j), inside, r.position, stop⟩
      afterDirective := false } := by
  intro inside stop
  rw [← hr.rest] at hopen
  rw [hr.advance_text, advanceText_of_opens hopen, Reader.readCode, ofCode_eq hend]
  obtain ⟨u, hu⟩ := hend.1.1
  have hrest : s.drop (j + 2) = u := by
    rw [← List.drop_drop, ← hu]
    rfl
  dsimp only
  rw [← hu, hrest]
  rfl

theorem advance_unclosedTag {kind : CodeKind} (hr : r.Stands t false) (hopen : Opens kind t s)
    (hend : ∀ j, ¬Stops tagEnd s j) :
    r.advance = .error ⟨r.position, .unclosedTag kind.eventKind⟩ := by
  rw [← hr.rest] at hopen
  rw [hr.advance_text, advanceText_of_opens hopen, Reader.readCode]
  dsimp only
  rw [rest_ofCode_of_not_stops hend]

theorem advance_openDirective (hr : r.Stands (utf8 "<#@" ++ s) false) :
    r.advance = .ok { r with
      rest := s
      position := r.position.addCols 3
      last := { r.last with
        kind := .directive, value := [], location := r.position.addCols 3, tagStart := r.position }
      inDirective := true
      opened := r.position } := by
  rw [hr.advance_text, Reader.advanceText, hr.rest]
  rfl

theorem advance_eof (hr : r.Stands [] false) :
    r.advance = .ok { r with last := ⟨.eof, [], r.position, r.position, r.position⟩ } := by
  rw [hr.advance_text, Reader.advanceText, hr.rest]

theorem rest_skipSpace_eq (r : Reader) :
    r.skipSpace.rest = r.rest.dropWhile isDirectiveSpace := rfl

/-- A reader behind white space finds the part it stands at. -/
theorem nextToken_of_lexeme {tok : DirectiveToken}
    (h : Lexeme (r.rest.dropWhile isDirectiveSpace) tok s) :
    r.skipSpace.nextToken = .ok (some (tok, { r with
      rest := s, position := r.skipSpace.position.advanceLines tok.raw })) :=
  Reader.nextToken_eq h.next?

theorem nextToken_of_not_lexeme (hne : r.rest.dropWhile isDirectiveSpace ≠ [])
    (h : ∀ tok s, ¬Lexeme (r.rest.dropWhile isDirectiveSpace) tok s) :
    r.skipSpace.nextToken = .error ⟨r.skipSpace.position,
      .invalidInput (r.rest.dropWhile isDirectiveSpace)⟩ := by
  have hnext : DirectiveToken.next? r.skipSpace.rest = none := by
    rw [rest_skipSpace_eq, Option.eq_none_iff_forall_ne_some]
    exact fun p hp => h p.1 p.2 (lexeme_of_next? hp)
  rw [Reader.nextToken, hnext, if_neg (by simpa [rest_skipSpace_eq] using hne)]
  rfl

theorem nextToken_of_nil (h : r.rest.dropWhile isDirectiveSpace = []) :
    r.skipSpace.nextToken = .ok none := by
  rw [Reader.nextToken, rest_skipSpace_eq, h]
  rfl

/-- The location behind the white space a text starts with. -/
def behind (l : Location) (t : Text) : Location := l.advanceLines (t.takeWhile isDirectiveSpace)

theorem advance_closeDirective (hr : r.Stands t true)
    (h : Lexeme (t.dropWhile isDirectiveSpace) .close s) :
    let here := behind r.position t
    r.advance = .ok { r with
      rest := s
      position := here.advanceLines tagEnd
      last := ⟨.directive, [], here, r.opened, here.addCols 2⟩
      inDirective := false
      afterDirective := true } := by
  intro here
  rw [← hr.rest] at h
  rw [hr.advance_directive, Reader.advanceDirective]
  dsimp only
  rw [nextToken_of_lexeme h]
  simp only [here, behind, ← hr.rest]
  rfl

theorem advance_name {name : Text} (hr : r.Stands t true)
    (h : Lexeme (t.dropWhile isDirectiveSpace) (.name name) s) :
    let here := behind r.position t
    r.advance = .ok { r with
      rest := s
      position := here.advanceLines name
      last := { r.last with kind := .directiveName, value := name, location := here } } := by
  intro here
  rw [← hr.rest] at h
  rw [hr.advance_directive, Reader.advanceDirective]
  dsimp only
  rw [nextToken_of_lexeme h]
  simp only [here, behind, ← hr.rest]
  rfl

theorem advance_expectedEquals {inner : Text} (hr : r.Stands t true)
    (h : Lexeme (t.dropWhile isDirectiveSpace) (.value inner) s) :
    r.advance = .error ⟨behind r.position t, .expectedEquals⟩ := by
  rw [← hr.rest] at h
  rw [hr.advance_directive, Reader.advanceDirective]
  dsimp only
  rw [nextToken_of_lexeme h]
  simp only [behind, ← hr.rest]
  rfl

theorem advance_unclosedDirective (hr : r.Stands t true) (h : t.dropWhile isDirectiveSpace = []) :
    r.advance = .error ⟨r.opened, .unclosedDirective⟩ := by
  rw [← hr.rest] at h
  rw [hr.advance_directive, Reader.advanceDirective]
  dsimp only
  rw [nextToken_of_nil h]

theorem advance_invalid (hr : r.Stands t true) (hne : t.dropWhile isDirectiveSpace ≠ [])
    (h : ∀ tok s, ¬Lexeme (t.dropWhile isDirectiveSpace) tok s) :
    r.advance = .error ⟨behind r.position t, .invalidInput (t.dropWhile isDirectiveSpace)⟩ := by
  rw [← hr.rest] at h hne ⊢
  rw [hr.advance_directive, Reader.advanceDirective]
  dsimp only
  rw [nextToken_of_not_lexeme hne h]
  rfl

end Reader

section Value

variable {r : Reader} {t s s' : Text} (hr : r.Stands t true)
  (hequals : Lexeme (t.dropWhile isDirectiveSpace) .equals s')

include hr hequals

/-- Behind an equals sign the reader looks for a quoted value. -/
theorem advance_equals :
    let after : Reader :=
      { r with rest := s', position := (behind r.position t).advanceLines (utf8 "=") }
    r.advance = match after.skipSpace.nextToken with
      | .error e => .error e
      | .ok (some (.value inner, behind)) =>
        .ok { behind with
          last := { r.last with
            kind := .directiveValue, value := unquoteValue inner,
            location := after.skipSpace.position.addCol } }
      | .ok _ => .error ⟨after.skipSpace.position, .expectedValue⟩ := by
  intro after
  rw [← hr.rest] at hequals
  rw [hr.advance_directive, Reader.advanceDirective]
  dsimp only
  rw [nextToken_of_lexeme hequals]
  simp only [after, behind, ← hr.rest]
  rfl

theorem advance_value {inner : Text}
    (hvalue : Lexeme (s'.dropWhile isDirectiveSpace) (.value inner) s) :
    let there := behind ((behind r.position t).advanceLines (utf8 "=")) s'
    r.advance = .ok { r with
      rest := s
      position := there.advanceLines (DirectiveToken.value inner).raw
      last := { r.last with
        kind := .directiveValue, value := unquoteValue inner, location := there.addCol } } := by
  intro there
  rw [advance_equals hr hequals]
  dsimp only
  rw [nextToken_of_lexeme hvalue]
  rfl

theorem advance_expectedValue
    (hother : s'.dropWhile isDirectiveSpace = [] ∨
      ∃ tok s, Lexeme (s'.dropWhile isDirectiveSpace) tok s ∧ ∀ inner, tok ≠ .value inner) :
    r.advance = .error
      ⟨behind ((behind r.position t).advanceLines (utf8 "=")) s', .expectedValue⟩ := by
  rw [advance_equals hr hequals]
  dsimp only
  rcases hother with hnil | ⟨tok, s, htok, hne⟩
  · rw [nextToken_of_nil hnil]
    rfl
  · rw [nextToken_of_lexeme htok]
    cases tok with
    | value inner => exact absurd rfl (hne inner)
    | _ => rfl

theorem advance_invalidValue (hne : s'.dropWhile isDirectiveSpace ≠ [])
    (hnone : ∀ tok s, ¬Lexeme (s'.dropWhile isDirectiveSpace) tok s) :
    r.advance = .error ⟨behind ((behind r.position t).advanceLines (utf8 "=")) s',
      .invalidInput (s'.dropWhile isDirectiveSpace)⟩ := by
  rw [advance_equals hr hequals]
  dsimp only
  rw [nextToken_of_not_lexeme hne hnone]
  rfl

end Value

/-! ## The reader along a scan -/

/-- What carries a relation between spots and readers along a scan: each step is a report that shows
what the scan sees, each fault is an error of the reader, and the end is reported. -/
structure Simulation (content : Text) (Meets : Spot → Reader → Prop) (Shows : Sight → Event → Prop)
    (Fails : ScanFault → Nat → ScanError → Prop) : Prop where
  live {c : Spot} {r : Reader} : Meets c r → r.last.kind ≠ .eof
  step {c c' : Spot} {r : Reader} {s : Sight} : Meets c r → Step content c s c' →
    ∃ r', r.advance = .ok r' ∧ Meets c' r' ∧ Shows s r'.last
  fault {c : Spot} {r : Reader} {f : ScanFault} {n : Nat} : Meets c r → Fault content c f n →
    ∃ e, r.advance = .error e ∧ Fails f n e
  done {after : Bool} {r : Reader} : Meets ⟨content.length, .text after⟩ r →
    ∃ r', r.advance = .ok r' ∧ r'.last.kind = .eof ∧ Shows (.eof content.length) r'.last

/-- Whether a fault is an error of the reader. -/
def FaultIs (Fails : ScanFault → Nat → ScanError → Prop) :
    Option (ScanFault × Nat) → Option ScanError → Prop
  | none, none => True
  | some (f, n), some e => Fails f n e
  | _, _ => False

theorem run_of_ok {r r' : Reader} (hlive : r.last.kind ≠ .eof) (h : r.advance = .ok r') :
    r.run = (r'.last :: r'.run.1, r'.run.2) := by
  rw [Reader.run, dif_neg hlive]
  split
  · next he =>
    rw [h] at he
    cases he
  · next he =>
    rw [h] at he
    cases he
    rfl

theorem run_of_error {r : Reader} {e : ScanError} (hlive : r.last.kind ≠ .eof)
    (h : r.advance = .error e) : r.run = ([], some e) := by
  rw [Reader.run, dif_neg hlive]
  split
  · next he =>
    rw [h] at he
    cases he
    rfl
  · next he =>
    rw [h] at he
    cases he

theorem run_of_eof {r : Reader} (h : r.last.kind = .eof) : r.run = ([], none) := by
  rw [Reader.run, dif_pos h]

variable {content : Text} {c : Spot} {r : Reader}

/-- **The run**: the reader reports what the scan sees. -/
theorem Simulation.run {Meets : Spot → Reader → Prop} {Shows : Sight → Event → Prop}
    {Fails : ScanFault → Nat → ScanError → Prop} (h : Simulation content Meets Shows Fails)
    {ss : List Sight} {f : Option (ScanFault × Nat)} (hscan : Scan content c ss f)
    (hr : Meets c r) : List.Forall₂ Shows ss r.run.1 ∧ FaultIs Fails f r.run.2 := by
  induction hscan generalizing r with
  | done after =>
    obtain ⟨r', hadvance, heof, hshows⟩ := h.done hr
    rw [run_of_ok (h.live hr) hadvance, run_of_eof heof]
    exact ⟨.cons hshows .nil, trivial⟩
  | fault hfault =>
    obtain ⟨e, hadvance, hfails⟩ := h.fault hr hfault
    rw [run_of_error (h.live hr) hadvance]
    exact ⟨.nil, hfails⟩
  | step hstep _ ih =>
    obtain ⟨r', hadvance, hmeets, hshows⟩ := h.step hr hstep
    obtain ⟨hevents, hfault⟩ := ih hmeets
    rw [run_of_ok (h.live hr) hadvance]
    exact ⟨.cons hshows hevents, hfault⟩

/-! ## Kinds and values -/

/-- A reader at a spot of a text. -/
structure Follows (content : Text) (c : Spot) (r : Reader) : Prop where
  rest : r.rest = content.drop c.offset
  live : r.last.kind ≠ .eof
  mode : match c.mode with
    | .text after => r.inDirective = false ∧ r.afterDirective = after
    | .directive _ => r.inDirective = true

theorem follows_ofFile (file content : Text) :
    Follows content .start (.ofFile file content) :=
  ⟨rfl, by simp [Reader.ofFile], rfl, rfl⟩

theorem Follows.stands_text {n : Nat} {after : Bool} (h : Follows content ⟨n, .text after⟩ r) :
    r.Stands (content.drop n) false := ⟨h.rest, h.mode.1, h.live⟩

theorem Follows.stands_directive {n opened : Nat} (h : Follows content ⟨n, .directive opened⟩ r) :
    r.Stands (content.drop n) true := ⟨h.rest, h.mode, h.live⟩

theorem eventKind_ne_eof (kind : CodeKind) : kind.eventKind ≠ .eof := by cases kind <;> decide

theorem TextEnds.ne_nil {n j : Nat} (h : TextEnds (content.drop n) j) (hpos : 0 < j) :
    content.drop n ≠ [] := by
  intro hnil
  rcases h with h | ⟨rfl, -⟩
  · exact absurd (h.1.lt (by decide)) (by rw [hnil]; simp)
  · rw [hnil] at hpos
    exact absurd hpos (by simp)

/-- An equals sign behind white space. -/
theorem equals_behind {n : Nat} {s : Text}
    (h : Lexeme (content.drop (behindSpace content n)) .equals s) :
    Lexeme ((content.drop n).dropWhile isDirectiveSpace) .equals
      (content.drop (behindSpace content n + 1)) := by
  have hs : content.drop (behindSpace content n + 1) = s := drop_of_append h.raw_append
  rwa [hs, ← drop_behindSpace]

/-- **One step** is one report of its kind and value. -/
theorem Follows.step {c' : Spot} {s : Sight} (h : Follows content c r)
    (hstep : Step content c s c') :
    ∃ r', r.advance = .ok r' ∧ Follows content c' r' ∧ r'.last.kind = s.kind ∧
      r'.last.value = s.value := by
  cases hstep with
  | text hend hpos hraw hskip =>
    subst hskip hraw
    have hafter := h.mode.2
    refine ⟨_, advance_text h.stands_text hend hpos (hend.ne_nil hpos),
      ⟨List.drop_drop, by simp, h.mode.1, rfl⟩, rfl, ?_⟩
    rw [hafter]
  | code hopen hwidth hend =>
    subst hwidth
    refine ⟨_, advance_code h.stands_text hopen hend,
      ⟨?_, eventKind_ne_eof _, h.mode.1, rfl⟩, rfl, rfl⟩
    rw [← drop_of_append hopen.1, List.drop_drop]
    rfl
  | openDirective hopen =>
    have hstands := h.stands_text
    rw [hopen] at hstands
    exact ⟨_, advance_openDirective hstands, ⟨(drop_of_append hopen).symm, by simp, rfl⟩, rfl, rfl⟩
  | closeDirective hj hclose =>
    subst hj
    have hrest := drop_of_append hclose.raw_append
    rw [drop_behindSpace] at hclose
    exact ⟨_, advance_closeDirective h.stands_directive hclose, ⟨hrest.symm, by simp, rfl, rfl⟩,
      rfl, rfl⟩
  | name hj hname =>
    subst hj
    have hrest := drop_of_append hname.raw_append
    rw [drop_behindSpace] at hname
    exact ⟨_, advance_name h.stands_directive hname, ⟨hrest.symm, by simp, h.mode⟩, rfl, rfl⟩
  | @value n j k opened inner s s' hj hequals hk hvalue =>
    subst hj hk
    have hrest := drop_of_append hvalue.raw_append
    rw [drop_behindSpace] at hvalue
    refine ⟨_, advance_value h.stands_directive (equals_behind hequals) hvalue,
      ⟨?_, by simp, h.mode⟩, rfl, rfl⟩
    rw [← hrest]
    simp [DirectiveToken.raw, Nat.add_assoc]

/-- A fault is an error of the reader. -/
theorem Follows.fault {f : ScanFault} {n : Nat} (h : Follows content c r)
    (hfault : Fault content c f n) : ∃ e, r.advance = .error e ∧ e.fault = f := by
  cases hfault with
  | unclosedTag hopen hend => exact ⟨_, advance_unclosedTag h.stands_text hopen hend, rfl⟩
  | unclosedDirective hend =>
    rw [drop_behindSpace] at hend
    exact ⟨_, advance_unclosedDirective h.stands_directive hend, rfl⟩
  | expectedEquals hj hvalue =>
    rw [hj, drop_behindSpace] at hvalue
    exact ⟨_, advance_expectedEquals h.stands_directive hvalue, rfl⟩
  | expectedValue hj hequals hk hother =>
    subst hj hk
    rw [drop_behindSpace] at hother
    exact ⟨_, advance_expectedValue h.stands_directive (equals_behind hequals) hother, rfl⟩
  | invalid hj hne hnone =>
    rw [hj, drop_behindSpace] at hne hnone ⊢
    exact ⟨_, advance_invalid h.stands_directive hne hnone, rfl⟩
  | invalidValue hj hequals hk hne hnone =>
    subst hj hk
    rw [drop_behindSpace] at hne hnone ⊢
    exact ⟨_, advance_invalidValue h.stands_directive (equals_behind hequals) hne hnone, rfl⟩

theorem Follows.stands_end {after : Bool} (h : Follows content ⟨content.length, .text after⟩ r) :
    r.Stands [] false := by
  have hstands := h.stands_text
  rwa [List.drop_length] at hstands

theorem simulation_follows (content : Text) :
    Simulation content (Follows content) (fun s e => e.kind = s.kind ∧ e.value = s.value)
      (fun f _ e => e.fault = f) where
  live h := h.live
  step h hstep := h.step hstep
  fault h hfault := h.fault hfault
  done h := ⟨_, advance_eof h.stands_end, rfl, rfl, rfl⟩

end Grammar

open Grammar in
/-- **Reading follows the grammar.** Every text has a scan, and the reader reports what the scan
sees, in the same order, and the fault it ends with. The reader comes to the end of a text without a
fault if and only if steps of the grammar lead there from the start. -/
theorem scan_follows_grammar (file content : Text) :
    (∃ sights fault, Scan content .start sights fault) ∧
    (∀ sights fault, Scan content .start sights fault →
      List.Forall₂ (fun s e => e.kind = s.kind ∧ e.value = s.value) sights (scan file content).1 ∧
      (scan file content).2.map ScanError.fault = fault.map Prod.fst) ∧
    ((scan file content).2 = none ↔
      ∃ sights after, Steps content .start sights ⟨content.length, .text after⟩) := by
  have hagrees : ∀ sights fault, Scan content .start sights fault →
      List.Forall₂ (fun s e => e.kind = s.kind ∧ e.value = s.value) sights (scan file content).1 ∧
      (scan file content).2.map ScanError.fault = fault.map Prod.fst := by
    intro sights fault hscan
    obtain ⟨hevents, hfault⟩ :=
      (simulation_follows content).run hscan (follows_ofFile file content)
    refine ⟨hevents, ?_⟩
    unfold scan
    generalize (Reader.ofFile file content).run.2 = error at hfault ⊢
    rcases fault with - | ⟨f, n⟩ <;> rcases error with - | e
    · rfl
    · cases hfault
    · cases hfault
    · exact congrArg some hfault
  have hstart : Spot.start.offset ≤ content.length := Nat.zero_le _
  obtain ⟨sights, fault, hscan⟩ := exists_scan hstart
  refine ⟨⟨sights, fault, hscan⟩, hagrees, fun hnone => ?_, ?_⟩
  · have hfault := (hagrees sights fault hscan).2
    rw [hnone] at hfault
    obtain rfl : fault = none := Option.map_eq_none_iff.1 hfault.symm
    exact hscan.steps
  · rintro ⟨sights, after, hsteps⟩
    have hfault := (hagrees _ _ (hsteps.scan (.done after))).2
    exact Option.map_eq_none_iff.1 hfault

end TextTemplate
