/-
Where a quoted value ends. The rule: a quote closes the value unless a backslash stands right before
it, and a quote behind a backslash does so too when white space, a number sign or the end of the text
follows it (`Closes`). The reader keeps to this rule as long as it can: a value ends at the first
quote that closes it. Where no quote does, the value is not given up: it ends at the last quote there
is, whatever follows (`ValueEnds`).

`value_ends_at_quote` says this of the pattern, of the reader's own search, and of the value that is
reported.
-/
import TextTemplate.Proofs.Template.Scanning

namespace TextTemplate

/-! ## Quotes behind an opening quote -/

/-- Whether the quote at a place behind the opening quote closes the value. -/
def Closes (s : Text) (j : Nat) : Prop :=
  s[j]? = some 0x22 ∧
    (j = 0 ∨ s[j - 1]? ≠ some 0x5C ∨ ∀ b ∈ s[j + 1]?, isDirectiveSpace b ∨ b = 0x23)

instance (s : Text) (j : Nat) : Decidable (Closes s j) :=
  inferInstanceAs (Decidable (_ ∧ _))

/-- Whether a quote is the first that closes the value. -/
def FirstClosing (s : Text) (j : Nat) : Prop := Closes s j ∧ ∀ i < j, ¬Closes s i

/-- Whether a quote is the last one of a text. -/
def LastQuote (s : Text) (j : Nat) : Prop := s[j]? = some 0x22 ∧ ∀ i, j < i → s[i]? ≠ some 0x22

/-- Where a value ends: at the first quote that closes it; where none does, at the last quote. -/
def ValueEnds (s : Text) (j : Nat) : Prop :=
  FirstClosing s j ∨ (∀ i, ¬Closes s i) ∧ LastQuote s j

variable {s : Text}

theorem ValueEnds.quote {j : Nat} (h : ValueEnds s j) : s[j]? = some 0x22 :=
  h.elim (fun h => h.1.1) fun h => h.2.1

/-- A value ends at one place only. -/
theorem ValueEnds.unique {i j : Nat} (hi : ValueEnds s i) (hj : ValueEnds s j) : i = j := by
  rcases hi with hi | ⟨hnone, hi⟩
  · rcases hj with hj | ⟨hnone, -⟩
    · have hle : ¬i < j := fun h => hj.2 i h hi.1
      have hge : ¬j < i := fun h => hi.2 j h hj.1
      omega
    · exact absurd hi.1 (hnone i)
  · rcases hj with hj | ⟨-, hj⟩
    · exact absurd hj.1 (hnone j)
    · have hle : ¬j < i := fun h => hj.2 i h hi.1
      have hge : ¬i < j := fun h => hi.2 j h hj.1
      omega

/-! ### One byte further -/

theorem closes_quote (s : Text) : Closes (0x22 :: s) 0 := ⟨rfl, .inl rfl⟩

theorem endsValue_iff (s : Text) :
    endsValue s = true ↔ ∀ b ∈ s[0]?, isDirectiveSpace b ∨ b = 0x23 := by
  cases s with
  | nil => simp [endsValue]
  | cons b s => simp [endsValue]

/-- A byte that is no quote, and no backslash in front of one, leaves the quotes behind it as they
are. -/
theorem closes_cons {b : UInt8} (hb : b ≠ 0x22) (hesc : b = 0x5C → s[0]? ≠ some 0x22) (j : Nat) :
    Closes (b :: s) j ↔ ∃ i, j = i + 1 ∧ Closes s i := by
  match j with
  | 0 => simp [Closes, hb]
  | 1 =>
    by_cases hs : s[0]? = some 0x22
    · have hslash : b ≠ 0x5C := fun h => hesc h hs
      simp [Closes, hs, hslash]
    · simp [Closes, hs]
  | j + 2 => simp [Closes]

/-- A quote behind a backslash closes the value when what follows ends it. -/
theorem closes_escaped (s : Text) (j : Nat) :
    Closes (0x5C :: 0x22 :: s) j ↔
      j = 1 ∧ endsValue s = true ∨ ∃ i, j = i + 2 ∧ Closes s i := by
  match j with
  | 0 => simp [Closes]
  | 1 => simp [Closes, endsValue_iff]
  | 2 => simp [Closes]
  | j + 3 => simp [Closes]

theorem ValueEnds.cons {b : UInt8} (hb : b ≠ 0x22) (hesc : b = 0x5C → s[0]? ≠ some 0x22) {j : Nat}
    (h : ValueEnds s j) : ValueEnds (b :: s) (j + 1) := by
  rcases h with ⟨hcloses, hfirst⟩ | ⟨hnone, hquote, hlast⟩
  · refine .inl ⟨(closes_cons hb hesc _).2 ⟨j, rfl, hcloses⟩, fun i hi hclose => ?_⟩
    obtain ⟨k, rfl, hk⟩ := (closes_cons hb hesc i).1 hclose
    exact hfirst k (by omega) hk
  · refine .inr ⟨fun i hclose => ?_, hquote, fun i hi => ?_⟩
    · obtain ⟨k, -, hk⟩ := (closes_cons hb hesc i).1 hclose
      exact hnone k hk
    · obtain ⟨k, rfl⟩ : ∃ k, i = k + 1 := ⟨i - 1, by omega⟩
      exact hlast k (by omega)

theorem ValueEnds.escaped (hopen : endsValue s = false) {j : Nat} (h : ValueEnds s j) :
    ValueEnds (0x5C :: 0x22 :: s) (j + 2) := by
  have hshift (i : Nat) : Closes (0x5C :: 0x22 :: s) i ↔ ∃ k, i = k + 2 ∧ Closes s k := by
    simp [closes_escaped, hopen]
  rcases h with ⟨hcloses, hfirst⟩ | ⟨hnone, hquote, hlast⟩
  · refine .inl ⟨(hshift _).2 ⟨j, rfl, hcloses⟩, fun i hi hclose => ?_⟩
    obtain ⟨k, rfl, hk⟩ := (hshift i).1 hclose
    exact hfirst k (by omega) hk
  · refine .inr ⟨fun i hclose => ?_, hquote, fun i hi => ?_⟩
    · obtain ⟨k, -, hk⟩ := (hshift i).1 hclose
      exact hnone k hk
    · obtain ⟨k, rfl⟩ : ∃ k, i = k + 2 := ⟨i - 2, by omega⟩
      exact hlast k (by omega)

/-- The escaped quote itself ends the value when what follows ends it. -/
theorem valueEnds_of_endsValue (hends : endsValue s = true) :
    ValueEnds (0x5C :: 0x22 :: s) 1 := by
  refine .inl ⟨(closes_escaped s 1).2 (.inl ⟨rfl, hends⟩), fun i hi hclose => ?_⟩
  rcases (closes_escaped s i).1 hclose with ⟨rfl, -⟩ | ⟨k, rfl, -⟩
  · omega
  · omega

/-- The escaped quote itself ends the value when it is the last quote. -/
theorem valueEnds_of_last (hopen : endsValue s = false) (hnone : 0x22 ∉ s) :
    ValueEnds (0x5C :: 0x22 :: s) 1 := by
  have hno (i : Nat) : s[i]? ≠ some 0x22 := fun h => hnone (List.mem_of_getElem? h)
  refine .inr ⟨fun i hclose => ?_, rfl, fun i hi => ?_⟩
  · rcases (closes_escaped s i).1 hclose with ⟨-, hends⟩ | ⟨k, -, hk⟩
    · rw [hopen] at hends
      cases hends
    · exact hno k hk.1
  · obtain ⟨k, rfl⟩ : ∃ k, i = k + 2 := ⟨i - 2, by omega⟩
    exact hno k

/-! ## The reader's search -/

theorem closeQuote?_eq_none_iff (s : Text) : closeQuote? s = none ↔ 0x22 ∉ s := by
  fun_induction closeQuote? s with
  | case1 => simp
  | case2 s => simp
  | case3 s hends => simp
  | case4 s hopen value rest hrest ih => simp
  | case5 s hopen hrest ih => simp
  | case6 b s hb hesc ih =>
    rw [Option.map_eq_none_iff, ih, List.mem_cons, not_or]
    exact ⟨fun h => ⟨fun heq => hb heq.symm, h⟩, And.right⟩

/-- The value that is found ends where it should. -/
theorem valueEnds_of_closeQuote? {value rest : Text} (h : closeQuote? s = some (value, rest)) :
    ValueEnds s value.length := by
  fun_induction closeQuote? s generalizing value rest with
  | case1 => cases h
  | case2 s =>
    cases h
    exact .inl ⟨closes_quote s, fun i hi => absurd hi (Nat.not_lt_zero i)⟩
  | case3 s hends =>
    cases h
    exact valueEnds_of_endsValue hends
  | case4 s hopen v r hrest ih =>
    cases h
    exact (ih hrest).escaped (Bool.eq_false_iff.2 hopen)
  | case5 s hopen hrest ih =>
    cases h
    exact valueEnds_of_last (Bool.eq_false_iff.2 hopen) ((closeQuote?_eq_none_iff s).1 hrest)
  | case6 b s hb hesc ih =>
    obtain ⟨⟨v, r⟩, hrest, heq⟩ := Option.map_eq_some_iff.1 h
    cases heq
    refine (ih hrest).cons hb fun hslash hquote => ?_
    cases s with
    | nil => cases hquote
    | cons c t => exact hesc t hslash (congrArg (· :: t) (Option.some.inj hquote))

/-- **The search**: a value is found exactly when it ends somewhere, and it is what stands in front
of that place. -/
theorem closeQuote?_eq_some_iff (s value rest : Text) :
    closeQuote? s = some (value, rest) ↔
      ∃ j, ValueEnds s j ∧ value = s.take j ∧ rest = s.drop (j + 1) := by
  have htake {value rest : Text} (h : closeQuote? s = some (value, rest)) :
      value = s.take value.length ∧ rest = s.drop (value.length + 1) := by
    have happend := closeQuote?_eq_append h
    constructor
    · rw [← happend, List.take_left]
    · rw [← happend, ← List.drop_drop, List.drop_left]
      rfl
  constructor
  · intro h
    exact ⟨value.length, valueEnds_of_closeQuote? h, htake h⟩
  · rintro ⟨j, hends, rfl, rfl⟩
    cases hclose : closeQuote? s with
    | none =>
      have hnone := (closeQuote?_eq_none_iff s).1 hclose
      exact absurd (List.mem_of_getElem? hends.quote) hnone
    | some p =>
      obtain ⟨value, rest⟩ := p
      obtain ⟨hvalue, hrest⟩ := htake hclose
      rw [(valueEnds_of_closeQuote? hclose).unique hends] at hvalue hrest
      rw [hvalue, hrest]

theorem next?_quote (s : Text) :
    DirectiveToken.next? (0x22 :: s) =
      (closeQuote? s).map fun (inner, rest) => (.value inner, rest) := by
  rw [DirectiveToken.next?]
  · rfl
  · exact fun _ h _ => absurd h (by decide)

theorem next?_quote_eq_some_iff (s inner rest : Text) :
    DirectiveToken.next? (0x22 :: s) = some (.value inner, rest) ↔
      closeQuote? s = some (inner, rest) := by
  rw [next?_quote, Option.map_eq_some_iff]
  constructor
  · rintro ⟨⟨v, r⟩, hclose, heq⟩
    cases heq
    exact hclose
  · exact fun h => ⟨_, h, rfl⟩

/-! ## What is reported -/

section Reported

variable {r : Reader} {space space' : Text}

/-- White space in front of a byte that is none. -/
theorem dropWhile_space {b : UInt8} (hspace : ∀ c ∈ space, isDirectiveSpace c = true)
    (hb : isDirectiveSpace b = false) (t : Text) :
    (space ++ b :: t).dropWhile isDirectiveSpace = b :: t := by
  rw [List.dropWhile_append_of_pos hspace, List.dropWhile_cons, hb]
  rfl

variable (hr : r.Stands (space ++ 0x3D :: (space' ++ 0x22 :: s)) true)
  (hspace : ∀ b ∈ space, isDirectiveSpace b = true)
  (hspace' : ∀ b ∈ space', isDirectiveSpace b = true)

include hr hspace hspace'

/-- A value that is found is reported without the backslashes in front of its quotes. -/
theorem exists_reports_value {value rest : Text} (h : closeQuote? s = some (value, rest)) :
    ∃ r', r.Reports .directiveValue (unquoteValue value) rest true r' := by
  have hequals : Grammar.Lexeme
      ((space ++ 0x3D :: (space' ++ 0x22 :: s)).dropWhile isDirectiveSpace) .equals
      (space' ++ 0x22 :: s) := by
    rw [dropWhile_space hspace (by decide)]
    exact .equals _
  have hvalue : Grammar.Lexeme ((space' ++ 0x22 :: s).dropWhile isDirectiveSpace) (.value value)
      rest := by
    rw [dropWhile_space hspace' (by decide)]
    exact Grammar.lexeme_of_next? ((next?_quote_eq_some_iff s value rest).2 h)
  exact ⟨_, Grammar.advance_value hr hequals hvalue, rfl, rfl, rfl, hr.inside⟩

/-- Where no value is found the text from the quote on is refused. -/
theorem exists_invalid_value (h : closeQuote? s = none) :
    ∃ e, r.advance = .error e ∧ e.fault = .invalidInput (0x22 :: s) := by
  have hequals : Grammar.Lexeme
      ((space ++ 0x3D :: (space' ++ 0x22 :: s)).dropWhile isDirectiveSpace) .equals
      (space' ++ 0x22 :: s) := by
    rw [dropWhile_space hspace (by decide)]
    exact .equals _
  have hquote := dropWhile_space (b := 0x22) hspace' (by decide) s
  have hnone : ∀ tok u, ¬Grammar.Lexeme ((space' ++ 0x22 :: s).dropWhile isDirectiveSpace) tok u := by
    intro tok u hlexeme
    have hnext := hlexeme.next?
    rw [hquote, next?_quote, h] at hnext
    cases hnext
  have hadvance := Grammar.advance_invalidValue hr hequals (by rw [hquote]; simp) hnone
  rw [hquote] at hadvance
  exact ⟨_, hadvance, rfl⟩

end Reported

/-- **Where a quoted value ends.** Behind an opening quote there is a value exactly when there is
another quote. It ends at the first quote that closes it, or, where none does, at the last quote; the
pattern and the reader agree on this. Reported is the text between the two quotes, with every
backslash in front of a quote dropped. Where there is no other quote, reading stops at the opening
one. -/
theorem value_ends_at_quote (s : Text) :
    ((∃ inner rest, DirectiveToken.next? (0x22 :: s) = some (.value inner, rest)) ↔ 0x22 ∈ s) ∧
    (∀ inner rest, DirectiveToken.next? (0x22 :: s) = some (.value inner, rest) ↔
      ∃ j, ValueEnds s j ∧ inner = s.take j ∧ rest = s.drop (j + 1)) ∧
    (∀ rest, valuePattern.first? (0x22 :: s) = some rest ↔
      ∃ j, ValueEnds s j ∧ rest = s.drop (j + 1)) ∧
    ∀ (r : Reader) (space space' : Text), (∀ b ∈ space, isDirectiveSpace b = true) →
      (∀ b ∈ space', isDirectiveSpace b = true) →
      r.Stands (space ++ 0x3D :: (space' ++ 0x22 :: s)) true →
      (∀ j, ValueEnds s j → ∃ r', r.Reports .directiveValue
        (Text.replace (utf8 "\\\"") (utf8 "\"") (s.take j)) (s.drop (j + 1)) true r') ∧
      (0x22 ∉ s → ∃ e, r.advance = .error e ∧ e.fault = .invalidInput (0x22 :: s)) := by
  have hfound : (∃ inner rest, closeQuote? s = some (inner, rest)) ↔ 0x22 ∈ s := by
    rw [← not_iff_not, ← closeQuote?_eq_none_iff, Option.eq_none_iff_forall_ne_some]
    simp
  refine ⟨?_, fun inner rest => ?_, fun rest => ?_, fun r space space' hspace hspace' hr => ⟨?_, ?_⟩⟩
  · simpa only [next?_quote_eq_some_iff] using hfound
  · rw [next?_quote_eq_some_iff, closeQuote?_eq_some_iff]
  · have hpattern : valuePattern.first? (0x22 :: s) = (closeQuote? s).map Prod.snd :=
      valuePattern_first? _
    rw [hpattern, Option.map_eq_some_iff]
    constructor
    · rintro ⟨⟨value, rest⟩, hclose, rfl⟩
      obtain ⟨j, hends, -, hrest⟩ := (closeQuote?_eq_some_iff s value rest).1 hclose
      exact ⟨j, hends, hrest⟩
    · rintro ⟨j, hends, rfl⟩
      exact ⟨_, (closeQuote?_eq_some_iff s _ _).2 ⟨j, hends, rfl, rfl⟩, rfl⟩
  · intro j hends
    have hclose := (closeQuote?_eq_some_iff s _ _).2 ⟨j, hends, rfl, rfl⟩
    exact exists_reports_value hr hspace hspace' hclose
  · intro hnone
    exact exists_invalid_value hr hspace hspace' ((closeQuote?_eq_none_iff s).2 hnone)

/-- A value whose only other quote is an escaped one. -/
def unclosedValue : Text := utf8 "a\\\"b #>"

theorem not_closes_unclosedValue (j : Nat) : ¬Closes unclosedValue j := by
  intro hclose
  have hlength : j < unclosedValue.length := by
    by_contra hle
    rw [Closes, List.getElem?_eq_none (by omega)] at hclose
    cases hclose.1
  have hnone : ∀ i < unclosedValue.length, ¬Closes unclosedValue i := by decide +kernel
  exact hnone j hlength hclose

/-- No quote closes it, and yet there is a value, which ends at the escaped quote. -/
theorem unclosed_value_ends : (∀ j, ¬Closes unclosedValue j) ∧
    DirectiveToken.next? (0x22 :: unclosedValue) =
      some (.value (utf8 "a\\"), utf8 "b #>") :=
  ⟨not_closes_unclosedValue, by decide +kernel⟩

/-- A reader behind the name of an attribute with this value. -/
def unclosedReader : Reader :=
  { Reader.ofFile [] [] with rest := utf8 " =\t\"" ++ unclosedValue, inDirective := true }

/-- Reported is what stands in front of the escaped quote, with the backslash. -/
theorem value_ends_at_quote_unclosed :
    ValueEnds unclosedValue 2 ∧ unclosedReader.Stands (utf8 " =\t\"" ++ unclosedValue) true ∧
      ∃ r', unclosedReader.Reports .directiveValue (utf8 "a\\") (utf8 "b #>") true r' := by
  have hends : ValueEnds unclosedValue 2 := by
    refine .inr ⟨not_closes_unclosedValue, by decide +kernel, fun i hi => ?_⟩
    have hsplit : unclosedValue = unclosedValue.take 3 ++ utf8 "b #>" := by decide +kernel
    have hquote : 0x22 ∉ utf8 "b #>" := by decide +kernel
    rw [hsplit, List.getElem?_append_right (by exact hi)]
    exact fun h => hquote (List.mem_of_getElem? h)
  have hstands : unclosedReader.Stands (utf8 " =\t\"" ++ unclosedValue) true :=
    ⟨rfl, rfl, by decide⟩
  obtain ⟨-, -, -, hreader⟩ := value_ends_at_quote unclosedValue
  obtain ⟨hreports, -⟩ := hreader unclosedReader (utf8 " ") (utf8 "\t") (by decide +kernel)
    (by decide +kernel) hstands
  exact ⟨hends, hstands, hreports 2 hends⟩

end TextTemplate
