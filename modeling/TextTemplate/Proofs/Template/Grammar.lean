/-
The template grammar. A template is read in steps from one offset to a later one: a run of text, a
code tag, and of a directive its opening, its names, its values and its closing (`Grammar.Step`).
Where no step leads on, a fault says why (`Grammar.Fault`). A scan takes steps from the start to the
end of the text or to a fault (`Grammar.Scan`), and every text has one (`Grammar.exists_scan`).

Regions are described by the place they end at: the first marker that no backslash stands right
before. Names and quoted values are described by their patterns.
-/
import Mathlib.Data.Nat.Find
import TextTemplate.Proofs.Template.Pattern
import TextTemplate.Proofs.Template.RoundTrip

namespace TextTemplate
namespace Grammar

/-! ## Regions -/

/-- The marker a tag starts with. -/
def tagStart : Text := utf8 "<#"

/-- The marker a tag ends with. -/
def tagEnd : Text := utf8 "#>"

/-- Whether a marker stands at a place of a region with no backslash of the region right before
it. -/
def Stops (marker s : Text) (j : Nat) : Prop :=
  marker <+: s.drop j ∧ (j = 0 ∨ s[j - 1]? ≠ some 0x5C)

/-- The place a region ends at. -/
def FirstStop (marker s : Text) (j : Nat) : Prop := Stops marker s j ∧ ∀ i < j, ¬Stops marker s i

/-- A text without the backslash in front of each marker. -/
def resolve (marker s : Text) : Text := Text.replace (0x5C :: marker) marker s

/-- The length of the line break a text starts with. -/
def lineBreak : Text → Nat
  | 0x0D :: 0x0A :: _ => 2
  | 0x0D :: _ => 1
  | 0x0A :: _ => 1
  | _ => 0

/-- How much of a region of text belongs to a directive in front of it. -/
def swallowed (afterDirective : Bool) (raw : Text) : Nat :=
  if afterDirective then lineBreak raw else 0

/-- Where a region of text ends: at the first tag or at the end. -/
def TextEnds (s : Text) (j : Nat) : Prop :=
  FirstStop tagStart s j ∨ j = s.length ∧ ∀ i, ¬Stops tagStart s i

/-- What a code tag is opened by: a marker of its own, or `<#` with none of the other tags' signs
behind it. -/
def Opens (kind : CodeKind) (t s : Text) : Prop :=
  t = kind.opening ++ s ∧
    (kind = .block → s.head? ≠ some 0x40 ∧ s.head? ≠ some 0x3D ∧ s.head? ≠ some 0x2B)

/-! ## Directives -/

/-- The part of a directive that a text starts with, and what follows it. -/
inductive Lexeme : Text → DirectiveToken → Text → Prop where
  | close (s : Text) : Lexeme (tagEnd ++ s) .close s
  | name {name s : Text} : namePattern.first? (name ++ s) = some s →
      Lexeme (name ++ s) (.name name) s
  | equals (s : Text) : Lexeme (utf8 "=" ++ s) .equals s
  | value {inner s : Text} : valuePattern.first? (utf8 "\"" ++ inner ++ utf8 "\"" ++ s) = some s →
      Lexeme (utf8 "\"" ++ inner ++ utf8 "\"" ++ s) (.value inner) s

/-! ## Steps -/

/-- Where a scan is: outside directives, perhaps right behind one, or inside one that opened at an
offset. -/
inductive Mode where
  | text (afterDirective : Bool)
  | directive (opened : Nat)
  deriving DecidableEq, Repr

/-- An offset of a scan and its mode. -/
structure Spot where
  offset : Nat
  mode : Mode
  deriving DecidableEq, Repr

/-- The start of a text. -/
def Spot.start : Spot := ⟨0, .text false⟩

/-- What a scan sees: a kind and a value, the offset of the value, the offset its run of text or its
tag starts at, and the offset behind it if this is the end of a run or a tag. -/
structure Sight where
  kind : EventKind
  value : Text
  place : Nat
  opened : Nat
  stop : Option Nat
  deriving DecidableEq, Repr

variable (content : Text)

/-- The offset behind white space. -/
def behindSpace (n : Nat) : Nat := n + ((content.drop n).takeWhile isDirectiveSpace).length

/-- One step of a scan. -/
inductive Step : Spot → Sight → Spot → Prop where
  /-- A run of text, less the line break that belongs to a directive. -/
  | text {n j skip : Nat} {after : Bool} {raw : Text} (hend : TextEnds (content.drop n) j)
      (hpos : 0 < j) (hraw : raw = (content.drop n).take j) (hskip : skip = swallowed after raw) :
    Step ⟨n, .text after⟩
      ⟨.content, resolve tagStart (raw.drop skip), n + skip, n, some (n + j)⟩ ⟨n + j, .text false⟩
  /-- A code tag. -/
  | code {n j width : Nat} {after : Bool} {kind : CodeKind} {s : Text}
      (hopen : Opens kind (content.drop n) s) (hwidth : width = kind.opening.length)
      (hend : FirstStop tagEnd s j) :
    Step ⟨n, .text after⟩
      ⟨kind.eventKind, resolve tagEnd (s.take j), n + width, n, some (n + width + j + 2)⟩
      ⟨n + width + j + 2, .text false⟩
  /-- The opening of a directive. -/
  | openDirective {n : Nat} {after : Bool} {s : Text} (hopen : content.drop n = utf8 "<#@" ++ s) :
    Step ⟨n, .text after⟩ ⟨.directive, [], n + 3, n, none⟩ ⟨n + 3, .directive n⟩
  /-- The closing of a directive. -/
  | closeDirective {n j opened : Nat} {s : Text} (hj : j = behindSpace content n)
      (hclose : Lexeme (content.drop j) .close s) :
    Step ⟨n, .directive opened⟩ ⟨.directive, [], j, opened, some (j + 2)⟩ ⟨j + 2, .text true⟩
  /-- A name in a directive. -/
  | name {n j opened : Nat} {name s : Text} (hj : j = behindSpace content n)
      (hname : Lexeme (content.drop j) (.name name) s) :
    Step ⟨n, .directive opened⟩ ⟨.directiveName, name, j, opened, none⟩
      ⟨j + name.length, .directive opened⟩
  /-- An equals sign and a quoted value in a directive. -/
  | value {n j k opened : Nat} {inner s s' : Text} (hj : j = behindSpace content n)
      (hequals : Lexeme (content.drop j) .equals s') (hk : k = behindSpace content (j + 1))
      (hvalue : Lexeme (content.drop k) (.value inner) s) :
    Step ⟨n, .directive opened⟩ ⟨.directiveValue, unquoteValue inner, k + 1, opened, none⟩
      ⟨k + inner.length + 2, .directive opened⟩

/-- Why a scan cannot go on, and the offset of the fault. -/
inductive Fault : Spot → ScanFault → Nat → Prop where
  | unclosedTag {n : Nat} {after : Bool} {kind : CodeKind} {s : Text}
      (hopen : Opens kind (content.drop n) s) (hend : ∀ j, ¬Stops tagEnd s j) :
    Fault ⟨n, .text after⟩ (.unclosedTag kind.eventKind) n
  | unclosedDirective {n opened : Nat} (hend : content.drop (behindSpace content n) = []) :
    Fault ⟨n, .directive opened⟩ .unclosedDirective opened
  /-- A quoted value without an equals sign. -/
  | expectedEquals {n j opened : Nat} {inner s : Text} (hj : j = behindSpace content n)
      (hvalue : Lexeme (content.drop j) (.value inner) s) :
    Fault ⟨n, .directive opened⟩ .expectedEquals j
  /-- An equals sign with something else than a quoted value behind it. -/
  | expectedValue {n j k opened : Nat} {s : Text} (hj : j = behindSpace content n)
      (hequals : Lexeme (content.drop j) .equals s) (hk : k = behindSpace content (j + 1))
      (hother : content.drop k = [] ∨
        ∃ t s, Lexeme (content.drop k) t s ∧ ∀ inner, t ≠ .value inner) :
    Fault ⟨n, .directive opened⟩ .expectedValue k
  /-- Something that is no part of a directive. -/
  | invalid {n j opened : Nat} (hj : j = behindSpace content n) (hne : content.drop j ≠ [])
      (hnone : ∀ t s, ¬Lexeme (content.drop j) t s) :
    Fault ⟨n, .directive opened⟩ (.invalidInput (content.drop j)) j
  /-- An equals sign with something behind it that is no part of a directive. -/
  | invalidValue {n j k opened : Nat} {s : Text} (hj : j = behindSpace content n)
      (hequals : Lexeme (content.drop j) .equals s) (hk : k = behindSpace content (j + 1))
      (hne : content.drop k ≠ []) (hnone : ∀ t s, ¬Lexeme (content.drop k) t s) :
    Fault ⟨n, .directive opened⟩ (.invalidInput (content.drop k)) k

/-- Steps one after the other. -/
inductive Steps : Spot → List Sight → Spot → Prop where
  | nil (c : Spot) : Steps c [] c
  | cons {c c' c'' : Spot} {s : Sight} {ss : List Sight} (hstep : Step content c s c')
      (hsteps : Steps c' ss c'') : Steps c (s :: ss) c''

/-- What is seen at the end of a text. -/
def Sight.eof (n : Nat) : Sight := ⟨.eof, [], n, n, some n⟩

/-- A scan: what it sees up to the end of the text, which it sees last, or up to a fault. -/
inductive Scan : Spot → List Sight → Option (ScanFault × Nat) → Prop where
  | done (after : Bool) : Scan ⟨content.length, .text after⟩ [.eof content.length] none
  | fault {c : Spot} {f : ScanFault} {n : Nat} (hfault : Fault content c f n) :
    Scan c [] (some (f, n))
  | step {c c' : Spot} {s : Sight} {ss : List Sight} {f : Option (ScanFault × Nat)}
      (hstep : Step content c s c') (hscan : Scan c' ss f) : Scan c (s :: ss) f

variable {content}

/-! ## Where regions end -/

variable {s : Text}

theorem Stops.lt {marker : Text} {j : Nat} (hm : marker ≠ []) (h : Stops marker s j) :
    j < s.length := by
  by_contra hle
  have hnil : s.drop j = [] := List.drop_eq_nil_of_le (by omega)
  have := h.1
  rw [hnil, List.prefix_nil] at this
  exact hm this

theorem stops_zero {marker : Text} : Stops marker s 0 ↔ marker <+: s := by simp [Stops]

theorem stops_succ {marker : Text} (c : UInt8) (j : Nat) :
    Stops marker (c :: s) (j + 1) ↔ Stops marker s j ∧ (j = 0 → c ≠ 0x5C) := by
  cases j with
  | zero => simp [Stops]
  | succ j => simp [Stops]

/-- A region ends somewhere, or nowhere. -/
theorem firstStop_or (marker s : Text) :
    (∃ j, FirstStop marker s j) ∨ ∀ j, ¬Stops marker s j := by
  by_cases h : ∃ j, Stops marker s j
  · classical
    exact .inl ⟨Nat.find h, Nat.find_spec h, fun i hi => Nat.find_min h hi⟩
  · exact .inr (not_exists.1 h)

/-! ## Parts of directives -/

/-- The part the reader finds is one of the text. -/
theorem lexeme_of_next? {t s : Text} {tok : DirectiveToken}
    (h : DirectiveToken.next? t = some (tok, s)) : Lexeme t tok s := by
  have happend := DirectiveToken.next?_eq_append h
  unfold DirectiveToken.next? at h
  split at h
  · cases h
  · cases h
    exact .close s
  · next b u hnot =>
    split at h
    · next hb =>
      cases h
      rw [← happend]
      refine .name ?_
      rw [happend, namePattern_first?]
      exact if_pos hb
    split at h
    · next hb =>
      cases h
      rw [hb]
      exact .equals _
    split at h
    · next hb =>
      obtain ⟨⟨inner, rest⟩, hclose, htok⟩ := Option.map_eq_some_iff.1 h
      cases htok
      rw [← happend]
      have hvalue : Lexeme (utf8 "\"" ++ inner ++ utf8 "\"" ++ s) (.value inner) s := by
        refine .value ?_
        have hu : utf8 "\"" ++ inner ++ utf8 "\"" ++ s = 0x22 :: u := by
          rw [← hb]
          exact happend
        rw [hu, valuePattern_first?]
        simp [hclose]
      exact hvalue
    · cases h

/-- The reader finds the part a text starts with. -/
theorem Lexeme.next? {t s : Text} {tok : DirectiveToken} (h : Lexeme t tok s) :
    DirectiveToken.next? t = some (tok, s) := by
  cases h with
  | close => rfl
  | @name name _ h =>
    rw [namePattern_first?] at h
    generalize ht : name ++ s = t at h
    split at h
    · cases h
    · next b u =>
      split at h
      · next hb =>
        have hs : u.dropWhile isNamePart = s := Option.some.inj h
        have hname : b :: u.takeWhile isNamePart = name := by
          refine (List.append_left_inj s).1 ?_
          rw [ht, ← hs, List.cons_append, List.takeWhile_append_dropWhile]
        rw [DirectiveToken.next?, if_pos hb, hname, hs]
        exact fun _ h _ => (Reader.isNameStart_cases hb).2 h
      · cases h
  | equals => rfl
  | @value inner _ h =>
    have ht : utf8 "\"" ++ inner ++ utf8 "\"" ++ s = 0x22 :: (inner ++ 0x22 :: s) := by
      rw [List.append_assoc, List.append_assoc]
      rfl
    rw [ht, valuePattern_first?] at h
    obtain ⟨⟨v, r⟩, hclose, hr⟩ := Option.map_eq_some_iff.1 h
    cases hr
    have hv : v = inner := List.append_cancel_right (closeQuote?_eq_append hclose)
    rw [ht, DirectiveToken.next?]
    · simp [hclose, hv, show isNameStart 0x22 = false from rfl]
    · exact fun _ h _ => absurd h (by decide)

theorem Lexeme.raw_append {t s : Text} {tok : DirectiveToken} (h : Lexeme t tok s) :
    t = tok.raw ++ s := (DirectiveToken.next?_eq_append h.next?).symm

theorem drop_behindSpace (content : Text) (n : Nat) :
    content.drop (behindSpace content n) = (content.drop n).dropWhile isDirectiveSpace := by
  have happend := List.takeWhile_append_dropWhile (p := isDirectiveSpace) (l := content.drop n)
  rw [behindSpace, ← List.drop_drop]
  exact (congrArg (List.drop _) happend.symm).trans (List.drop_left' rfl)

/-! ## Scans end -/

theorem drop_of_append {n : Nat} {u v : Text} (h : content.drop n = u ++ v) :
    content.drop (n + u.length) = v := by
  rw [← List.drop_drop, h, List.drop_left]

theorem length_of_append {n : Nat} {u v : Text} (h : content.drop n = u ++ v) (hne : u ≠ []) :
    n + u.length ≤ content.length := by
  have hlength := congrArg List.length h
  rw [List.length_drop, List.length_append] at hlength
  have := List.length_pos_iff.2 hne
  omega

theorem le_behindSpace (content : Text) (n : Nat) : n ≤ behindSpace content n :=
  Nat.le_add_right _ _

theorem length_raw_value (inner : Text) :
    (DirectiveToken.value inner).raw.length = inner.length + 2 := by
  simp [DirectiveToken.raw]

theorem Lexeme.raw_ne_nil {t s : Text} {tok : DirectiveToken} (h : Lexeme t tok s) :
    tok.raw ≠ [] := List.length_pos_iff.1 (DirectiveToken.length_raw_pos h.next?)

theorem length_of_firstStop {marker : Text} {n j : Nat} (hm : marker ≠ [])
    (hstop : FirstStop marker (content.drop n) j) :
    n + j + marker.length ≤ content.length := by
  obtain ⟨u, hu⟩ := hstop.1.1
  rw [List.drop_drop] at hu
  exact length_of_append hu.symm hm

theorem opening_ne_nil (kind : CodeKind) : kind.opening ≠ [] := by cases kind <;> decide

/-- **One step** reads at least a byte, and none behind the end. -/
theorem Step.lt {c c' : Spot} {s : Sight} (h : Step content c s c') :
    c.offset < c'.offset ∧ c'.offset ≤ content.length := by
  cases h with
  | @text n j _ _ _ hend hpos =>
    have hj : j ≤ (content.drop n).length := by
      rcases hend with h | ⟨rfl, -⟩
      · exact Nat.le_of_lt (h.1.lt (by decide))
      · exact Nat.le_refl _
    rw [List.length_drop] at hj
    dsimp only
    omega
  | @code n j _ _ kind s hopen hwidth hend =>
    have hs := drop_of_append hopen.1
    rw [← hs] at hend
    have hlength := length_of_firstStop (by decide) hend
    have hwide := List.length_pos_iff.2 (opening_ne_nil kind)
    have htwo : tagEnd.length = 2 := rfl
    dsimp only
    omega
  | openDirective hopen =>
    have := length_of_append hopen (by decide)
    exact ⟨Nat.lt_add_of_pos_right (by decide), this⟩
  | @closeDirective n j _ _ hj hclose =>
    have hlength := length_of_append hclose.raw_append (by decide)
    have hle := le_behindSpace content n
    have htwo : DirectiveToken.close.raw.length = 2 := rfl
    dsimp only
    omega
  | @name n j _ name _ hj hname =>
    have hlength := length_of_append hname.raw_append hname.raw_ne_nil
    have hpos := List.length_pos_iff.2 hname.raw_ne_nil
    have hle := le_behindSpace content n
    have hraw : (DirectiveToken.name name).raw.length = name.length := rfl
    dsimp only
    omega
  | @value n j k _ inner _ _ hj hequals hk hvalue =>
    have hlength := length_of_append hvalue.raw_append hvalue.raw_ne_nil
    have hle := le_behindSpace content n
    have hle' := le_behindSpace content (j + 1)
    have hraw := length_raw_value inner
    dsimp only
    omega

theorem opens_of_prefix {t : Text} (h : tagStart <+: t) :
    (∃ s, t = utf8 "<#@" ++ s) ∨ ∃ kind s, Opens kind t s := by
  obtain ⟨s, rfl⟩ := h
  cases s with
  | nil => exact .inr ⟨.block, [], rfl, by simp⟩
  | cons c s =>
    by_cases h1 : c = 0x40
    · exact .inl ⟨s, by rw [h1]; rfl⟩
    by_cases h2 : c = 0x3D
    · exact .inr ⟨.expression, s, by rw [h2]; rfl, by simp⟩
    by_cases h3 : c = 0x2B
    · exact .inr ⟨.helper, s, by rw [h3]; rfl, by simp⟩
    · exact .inr ⟨.block, c :: s, rfl, by simp [h1, h2, h3]⟩

/-- From every spot a step leads on, or there is a fault, unless it is the end. -/
theorem exists_step {c : Spot} (hc : c.offset ≤ content.length) :
    (∃ after, c = ⟨content.length, .text after⟩) ∨ (∃ s c', Step content c s c') ∨
      ∃ f n, Fault content c f n := by
  obtain ⟨n, mode⟩ := c
  cases mode with
  | text after =>
    by_cases hnil : content.drop n = []
    · have hn : n = content.length := Nat.le_antisymm hc (List.drop_eq_nil_iff.1 hnil)
      exact .inl ⟨after, by rw [hn]⟩
    by_cases hp : tagStart <+: content.drop n
    · right
      rcases opens_of_prefix hp with ⟨s, hopen⟩ | ⟨kind, s, hopen⟩
      · exact .inl ⟨_, _, .openDirective hopen⟩
      · rcases firstStop_or tagEnd s with ⟨j, hj⟩ | hnone
        · exact .inl ⟨_, _, .code hopen rfl hj⟩
        · exact .inr ⟨_, _, .unclosedTag hopen hnone⟩
    · refine .inr (.inl ?_)
      rcases firstStop_or tagStart (content.drop n) with ⟨j, hj⟩ | hnone
      · have hpos : 0 < j := by
          by_contra h
          have : j = 0 := by omega
          subst this
          exact hp (stops_zero.1 hj.1)
        exact ⟨_, _, .text (.inl hj) hpos rfl rfl⟩
      · exact ⟨_, _, .text (.inr ⟨rfl, hnone⟩) (List.length_pos_iff.2 hnil) rfl rfl⟩
  | directive opened =>
    right
    by_cases hnil : content.drop (behindSpace content n) = []
    · exact .inr ⟨_, _, .unclosedDirective hnil⟩
    by_cases hlex : ∃ tok s, Lexeme (content.drop (behindSpace content n)) tok s
    · obtain ⟨tok, s, hlex⟩ := hlex
      cases tok with
      | close => exact .inl ⟨_, _, .closeDirective rfl hlex⟩
      | name name => exact .inl ⟨_, _, .name rfl hlex⟩
      | value inner => exact .inr ⟨_, _, .expectedEquals rfl hlex⟩
      | equals =>
        generalize hk : behindSpace content (behindSpace content n + 1) = k
        by_cases hnil' : content.drop k = []
        · exact .inr ⟨_, _, .expectedValue rfl hlex hk.symm (.inl hnil')⟩
        by_cases hlex' : ∃ tok s, Lexeme (content.drop k) tok s
        · obtain ⟨tok, s', hlex'⟩ := hlex'
          by_cases hv : ∃ inner, tok = .value inner
          · obtain ⟨inner, rfl⟩ := hv
            exact .inl ⟨_, _, .value rfl hlex hk.symm hlex'⟩
          · exact .inr ⟨_, _, .expectedValue rfl hlex hk.symm
              (.inr ⟨tok, s', hlex', fun inner h => hv ⟨inner, h⟩⟩)⟩
        · exact .inr ⟨_, _, .invalidValue rfl hlex hk.symm hnil' fun tok s h => hlex' ⟨tok, s, h⟩⟩
    · exact .inr ⟨_, _, .invalid rfl hnil fun tok s h => hlex ⟨tok, s, h⟩⟩

/-- **The run**: every spot has a scan. -/
theorem exists_scan {c : Spot} (hc : c.offset ≤ content.length) : ∃ ss f, Scan content c ss f := by
  induction hn : content.length - c.offset using Nat.strongRecOn generalizing c with
  | ind n ih =>
    subst hn
    rcases exists_step hc with ⟨after, rfl⟩ | ⟨s, c', hstep⟩ | ⟨f, n, hfault⟩
    · exact ⟨_, _, .done after⟩
    · obtain ⟨hlt, hle⟩ := hstep.lt
      obtain ⟨ss, f, hscan⟩ := ih _ (by omega) hle rfl
      exact ⟨s :: ss, f, .step hstep hscan⟩
    · exact ⟨_, _, .fault hfault⟩

/-- A scan without a fault is made of steps to the end. -/
theorem Scan.steps {c : Spot} {ss : List Sight} (h : Scan content c ss none) :
    ∃ ss' after, Steps content c ss' ⟨content.length, .text after⟩ := by
  generalize hf : (none : Option (ScanFault × Nat)) = f at h
  induction h with
  | done after => exact ⟨[], after, .nil _⟩
  | fault => cases hf
  | step hstep _ ih =>
    obtain ⟨ss', after, hsteps⟩ := ih hf
    exact ⟨_, after, .cons hstep hsteps⟩

theorem Steps.scan {c c' : Spot} {ss ss' : List Sight} {f : Option (ScanFault × Nat)}
    (h : Steps content c ss c') (h' : Scan content c' ss' f) : Scan content c (ss ++ ss') f := by
  induction h with
  | nil => exact h'
  | cons hstep _ ih => exact .step hstep (ih h')

end Grammar
end TextTemplate
