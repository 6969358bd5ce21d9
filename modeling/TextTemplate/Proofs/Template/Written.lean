/-
Templates as they are written: a list of items, each a stretch of content, a code tag or a
directive, and the text an author writes for it. A marker inside a text gets a backslash in front,
and so does a quote inside an attribute value.

`TemplateItem.Writable` says which items have a written form, and `TemplateItem.AllWritable` which
lists of them. The main statements are about a written text with anything behind it: a region ends
where the text was written to end and has the text's value (`Region.before_escapeMarker`), and a
quoted value is closed by the quote written last (`closeQuote?_escapeQuotes`) and stands for the
value (`unquoteValue_escapeQuotes`).
-/
import TextTemplate.Template.Parsed
import TextTemplate.Proofs.Text.Basic

namespace TextTemplate

/-! ## Items -/

/-- The kinds of code tags. -/
inductive CodeKind where
  | expression
  | block
  | helper
  deriving DecidableEq, Repr

namespace CodeKind

/-- What opens a tag. -/
def opening : CodeKind → Text
  | expression => utf8 "<#="
  | block => utf8 "<#"
  | helper => utf8 "<#+"

def pieceKind : CodeKind → PieceKind
  | expression => .expression
  | block => .block
  | helper => .helper

def eventKind : CodeKind → EventKind
  | expression => .expression
  | block => .block
  | helper => .helper

end CodeKind

/-- A part of a template: content, a code tag, or a directive with its attributes. -/
inductive TemplateItem where
  | content (text : Text)
  | code (kind : CodeKind) (text : Text)
  | directive (name : Text) (attributes : List (Text × Text))
  deriving DecidableEq, Repr

/-- A text with a backslash in front of every marker `a b`. -/
def escapeMarker (a b : UInt8) (s : Text) : Text := Text.replace [a, b] [0x5C, a, b] s

/-- A text with a backslash in front of every quote. -/
def escapeQuotes (s : Text) : Text := Text.replace [0x22] [0x5C, 0x22] s

/-- An attribute with the blank in front of it. -/
def renderAttribute (a : Text × Text) : Text :=
  0x20 :: a.1 ++ 0x3D :: 0x22 :: escapeQuotes a.2 ++ [0x22]

namespace TemplateItem

/-- The text of an item. -/
def render : TemplateItem → Text
  | content text => escapeMarker 0x3C 0x23 text
  | code kind text => kind.opening ++ escapeMarker 0x23 0x3E text ++ utf8 "#>"
  | directive name attributes =>
    utf8 "<#@ " ++ name ++ attributes.flatMap renderAttribute ++ utf8 " #>"

/-- What stands between an item and the next: a directive ends its line in front of content. -/
def between : TemplateItem → TemplateItem → Text
  | directive _ _, content _ => [0x0A]
  | _, _ => []

/-- The text of a list of items. -/
def renderAll : List TemplateItem → Text
  | [] => []
  | [i] => i.render
  | i :: j :: rest => i.render ++ i.between j ++ renderAll (j :: rest)

end TemplateItem

/-! ## Which items can be written -/

/-- A name: a letter or underscore, then letters, digits, underscores, dots and hyphens. -/
def isName : Text → Bool
  | [] => false
  | b :: s => isNameStart b && s.all isNamePart

/-- No quote of the value has white space or a number sign right behind it. -/
def QuotesInside (v : Text) : Prop :=
  ∀ pair ∈ v.zip v.tail, pair.1 = 0x22 → isDirectiveSpace pair.2 = false ∧ pair.2 ≠ 0x23

/-- An item with a written form. -/
def TemplateItem.Writable : TemplateItem → Prop
  | content text => text ≠ []
  | code kind text =>
    text ≠ [] ∧ text.getLast? ≠ some 0x5C ∧
      (kind = .block → text.head? ≠ some 0x40 ∧ text.head? ≠ some 0x3D ∧ text.head? ≠ some 0x2B)
  | directive name attributes =>
    isName name = true ∧ name.eqFold (utf8 "include") = false ∧
      (∀ a ∈ attributes, isName a.1 = true ∧ QuotesInside a.2) ∧ (attributes.map (·.1.lower)).Nodup

/-- An item that can stand in front of another: not content in front of content, and no content
with a backslash at its end. -/
def TemplateItem.Precedes : TemplateItem → TemplateItem → Prop
  | content _, content _ => False
  | content text, _ => text.getLast? ≠ some 0x5C
  | _, _ => True

/-- A list of items with a written form. -/
def TemplateItem.AllWritable : List TemplateItem → Prop
  | [] => True
  | [i] => i.Writable
  | i :: j :: rest => i.Writable ∧ i.Precedes j ∧ AllWritable (j :: rest)

-- spelled out: over pairs of bytes a search would find the enumeration of all of them
instance (v : Text) : Decidable (QuotesInside v) :=
  List.decidableBAll
    (fun p : UInt8 × UInt8 => p.1 = 0x22 → isDirectiveSpace p.2 = false ∧ p.2 ≠ 0x23) (v.zip v.tail)

instance : (i : TemplateItem) → Decidable i.Writable
  | .content text => inferInstanceAs (Decidable (text ≠ []))
  | .code kind text => inferInstanceAs (Decidable (text ≠ [] ∧ text.getLast? ≠ some 0x5C ∧
      (kind = .block → text.head? ≠ some 0x40 ∧ text.head? ≠ some 0x3D ∧ text.head? ≠ some 0x2B)))
  | .directive name attributes => inferInstanceAs (Decidable (isName name = true ∧
      name.eqFold (utf8 "include") = false ∧
      (∀ a ∈ attributes, isName a.1 = true ∧ QuotesInside a.2) ∧
      (attributes.map (·.1.lower)).Nodup))

instance : (i j : TemplateItem) → Decidable (i.Precedes j)
  | .content _, .content _ => inferInstanceAs (Decidable False)
  | .content text, .code _ _ => inferInstanceAs (Decidable (text.getLast? ≠ some 0x5C))
  | .content text, .directive _ _ => inferInstanceAs (Decidable (text.getLast? ≠ some 0x5C))
  | .code _ _, _ => inferInstanceAs (Decidable True)
  | .directive _ _, _ => inferInstanceAs (Decidable True)

instance : (is : List TemplateItem) → Decidable (TemplateItem.AllWritable is)
  | [] => inferInstanceAs (Decidable True)
  | [i] => inferInstanceAs (Decidable i.Writable)
  | i :: j :: rest =>
    have := instDecidableAllWritable (j :: rest)
    inferInstanceAs (Decidable (i.Writable ∧ i.Precedes j ∧ TemplateItem.AllWritable (j :: rest)))

/-- A text starts with a marker, or its first byte can be passed. -/
theorem marker_or_cons (a b c : UInt8) (s : Text) :
    (∃ t, c :: s = a :: b :: t) ∨ [a, b].isPrefixOf (c :: s) = false := by
  cases s with
  | nil => exact .inr (by simp [List.isPrefixOf])
  | cons d t =>
    by_cases h : c = a ∧ d = b
    · exact .inl ⟨t, by rw [h.1, h.2]⟩
    · right
      simp only [List.isPrefixOf, Bool.and_true, Bool.and_eq_false_iff, beq_eq_false_iff_ne]
      by_cases hc : c = a
      · exact .inr fun hd => h ⟨hc, hd.symm⟩
      · exact .inl fun ha => hc ha.symm

/-! ## Regions -/

/-- Two different bytes, neither a backslash. -/
structure IsMarker (a b : UInt8) : Prop where
  ne : a ≠ b
  fst : a ≠ 0x5C
  snd : b ≠ 0x5C

/-- What can stand behind a region: nothing, or the marker that ends it. -/
def EndsRegion (a b : UInt8) (tail : Text) : Prop := tail = [] ∨ ∃ t, tail = a :: b :: t

/-- A written text that is not empty does not start with the marker. -/
theorem isPrefixOf_escapeMarker {a b : UInt8} (hm : IsMarker a b) {s tail : Text} (hs : s ≠ [])
    (ht : EndsRegion a b tail) : [a, b].isPrefixOf (escapeMarker a b s ++ tail) = false := by
  -- The second byte can be the marker's only if the text has it there.
  have head : ∀ (s : Text), (∀ b' ∈ s.head?, b' ≠ b) →
      ∀ b' ∈ (escapeMarker a b s ++ tail).head?, b' ≠ b := by
    intro s hs b' hb'
    cases s with
    | nil =>
      rcases ht with rfl | ⟨t, rfl⟩
      · simp [escapeMarker, Text.replace_nil] at hb'
      · simp only [escapeMarker, Text.replace_nil, List.nil_append, List.head?_cons, Option.mem_def,
          Option.some.injEq] at hb'
        exact hb' ▸ hm.ne
    | cons c s =>
      rcases marker_or_cons a b c s with ⟨t, h⟩ | h
      · rw [escapeMarker, h, Text.replace_pair] at hb'
        simp only [List.cons_append, List.head?_cons, Option.mem_def, Option.some.injEq] at hb'
        exact hb' ▸ hm.snd.symm
      · rw [escapeMarker, Text.replace_cons h] at hb'
        simp only [List.cons_append, List.head?_cons, Option.mem_def, Option.some.injEq] at hb'
        exact hb' ▸ hs c rfl
  obtain ⟨c, s, rfl⟩ := List.exists_cons_of_ne_nil hs
  rcases marker_or_cons a b c s with ⟨t, h⟩ | h
  · rw [escapeMarker, h, Text.replace_pair]
    simp [List.isPrefixOf, hm.fst]
  · rw [escapeMarker, Text.replace_cons h]
    by_cases hc : c = a
    · have hd : ∀ b' ∈ s.head?, b' ≠ b := by
        intro b' hb' he
        cases s with
        | nil => simp at hb'
        | cons d s =>
          simp only [List.head?_cons, Option.mem_def, Option.some.injEq] at hb'
          simp [List.isPrefixOf, hc, hb', he] at h
      have := head s hd
      cases hr : escapeMarker a b s ++ tail with
      | nil => simp [escapeMarker] at hr; simp [List.isPrefixOf, hr]
      | cons d t =>
        have hne : d ≠ b := this d (by simp [hr])
        rw [List.cons_append, show Text.replace [a, b] [0x5C, a, b] s ++ tail = d :: t from hr]
        simp [List.isPrefixOf, hne.symm]
    · simp [List.isPrefixOf, Ne.symm hc]

/-- **A region ends where it was written to end**, and its value is the text. -/
theorem Region.before_escapeMarker {a b : UInt8} (hm : IsMarker a b) (s : Text) {tail : Text}
    (ht : EndsRegion a b tail) (hs : tail ≠ [] → s.getLast? ≠ some 0x5C) :
    Region.before a b false (escapeMarker a b s ++ tail) = ⟨escapeMarker a b s, s, tail⟩ := by
  match s with
  | [] =>
    rcases ht with rfl | ⟨t, rfl⟩
    · rfl
    · simp [escapeMarker, Text.replace_nil, before, List.isPrefixOf]
  | c :: s =>
    have hp := isPrefixOf_escapeMarker hm (List.cons_ne_nil c s) ht
    have last : ∀ {d t}, s = d :: t → tail ≠ [] → s.getLast? ≠ some 0x5C := by
      intro d t he hne hlast
      refine hs hne ?_
      rwa [he, List.getLast?_cons_cons, ← he]
    rcases marker_or_cons a b c s with ⟨t, h⟩ | h
    · obtain ⟨rfl, hst⟩ := List.cons.inj h
      have hl : tail ≠ [] → t.getLast? ≠ some 0x5C := by
        intro hne hlast
        refine last hst hne ?_
        cases t with
        | nil => simp at hlast
        | cons d t => rwa [hst, List.getLast?_cons_cons]
      have ih := Region.before_escapeMarker hm t ht hl
      rw [hst]
      simp only [escapeMarker, Text.replace_pair] at ih ⊢
      simp [before, List.isPrefixOf, ih, hm.fst, hm.snd, hm.ne]
    · have hl : tail ≠ [] → s.getLast? ≠ some 0x5C := by
        cases s with
        | nil => simp
        | cons d s => exact last rfl
      have ih := Region.before_escapeMarker hm s ht hl
      have hc : (c == 0x5C && [a, b].isPrefixOf (escapeMarker a b s ++ tail)) = false := by
        cases s with
        | nil =>
          rcases ht with rfl | ⟨t, rfl⟩
          · simp [escapeMarker, Text.replace_nil]
          · have hne := hs (by simp)
            simp only [List.getLast?_singleton, ne_eq, Option.some.injEq] at hne
            simp [hne]
        | cons d s => rw [isPrefixOf_escapeMarker hm (List.cons_ne_nil d s) ht, Bool.and_false]
      rw [show escapeMarker a b (c :: s) = c :: escapeMarker a b s from Text.replace_cons h] at hp ⊢
      rw [List.cons_append] at hp ⊢
      rw [before]
      simp only [hp, Bool.and_false, hc, Bool.false_eq_true, if_false, ih]
termination_by s.length
decreasing_by
  · rw [hst, List.length_cons, List.length_cons]
    omega
  · exact Nat.lt_succ_self _

/-! ## Quoted values -/

theorem escapeQuotes_quote (v : Text) : escapeQuotes (0x22 :: v) = 0x5C :: 0x22 :: escapeQuotes v :=
  Text.replace_one _ _ _

theorem escapeQuotes_cons {c : UInt8} (h : c ≠ 0x22) (v : Text) :
    escapeQuotes (c :: v) = c :: escapeQuotes v :=
  Text.replace_cons (by simp [List.isPrefixOf, Ne.symm h])

theorem QuotesInside.tail {c : UInt8} {v : Text} (h : QuotesInside (c :: v)) : QuotesInside v := by
  cases v with
  | nil => simp [QuotesInside]
  | cons d v => exact fun pair hp => h pair (List.mem_cons_of_mem _ hp)

/-- Behind a quote of the value, the written value goes on with something that does not close it. -/
theorem endsValue_escapeQuotes {v rest : Text} (h : QuotesInside (0x22 :: v)) :
    endsValue (escapeQuotes v ++ 0x22 :: rest) = false := by
  cases v with
  | nil => rfl
  | cons c v =>
    by_cases hc : c = 0x22
    · rw [hc, escapeQuotes_quote]
      rfl
    · have hb := h (0x22, c) List.mem_cons_self rfl
      rw [escapeQuotes_cons hc]
      simp [endsValue, hb.1, hb.2]

/-- A backslash in front of something that is not a quote stands for itself. -/
theorem closeQuote?_backslash {s : Text} (h : ∀ b ∈ s.head?, b ≠ 0x22) :
    closeQuote? (0x5C :: s) = (closeQuote? s).map fun (value, rest) => (0x5C :: value, rest) := by
  cases s with
  | nil => simp [closeQuote?]
  | cons d s =>
    have hd : d ≠ 0x22 := h d rfl
    rw [closeQuote?]
    · exact fun he => absurd he (by decide)
    · exact fun s' _ he => hd (List.cons.inj he).1

/-- **A written value is closed by the quote behind it.** -/
theorem closeQuote?_escapeQuotes {v rest : Text} (h : QuotesInside v) (hr : endsValue rest = true) :
    closeQuote? (escapeQuotes v ++ 0x22 :: rest) = some (escapeQuotes v, rest) := by
  induction v with
  | nil => rfl
  | cons c v ih =>
    have ih := ih h.tail
    by_cases hq : c = 0x22
    · subst hq
      rw [escapeQuotes_quote, List.cons_append, List.cons_append, closeQuote?,
        endsValue_escapeQuotes h]
      simp [ih]
    · rw [escapeQuotes_cons hq]
      by_cases hs : c = 0x5C
      · subst hs
        cases v with
        | nil => simp [escapeQuotes, Text.replace_nil, closeQuote?, hr]
        | cons d v =>
          rw [List.cons_append, closeQuote?_backslash, ih]
          · rfl
          · by_cases hd : d = 0x22
            · simp [hd, escapeQuotes_quote]
            · simpa [escapeQuotes_cons hd] using hd
      · rw [List.cons_append, closeQuote?, ih]
        · rfl
        · exact hq
        · exact fun _ he _ => hs he

/-- **A written value stands for the value.** -/
theorem unquoteValue_escapeQuotes (v : Text) : unquoteValue (escapeQuotes v) = v := by
  unfold unquoteValue
  induction v with
  | nil => rfl
  | cons c v ih =>
    by_cases hq : c = 0x22
    · rw [hq, escapeQuotes_quote, Text.replace_pair, ih]
      rfl
    · rw [escapeQuotes_cons hq, Text.replace_cons, ih]
      cases v with
      | nil => simp [escapeQuotes, Text.replace_nil, List.isPrefixOf]
      | cons d v =>
        by_cases hd : d = 0x22
        · simp [hd, escapeQuotes_quote, List.isPrefixOf]
        · simp [escapeQuotes_cons hd, List.isPrefixOf, Ne.symm hd]

end TextTemplate
