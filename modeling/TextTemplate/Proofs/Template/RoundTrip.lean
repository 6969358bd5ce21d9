/-
Parsing undoes writing. The text of a list of items is read into the events that tell of the items
one by one (`run_renderAll`), and those events are gathered into one segment for each item
(`expand?_of_tells`). So a written template is parsed into its items, in their order, and nothing is
complained about.
-/
import Mathlib.Data.List.Forall2
import TextTemplate.Proofs.Template.Written

namespace TextTemplate

/-! ## Items and segments -/

/-- Whether a segment is what an item stands for. The attributes of a directive are kept in an order
of their own. -/
def TemplateItem.Is : TemplateItem → Segment → Prop
  | content text, .piece p => p.kind = .content ∧ p.text = text
  | code kind text, .piece p => p.kind = kind.pieceKind ∧ p.text = text
  | directive name attributes, .directive d =>
    d.name = name ∧ d.attributes.toList.Perm attributes
  | _, _ => False

/-! ## Items and events -/

/-- The events of attributes: a name and a value for each. -/
inductive TellsAttributes : List (Text × Text) → List Event → Prop
  | nil : TellsAttributes [] []
  | cons {a as n v es} (hn : n.kind = .directiveName ∧ n.value = a.1)
      (hv : v.kind = .directiveValue ∧ v.value = a.2) (h : TellsAttributes as es) :
    TellsAttributes (a :: as) (n :: v :: es)

/-- The events of a list of items and of the end of their text. -/
inductive Tells : List TemplateItem → List Event → Prop
  | nil {e} (he : e.kind = .eof) : Tells [] [e]
  | content {text is e es} (he : e.kind = .content ∧ e.value = text) (h : Tells is es) :
    Tells (.content text :: is) (e :: es)
  | code {kind text is e es} (he : e.kind = kind.eventKind ∧ e.value = text) (h : Tells is es) :
    Tells (.code kind text :: is) (e :: es)
  | directive {name as is o n attrs c es} (ho : o.kind = .directive)
      (hn : n.kind = .directiveName ∧ n.value = name) (ha : TellsAttributes as attrs)
      (hc : c.kind = .directive) (h : Tells is es) :
    Tells (.directive name as :: is) (o :: n :: (attrs ++ c :: es))

/-! ## One report -/

namespace Reader

/-- A report: what kind of event with which value, and what is left to read. -/
structure Reports (r : Reader) (kind : EventKind) (value rest : Text) (inside : Bool)
    (r' : Reader) : Prop where
  advance : r.advance = .ok r'
  kind : r'.last.kind = kind
  value : r'.last.value = value
  rest : r'.rest = rest
  inside : r'.inDirective = inside

/-- A reader outside or inside a directive tag that is not at its end. -/
structure Stands (r : Reader) (rest : Text) (inside : Bool) : Prop where
  rest : r.rest = rest
  inside : r.inDirective = inside
  live : r.last.kind ≠ .eof

theorem Stands.advance_text {r : Reader} {s : Text} (h : r.Stands s false) :
    r.advance = r.advanceText := by
  simp [advance, h.live, h.inside]

theorem Stands.advance_directive {r : Reader} {s : Text} (h : r.Stands s true) :
    r.advance = r.advanceDirective := by
  simp [advance, h.live, h.inside]

theorem Reports.stands {r r' : Reader} {kind : EventKind} {value rest : Text} {inside : Bool}
    (h : r.Reports kind value rest inside r') (hk : kind ≠ .eof) : r'.Stands rest inside :=
  ⟨h.rest, h.inside, h.kind ▸ hk⟩

theorem Reports.run {r r' : Reader} {kind : EventKind} {value rest s : Text} {inside at' : Bool}
    (h : r.Reports kind value rest inside r') (hr : r.Stands s at') :
    r.run = (r'.last :: r'.run.1, r'.run.2) := by
  rw [Reader.run, dif_neg hr.live]
  split
  · rename_i e he
    rw [h.advance] at he
    cases he
  · rename_i r'' he
    rw [h.advance] at he
    cases he
    rfl

/-! ### Outside directive tags -/

theorem isMarker_text : IsMarker 0x3C 0x23 := ⟨by decide, by decide, by decide⟩

theorem isMarker_code : IsMarker 0x23 0x3E := ⟨by decide, by decide, by decide⟩

theorem reports_eof {r : Reader} (hr : r.Stands [] false) :
    ∃ r', r.Reports .eof [] [] false r' := by
  refine ⟨{ r with last := ⟨.eof, [], r.position, r.position, r.position⟩ }, ?_, rfl, rfl, hr.rest,
    hr.inside⟩
  rw [hr.advance_text, advanceText, hr.rest]

/-- A text that does not start with a tag is reported as content. -/
theorem advanceText_eq_readContent {r : Reader} {c : UInt8} {s : Text} (hr : r.rest = c :: s)
    (h : [0x3C, 0x23].isPrefixOf (c :: s) = false) : r.advanceText = .ok r.readContent := by
  unfold advanceText
  split <;> rename_i he
  · simp [hr] at he
  all_goals first | rfl | (rw [← hr, he] at h; simp [List.isPrefixOf] at h)

/-- Content is reported with its text; behind a directive its first line break is left out. -/
theorem reports_content {r : Reader} {s tail : Text}
    (hr : r.Stands (escapeMarker 0x3C 0x23 s ++ tail) false) (hs : s ≠ [])
    (ht : EndsRegion 0x3C 0x23 tail) (hl : tail ≠ [] → s.getLast? ≠ some 0x5C) :
    ∃ r', r.Reports .content
        (if r.afterDirective then (dropLineBreak? s).getD s else s) tail false r' ∧
      r'.afterDirective = false := by
  have hp := isPrefixOf_escapeMarker isMarker_text hs ht
  have hreg : Region.ofText r.rest = ⟨escapeMarker 0x3C 0x23 s, s, tail⟩ := by
    rw [hr.rest]
    exact Region.before_escapeMarker isMarker_text s ht hl
  refine ⟨r.readContent, ⟨?_, rfl, ?_, ?_, hr.inside⟩, rfl⟩
  · rw [hr.advance_text]
    cases he : escapeMarker 0x3C 0x23 s ++ tail with
    | nil =>
      -- A text that is not empty is not written as nothing.
      exfalso
      obtain ⟨c, t, rfl⟩ := List.exists_cons_of_ne_nil hs
      rcases marker_or_cons 0x3C 0x23 c t with ⟨u, hu⟩ | hu
      · simp [escapeMarker, hu, Text.replace_pair] at he
      · simp [escapeMarker, Text.replace_cons hu] at he
    | cons c t =>
      rw [he] at hp
      exact advanceText_eq_readContent (hr.rest.trans he) hp
  · simp only [readContent, hreg]
    cases r.afterDirective with
    | false => rfl
    | true => cases dropLineBreak? s <;> rfl
  · simp only [readContent, hreg]

/-- Code is reported with its text. -/
theorem readCode_eq {r : Reader} (kind : EventKind) (width : Nat) {s : Text} (tail : Text)
    (hl : s.getLast? ≠ some 0x5C) :
    ∃ r', r.readCode kind width (escapeMarker 0x23 0x3E s ++ 0x23 :: 0x3E :: tail) = .ok r' ∧
      r'.last.kind = kind ∧ r'.last.value = s ∧ r'.rest = tail ∧
      r'.inDirective = r.inDirective ∧ r'.afterDirective = false := by
  have hreg : Region.ofCode (escapeMarker 0x23 0x3E s ++ 0x23 :: 0x3E :: tail) =
      ⟨escapeMarker 0x23 0x3E s, s, 0x23 :: 0x3E :: tail⟩ :=
    Region.before_escapeMarker isMarker_code s (.inr ⟨tail, rfl⟩) fun _ => hl
  simp only [readCode, hreg]
  exact ⟨_, rfl, rfl, rfl, rfl, rfl, rfl⟩

/-- The text of a block does not start like another tag. -/
theorem head_escapeMarker_block {s : Text} (hs : s ≠ [])
    (hb : s.head? ≠ some 0x40 ∧ s.head? ≠ some 0x3D ∧ s.head? ≠ some 0x2B) (tail : Text) :
    ∃ c t, escapeMarker 0x23 0x3E s ++ tail = c :: t ∧ c ≠ 0x40 ∧ c ≠ 0x3D ∧ c ≠ 0x2B := by
  obtain ⟨c, t, rfl⟩ := List.exists_cons_of_ne_nil hs
  rcases marker_or_cons 0x23 0x3E c t with ⟨u, hu⟩ | hu
  · rw [escapeMarker, hu, Text.replace_pair]
    exact ⟨0x5C, _, rfl, by decide, by decide, by decide⟩
  · rw [escapeMarker, Text.replace_cons hu]
    simp only [List.head?_cons, ne_eq, Option.some.injEq] at hb
    exact ⟨c, _, rfl, hb⟩

theorem reports_code {r : Reader} {kind : CodeKind} {s tail : Text}
    (hr : r.Stands (kind.opening ++ escapeMarker 0x23 0x3E s ++ utf8 "#>" ++ tail) false)
    (hw : (TemplateItem.code kind s).Writable) :
    ∃ r', r.Reports kind.eventKind s tail false r' ∧ r'.afterDirective = false := by
  obtain ⟨hs, hl, hb⟩ := hw
  have hrest : r.rest = kind.opening ++ (escapeMarker 0x23 0x3E s ++ 0x23 :: 0x3E :: tail) := by
    rw [hr.rest, List.append_assoc, List.append_assoc]
    rfl
  have key : ∀ {width r'}, r.advanceText =
        r.readCode kind.eventKind width (escapeMarker 0x23 0x3E s ++ 0x23 :: 0x3E :: tail) →
      r.readCode kind.eventKind width (escapeMarker 0x23 0x3E s ++ 0x23 :: 0x3E :: tail) = .ok r' →
      r'.last.kind = kind.eventKind ∧ r'.last.value = s ∧ r'.rest = tail ∧
        r'.inDirective = r.inDirective ∧ r'.afterDirective = false →
      ∃ r', r.Reports kind.eventKind s tail false r' ∧ r'.afterDirective = false := by
    rintro width r' hadv hok ⟨h1, h2, h3, h4, h5⟩
    exact ⟨r', ⟨by rw [hr.advance_text, hadv, hok], h1, h2, h3, h4.trans hr.inside⟩, h5⟩
  cases kind with
  | expression =>
    obtain ⟨r', hok, h⟩ := readCode_eq (r := r) .expression 3 tail hl
    exact key (by rw [advanceText, hrest]; rfl) hok h
  | helper =>
    obtain ⟨r', hok, h⟩ := readCode_eq (r := r) .helper 3 tail hl
    exact key (by rw [advanceText, hrest]; rfl) hok h
  | block =>
    obtain ⟨r', hok, h⟩ := readCode_eq (r := r) .block 2 tail hl
    refine key ?_ hok h
    obtain ⟨c, t, he, h1, h2, h3⟩ := head_escapeMarker_block hs (hb rfl) (0x23 :: 0x3E :: tail)
    rw [he] at hrest ⊢
    rw [advanceText, hrest]
    simp only [CodeKind.opening, show utf8 "<#" = [0x3C, 0x23] from rfl, List.cons_append,
      List.nil_append]
    split <;> simp_all [CodeKind.eventKind]

/-! ### Inside directive tags -/

theorem reports_open {r : Reader} {tail : Text} (hr : r.Stands (utf8 "<#@" ++ tail) false) :
    ∃ r', r.Reports .directive [] tail true r' := by
  have hadv : ∃ r', r.advanceText = .ok r' ∧ r'.last.kind = .directive ∧ r'.last.value = [] ∧
      r'.rest = tail ∧ r'.inDirective = true := by
    rw [advanceText, hr.rest]
    exact ⟨_, rfl, rfl, rfl, rfl, rfl⟩
  obtain ⟨r', ha, h1, h2, h3, h4⟩ := hadv
  exact ⟨r', by rw [hr.advance_text, ha], h1, h2, h3, h4⟩

theorem nextToken_eq {r : Reader} {t : DirectiveToken} {rest : Text}
    (h : DirectiveToken.next? r.rest = some (t, rest)) :
    r.nextToken = .ok (some (t, { r with
      rest := rest, position := r.position.advanceLines t.raw })) := by
  unfold nextToken
  cases hr : r.rest with
  | nil => simp [hr, DirectiveToken.next?] at h
  | cons b s =>
    rw [hr] at h
    simp [h]

theorem rest_skipSpace {r : Reader} {b : UInt8} {s : Text} (hb : isDirectiveSpace b = false)
    (hr : r.rest = b :: s ∨ r.rest = 0x20 :: b :: s) : r.skipSpace.rest = b :: s := by
  rcases hr with hr | hr
  · simp [skipSpace, hr, hb]
  · simp [skipSpace, hr, hb, show isDirectiveSpace 0x20 = true from rfl]

theorem isNameStart_cases {b : UInt8} (h : isNameStart b = true) :
    isDirectiveSpace b = false ∧ b ≠ 0x23 := by
  constructor
  · by_contra hs
    simp only [isDirectiveSpace, Bool.not_eq_false, Bool.or_eq_true, beq_iff_eq] at hs
    rcases hs with (((rfl | rfl) | rfl) | rfl) | rfl <;> exact absurd h (by decide)
  · rintro rfl
    exact absurd h (by decide)

theorem exists_of_isName {name : Text} (h : isName name = true) :
    ∃ b s, name = b :: s ∧ isNameStart b = true ∧ ∀ c ∈ s, isNamePart c = true := by
  cases name with
  | nil => cases h
  | cons b s =>
    simp only [isName, Bool.and_eq_true, List.all_eq_true] at h
    exact ⟨b, s, rfl, h⟩

theorem next?_name {name tail : Text} (hn : isName name = true)
    (ht : ∀ b ∈ tail.head?, isNamePart b = false) :
    DirectiveToken.next? (name ++ tail) = some (.name name, tail) := by
  obtain ⟨b, s, rfl, hb, hs⟩ := exists_of_isName hn
  have htw : (s ++ tail).takeWhile isNamePart = s := by
    rw [List.takeWhile_append_of_pos hs]
    cases tail with
    | nil => simp
    | cons c t => simp [ht c rfl]
  have hdw : (s ++ tail).dropWhile isNamePart = tail := by
    rw [List.dropWhile_append_of_pos hs]
    cases tail with
    | nil => simp
    | cons c t => simp [ht c rfl]
  rw [List.cons_append, DirectiveToken.next?]
  · simp [hb, htw, hdw]
  · exact fun _ he _ => (isNameStart_cases hb).2 he

/-- A name with a blank in front of it is reported. -/
theorem reports_name {r : Reader} {name tail : Text} (hn : isName name = true)
    (ht : ∀ b ∈ tail.head?, isNamePart b = false) (hr : r.Stands (0x20 :: (name ++ tail)) true) :
    ∃ r', r.Reports .directiveName name tail true r' := by
  have hnext := next?_name hn ht
  obtain ⟨b, s, rfl, hb, hs⟩ := exists_of_isName hn
  have hskip : r.skipSpace.rest = b :: s ++ tail :=
    rest_skipSpace (isNameStart_cases hb).1 (.inr hr.rest)
  rw [← hskip] at hnext
  have hadv : ∃ r', r.advanceDirective = .ok r' ∧ r'.last.kind = .directiveName ∧
      r'.last.value = b :: s ∧ r'.rest = tail ∧ r'.inDirective = r.inDirective := by
    rw [advanceDirective]
    simp only [nextToken_eq hnext]
    exact ⟨_, rfl, rfl, rfl, rfl, rfl⟩
  obtain ⟨r', ha, h1, h2, h3, h4⟩ := hadv
  exact ⟨r', by rw [hr.advance_directive, ha], h1, h2, h3, h4.trans hr.inside⟩

/-- An equals sign and a written value are reported with the value. -/
theorem reports_value {r : Reader} {v tail : Text} (hv : QuotesInside v)
    (ht : endsValue tail = true)
    (hr : r.Stands (0x3D :: 0x22 :: (escapeQuotes v ++ 0x22 :: tail)) true) :
    ∃ r', r.Reports .directiveValue v tail true r' := by
  have hskip : r.skipSpace.rest = 0x3D :: 0x22 :: (escapeQuotes v ++ 0x22 :: tail) :=
    rest_skipSpace (by decide) (.inl hr.rest)
  have hequals : DirectiveToken.next? r.skipSpace.rest =
      some (.equals, 0x22 :: (escapeQuotes v ++ 0x22 :: tail)) := by
    rw [hskip]
    rfl
  have hvalue : DirectiveToken.next? (0x22 :: (escapeQuotes v ++ 0x22 :: tail)) =
      some (.value (escapeQuotes v), tail) := by
    rw [DirectiveToken.next?]
    · simp [show isNameStart 0x22 = false from rfl, closeQuote?_escapeQuotes hv ht]
    · exact fun _ he _ => absurd he (by decide)
  have hadv : ∃ r', r.advanceDirective = .ok r' ∧ r'.last.kind = .directiveValue ∧
      r'.last.value = unquoteValue (escapeQuotes v) ∧ r'.rest = tail ∧
      r'.inDirective = r.inDirective := by
    have hbehind : ∀ q : Reader, q.rest = 0x22 :: (escapeQuotes v ++ 0x22 :: tail) →
        DirectiveToken.next? q.skipSpace.rest = some (.value (escapeQuotes v), tail) := by
      intro q hq
      rw [rest_skipSpace (by decide) (.inl hq), hvalue]
    rw [advanceDirective]
    simp only [nextToken_eq hequals]
    rw [nextToken_eq (hbehind _ rfl)]
    exact ⟨_, rfl, rfl, rfl, rfl, rfl⟩
  obtain ⟨r', ha, h1, h2, h3, h4⟩ := hadv
  exact ⟨r', by rw [hr.advance_directive, ha], h1, h2.trans (unquoteValue_escapeQuotes v), h3,
    h4.trans hr.inside⟩

/-- The closing of a tag is reported, and remembered. -/
theorem reports_close {r : Reader} {tail : Text} (hr : r.Stands (utf8 " #>" ++ tail) true) :
    ∃ r', r.Reports .directive [] tail false r' ∧ r'.afterDirective = true := by
  have hskip : r.skipSpace.rest = 0x23 :: 0x3E :: tail :=
    rest_skipSpace (by decide) (.inr hr.rest)
  have hnext : DirectiveToken.next? r.skipSpace.rest = some (.close, tail) := by
    rw [hskip]
    rfl
  have hadv : ∃ r', r.advanceDirective = .ok r' ∧ r'.last.kind = .directive ∧
      r'.last.value = [] ∧ r'.rest = tail ∧ r'.inDirective = false ∧ r'.afterDirective = true := by
    rw [advanceDirective]
    simp only [nextToken_eq hnext]
    exact ⟨_, rfl, rfl, rfl, rfl, rfl, rfl⟩
  obtain ⟨r', ha, h1, h2, h3, h4, h5⟩ := hadv
  exact ⟨r', ⟨by rw [hr.advance_directive, ha], h1, h2, h3, h4⟩, h5⟩

/-- The attributes of a directive and its closing are reported in order. -/
theorem run_attributes {as : List (Text × Text)} {tail : Text} (r : Reader)
    (ha : ∀ a ∈ as, isName a.1 = true ∧ QuotesInside a.2)
    (hr : r.Stands (as.flatMap renderAttribute ++ (utf8 " #>" ++ tail)) true) :
    ∃ (attrs : List Event) (c : Event) (r' : Reader), TellsAttributes as attrs ∧
      c.kind = .directive ∧ r.run = (attrs ++ c :: r'.run.1, r'.run.2) ∧ r'.Stands tail false ∧
      r'.afterDirective = true := by
  induction as generalizing r with
  | nil =>
    obtain ⟨r', h, hafter⟩ := reports_close hr
    exact ⟨[], r'.last, r', .nil, h.kind, h.run hr, h.stands (by simp), hafter⟩
  | cons a as ih =>
    obtain ⟨name, value⟩ := a
    obtain ⟨hn, hv⟩ := ha _ List.mem_cons_self
    have htail : endsValue (as.flatMap renderAttribute ++ (utf8 " #>" ++ tail)) = true := by
      cases as <;> rfl
    have hrest : r.Stands (0x20 :: (name ++ (0x3D :: 0x22 :: (escapeQuotes value ++ 0x22 ::
        (as.flatMap renderAttribute ++ (utf8 " #>" ++ tail)))))) true := by
      simpa [renderAttribute] using hr
    obtain ⟨r₁, h₁⟩ := reports_name hn (by simp [show isNamePart 0x3D = false from rfl]) hrest
    obtain ⟨r₂, h₂⟩ := reports_value hv htail (h₁.stands (by simp))
    obtain ⟨attrs, c, r', hattrs, hc, hrun, hs, hafter⟩ :=
      ih r₂ (fun a h => ha a (List.mem_cons_of_mem _ h)) (h₂.stands (by simp))
    refine ⟨r₁.last :: r₂.last :: attrs, c, r',
      .cons ⟨h₁.kind, h₁.value⟩ ⟨h₂.kind, h₂.value⟩ hattrs, hc, ?_, hs, hafter⟩
    rw [h₁.run hrest, h₂.run (h₁.stands (by simp)), hrun]
    rfl

/-! ### The events of items -/

end Reader

/-- What stands in front of the items behind another: a line break between a directive and
content. -/
def TemplateItem.lead (behindDirective : Bool) : List TemplateItem → Text
  | content _ :: _ => if behindDirective then [0x0A] else []
  | _ => []

@[simp] theorem TemplateItem.lead_false (is : List TemplateItem) : lead false is = [] := by
  unfold lead
  split <;> rfl

def TemplateItem.isDirective : TemplateItem → Bool
  | directive _ _ => true
  | _ => false

theorem TemplateItem.renderAll_cons (i : TemplateItem) (is : List TemplateItem) :
    renderAll (i :: is) = i.render ++ (lead i.isDirective is ++ renderAll is) := by
  cases is with
  | nil => simp [renderAll, lead]
  | cons j is => cases i <;> cases j <;> simp [renderAll, between, lead, isDirective]

theorem TemplateItem.AllWritable.head {i : TemplateItem} {is : List TemplateItem}
    (h : AllWritable (i :: is)) : i.Writable := by
  cases is with
  | nil => exact h
  | cons j is => exact h.1

theorem TemplateItem.AllWritable.tail {i : TemplateItem} {is : List TemplateItem}
    (h : AllWritable (i :: is)) : AllWritable is := by
  cases is with
  | nil => trivial
  | cons j is => exact h.2.2

/-- Behind content the text is at its end or goes on with a tag. -/
theorem TemplateItem.AllWritable.endsRegion {text : Text} {is : List TemplateItem}
    (h : AllWritable (.content text :: is)) : EndsRegion 0x3C 0x23 (renderAll is) := by
  cases is with
  | nil => exact .inl rfl
  | cons j is =>
    right
    rw [renderAll_cons]
    cases j with
    | content t => exact absurd h.2.1 id
    | code kind t => cases kind <;> exact ⟨_, rfl⟩
    | directive name as => exact ⟨_, rfl⟩

theorem TemplateItem.AllWritable.last {text : Text} {is : List TemplateItem}
    (h : AllWritable (.content text :: is)) (hne : renderAll is ≠ []) :
    text.getLast? ≠ some 0x5C := by
  cases is with
  | nil => exact absurd rfl hne
  | cons j is =>
    cases j with
    | content t => exact absurd h.2.1 id
    | code kind t => exact h.2.1
    | directive name as => exact h.2.1

open TemplateItem (lead renderAll) in
/-- **The text of items is read into the events that tell of them.** -/
theorem run_renderAll (is : List TemplateItem) (hw : TemplateItem.AllWritable is) (r : Reader)
    (hr : r.Stands (lead r.afterDirective is ++ renderAll is) false) :
    ∃ es, r.run = (es, none) ∧ Tells is es := by
  induction is generalizing r with
  | nil =>
    obtain ⟨r', h⟩ := Reader.reports_eof hr
    refine ⟨[r'.last], ?_, .nil h.kind⟩
    rw [h.run hr, Reader.run, dif_pos h.kind]
  | cons i is ih =>
    have htail := ih hw.tail
    rw [TemplateItem.renderAll_cons] at hr
    cases i with
    | content text =>
      -- The line break in front belongs to the region and is not reported.
      have hs : lead r.afterDirective (.content text :: is) ++ escapeMarker 0x3C 0x23 text =
          escapeMarker 0x3C 0x23 (lead r.afterDirective (.content text :: is) ++ text) := by
        cases r.afterDirective with
        | false => rfl
        | true => exact (Text.replace_cons (by rfl)).symm
      have hr' : r.Stands (escapeMarker 0x3C 0x23
          (lead r.afterDirective (.content text :: is) ++ text) ++ renderAll is) false := by
        rw [← hs, List.append_assoc]
        simpa [TemplateItem.render, TemplateItem.isDirective] using hr
      have hne : text ≠ [] := hw.head
      obtain ⟨r', h, hafter⟩ := Reader.reports_content hr' (by simp [hne]) hw.endsRegion (by
        intro ht
        rw [List.getLast?_append_of_ne_nil _ hne]
        exact hw.last ht)
      have hstands : r'.Stands (lead r'.afterDirective is ++ renderAll is) false := by
        simpa [hafter] using h.stands (by simp)
      obtain ⟨es, hrun, htells⟩ := htail r' hstands
      refine ⟨r'.last :: es, by rw [h.run hr', hrun], .content ⟨h.kind, ?_⟩ htells⟩
      rw [h.value]
      cases r.afterDirective <;> rfl
    | code kind text =>
      have hr' : r.Stands (kind.opening ++ escapeMarker 0x23 0x3E text ++ utf8 "#>" ++
          renderAll is) false := by
        simpa [TemplateItem.render, TemplateItem.isDirective,
          show lead r.afterDirective (.code kind text :: is) = [] from rfl] using hr
      obtain ⟨r', h, hafter⟩ := Reader.reports_code hr' hw.head
      have hk : kind.eventKind ≠ .eof := by cases kind <;> simp [CodeKind.eventKind]
      have hstands : r'.Stands (lead r'.afterDirective is ++ renderAll is) false := by
        simpa [hafter] using h.stands hk
      obtain ⟨es, hrun, htells⟩ := htail r' hstands
      exact ⟨r'.last :: es, by rw [h.run hr', hrun], .code ⟨h.kind, h.value⟩ htells⟩
    | directive name as =>
      obtain ⟨hname, -, has, -⟩ := hw.head
      have hr' : r.Stands (utf8 "<#@" ++ (0x20 :: (name ++ (as.flatMap renderAttribute ++
          (utf8 " #>" ++ (lead true is ++ renderAll is)))))) false := by
        simpa [TemplateItem.render, TemplateItem.isDirective,
          show lead r.afterDirective (.directive name as :: is) = [] from rfl,
          show utf8 "<#@ " = utf8 "<#@" ++ [0x20] from rfl] using hr
      obtain ⟨r₁, h₁⟩ := Reader.reports_open hr'
      have hs₁ := h₁.stands (by simp)
      obtain ⟨r₂, h₂⟩ := Reader.reports_name hname (by
        cases as <;> exact fun b hb => by cases hb; rfl) hs₁
      have hs₂ := h₂.stands (by simp)
      obtain ⟨attrs, c, r', hattrs, hc, hrun, hs, hafter⟩ := Reader.run_attributes r₂ has hs₂
      obtain ⟨es, hrun', htells⟩ := htail r' (by rw [hafter]; exact hs)
      refine ⟨r₁.last :: r₂.last :: (attrs ++ c :: es), ?_,
        .directive h₁.kind ⟨h₂.kind, h₂.value⟩ hattrs hc htells⟩
      rw [h₁.run hr', h₂.run hs₁, hrun, hrun']

/-! ## Attributes -/

theorem Attributes.perm_insert {a : Attribute} {as : List Attribute}
    (h : ∀ b ∈ as, b.key ≠ a.key) : (insert a as).Perm (a :: as) := by
  induction as with
  | nil => exact .refl _
  | cons b bs ih =>
    have hb : a.key ≠ b.key := (h b List.mem_cons_self).symm
    rw [insert, if_neg hb]
    split
    · exact .refl _
    · exact ((ih fun c hc => h c (List.mem_cons_of_mem _ hc)).cons b).trans (.swap a b bs)

/-- Attributes with different names are all kept, each with its value. -/
theorem Attributes.perm_foldl {pairs : List (Text × Text)} (as : Attributes)
    (hn : (pairs.map (·.1.lower)).Nodup)
    (hd : ∀ p ∈ pairs, ∀ b ∈ as.entries, b.key ≠ p.1.lower) :
    (pairs.foldl (fun as p => as.set p.1 p.2) as).toList.Perm (as.toList ++ pairs) := by
  induction pairs generalizing as with
  | nil => simp
  | cons p pairs ih =>
    have hp := Attributes.perm_insert (a := ⟨p.1, p.2⟩) fun b hb => hd p List.mem_cons_self b hb
    simp only [List.map_cons, List.nodup_cons, List.mem_map, not_exists, not_and] at hn
    refine (ih _ hn.2 ?_).trans ?_
    · intro q hq b hb
      rcases List.mem_cons.1 (hp.mem_iff.1 hb) with rfl | hb
      · exact fun he => hn.1 q hq he.symm
      · exact hd q (List.mem_cons_of_mem _ hq) b hb
    · have := (hp.map fun a => (a.name, a.value)).append_right pairs
      exact this.trans List.perm_middle.symm

/-! ## Gathering -/

/-- The events of attributes and of the closing of a tag complete a directive without complaint. -/
theorem read_of_tells (root : Text) (opened : Location) {as : List (Text × Text)}
    {attrs : List Event} {c : Event} (rest : List Event) (ha : TellsAttributes as attrs)
    (hc : c.kind = .directive) (d : Directive) :
    ∃ span, Draft.read root opened ⟨some d, none, []⟩ (attrs ++ c :: rest) =
      (⟨some ⟨d.name, as.foldl (fun as p => as.set p.1 p.2) d.attributes, span⟩, none, []⟩,
        some rest) := by
  induction ha generalizing d with
  | nil => exact ⟨_, by simp only [List.nil_append, Draft.read, hc, Draft.close, Draft.flush]; rfl⟩
  | @cons a as n v es hn hv _ ih =>
    obtain ⟨span, h⟩ := ih { d with attributes := d.attributes.set a.1 a.2 }
    refine ⟨span, ?_⟩
    rw [List.cons_append, List.cons_append, Draft.read, hn.1]
    simp only [Draft.name, Draft.flush]
    rw [Draft.read, hv.1]
    simp only [Draft.value, hn.2, hv.2]
    exact h

/-- What is gathered grows by segments for items, and by nothing else. -/
def Grown (g : Gathered) (is : List TemplateItem) (g' : Gathered) : Prop :=
  ∃ segs, List.Forall₂ TemplateItem.Is is segs ∧ g' = { g with segments := g.segments ++ segs }

/-- One segment for one item, and then those for the others. -/
theorem Grown.cons {g g' : Gathered} {i : TemplateItem} {is : List TemplateItem} {s : Segment}
    (h : Grown { g with segments := g.segments ++ [s] } is g') (hi : i.Is s) :
    Grown g (i :: is) g' := by
  obtain ⟨segs, hs, rfl⟩ := h
  exact ⟨s :: segs, .cons hi hs, by simp⟩

/-- An event with a text that is not empty adds a piece. -/
theorem addPiece_eq (g : Gathered) (kind : PieceKind) {e : Event} (he : e.value ≠ []) :
    g.addPiece false kind e =
      { g with segments := g.segments ++
        [.piece ⟨kind, e.value, ⟨e.location, e.tagEnd, e.tagStart⟩⟩] } := by
  simp [Gathered.addPiece, Gathered.add, he]

/-- **The events of items are gathered into a segment for each.** -/
theorem expand?_of_tells (load : Option Loader) (root : Text) {is : List TemplateItem}
    {es : List Event}
    (h : Tells is es) (hw : ∀ i ∈ is, i.Writable) (g : Gathered) :
    ∃ g', expand? load root ⟨false, false, es, none⟩ g = some (g', none) ∧ Grown g is g' := by
  induction h generalizing g with
  | nil he =>
    refine ⟨g, ?_, [], .nil, by simp⟩
    simp [expand?, nextMove, he]
  | @content text is e es he _ ih =>
    have hne : e.value ≠ [] := he.2 ▸ hw _ List.mem_cons_self
    obtain ⟨g', hg, hgrown⟩ := ih (fun i hi => hw i (List.mem_cons_of_mem _ hi))
      (g.addPiece false .content e)
    rw [addPiece_eq g .content hne] at hg hgrown
    refine ⟨g', ?_, hgrown.cons ⟨rfl, he.2⟩⟩
    rw [expand?]
    simp only [nextMove, he.1, addPiece_eq g .content hne]
    exact hg
  | @code kind text is e es he _ ih =>
    have hne : e.value ≠ [] := he.2 ▸ (hw _ List.mem_cons_self).1
    obtain ⟨g', hg, hgrown⟩ := ih (fun i hi => hw i (List.mem_cons_of_mem _ hi))
      (g.addPiece false kind.pieceKind e)
    rw [addPiece_eq g kind.pieceKind hne] at hg hgrown
    refine ⟨g', ?_, hgrown.cons ⟨rfl, he.2⟩⟩
    rw [expand?]
    cases kind <;>
      (simp only [CodeKind.eventKind] at he
       simp only [nextMove, he.1, addPiece_eq g _ hne]
       exact hg)
  | @directive name as is o n attrs c es ho hn ha hc _ ih =>
    obtain ⟨-, hinc, -, hnodup⟩ := hw _ List.mem_cons_self
    obtain ⟨span, hread⟩ := read_of_tells root o.tagStart es ha hc
      ⟨n.value, .empty, ⟨n.location, n.location, n.tagStart⟩⟩
    have hdraft : Draft.read root o.tagStart .empty (n :: (attrs ++ c :: es)) = (⟨some ⟨n.value,
        as.foldl (fun as p => as.set p.1 p.2) .empty, span⟩, none, []⟩, some es) := by
      rw [Draft.read, hn.1]
      exact hread
    obtain ⟨g', hg, hgrown⟩ := ih (fun i hi => hw i (List.mem_cons_of_mem _ hi))
      { g with segments := g.segments ++ [.directive ⟨n.value,
        as.foldl (fun as p => as.set p.1 p.2) .empty, span⟩] }
    refine ⟨g', ?_, hgrown.cons ⟨hn.2, ?_⟩⟩
    · rw [expand?]
      simp only [nextMove, ho, hdraft, Directive.is, hn.2, hinc, Bool.false_eq_true, if_false,
        Gathered.note, Gathered.add, List.append_nil]
      simpa only [hn.2] using hg
    · simpa [Attributes.toList, Attributes.empty] using
        Attributes.perm_foldl .empty hnodup (by simp [Attributes.empty])

theorem TemplateItem.AllWritable.all {is : List TemplateItem} (h : AllWritable is) :
    ∀ i ∈ is, i.Writable := by
  induction is with
  | nil => simp
  | cons i is ih => exact List.forall_mem_cons.2 ⟨h.head, ih h.tail⟩

/-- **Parsing undoes writing.** The text of a list of items that can be written is parsed, whatever
the root file is called and whatever could be included, into one segment for each item, of its kind
and with its text, or with its name and its attributes; there is no diagnostic, and no file is asked
for. -/
theorem parse?_renderAll (root : Text) (load : Option Loader) {is : List TemplateItem}
    (hw : TemplateItem.AllWritable is) :
    ∃ t, Template.parse? root (TemplateItem.renderAll is) load = some t ∧
      List.Forall₂ TemplateItem.Is is t.segments ∧ t.diagnostics = [] ∧ t.requests = [] := by
  obtain ⟨es, hrun, htells⟩ := run_renderAll is hw (Reader.ofFile root (TemplateItem.renderAll is))
    ⟨by simp [Reader.ofFile], rfl, by simp [Reader.ofFile]⟩
  obtain ⟨g, hg, segs, hsegs, rfl⟩ := expand?_of_tells load root htells hw.all (.ofRoot root)
  simp only [Template.parse?, scan, hrun, hg, Option.map_some]
  exact ⟨_, rfl, by simpa [Template.ofExpansion, Gathered.ofRoot] using hsegs, rfl, rfl⟩

/-- Items whose texts hold markers, quotes and backslashes at the places that matter. -/
def sampleItems : List TemplateItem :=
  [.directive (utf8 "template") [(utf8 "b", utf8 "x\"y\\"), (utf8 "A", utf8 "\\\"")],
    .content (utf8 "\r\n<\\<#"), .code .block (utf8 "#\\#>#"), .content (utf8 "end\\")]

theorem parse?_renderAll_sample :
    TemplateItem.AllWritable sampleItems ∧
    ∃ t, Template.parse? (utf8 "r") (TemplateItem.renderAll sampleItems) none = some t ∧
      List.Forall₂ TemplateItem.Is sampleItems t.segments ∧ t.diagnostics = [] ∧
      t.requests = [] := by
  have hw : TemplateItem.AllWritable sampleItems := by decide
  exact ⟨hw, parse?_renderAll (utf8 "r") none hw⟩

end TextTemplate
