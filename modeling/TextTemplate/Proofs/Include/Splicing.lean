/-
Include directives are spliced: what a parse returns holds none. The expansion knows an include
directive by case folding, the resolution of settings by lower case, and beyond ASCII these differ.
But the scan reports names in ASCII only (`isAscii_of_mem_scan`), and there they agree
(`Text.eqFold_iff`).

`parse?_splices`: no directive of a parsed template is an include directive by either notion, so a
resolution of its settings never fails for one.
-/
import TextTemplate.Proofs.Text.Utf8
import TextTemplate.Proofs.Include.Origin
import TextTemplate.Proofs.Settings.Resolution

namespace TextTemplate

/-! ## Letter case in ASCII -/

namespace Text

/-- Whether a text has bytes of ASCII only. -/
def IsAscii (s : Text) : Prop := ∀ b ∈ s, b < 0x80

theorem codes_of_isAscii {s : Text} (h : s.IsAscii) : s.codes = s.map UInt8.toNat := by
  induction s with
  | nil => rfl
  | cons b s ih =>
    have hb : Rune.WellFormed b.toNat [b] := .one (h b List.mem_cons_self)
    have ih := ih fun c hc => h c (List.mem_cons_of_mem _ hc)
    rw [codes, show b :: s = [b] ++ s from rfl, runes_append hb, List.map_cons, ← codes, ih]
    rfl

/-- The lower-case form of an ASCII letter is one. -/
theorem lowerCode_lt {c : Nat} (h : c < 0x80) : Rune.lowerCode c < 0x80 := by
  simp only [Rune.lowerCode, h, if_true, Bool.and_eq_true, decide_eq_true_eq]
  split <;> omega

theorem foldCode_eq_lowerCode {c : Nat} (h : c < 0x80) : Rune.foldCode c = Rune.lowerCode c := by
  simp only [Rune.foldCode, Rune.lowerCode, h, if_true]

/-- Code points of ASCII are told by their text. -/
theorem ofCodes_inj {cs ds : List Nat} (hcs : ∀ c ∈ cs, c < 0x80) (hds : ∀ d ∈ ds, d < 0x80)
    (h : ofCodes cs = ofCodes ds) : cs = ds := by
  have read {cs : List Nat} (hcs : ∀ c ∈ cs, c < 0x80) : (ofCodes cs).map UInt8.toNat = cs := by
    induction cs with
    | nil => rfl
    | cons c cs ih =>
      have hc : c < 0x80 := hcs c List.mem_cons_self
      have hmod : c % 256 = c := by omega
      rw [ofCodes, List.flatMap_cons, ← ofCodes, List.map_append,
        ih fun d hd => hcs d (List.mem_cons_of_mem _ hd), Rune.encode, if_pos hc]
      simp [hmod]
  rw [← read hcs, h, read hds]

/-- **In ASCII**, texts are equal without regard to case exactly if they are in lower case. -/
theorem eqFold_iff {s t : Text} (hs : s.IsAscii) (ht : t.IsAscii) :
    s.eqFold t = true ↔ s.lower = t.lower := by
  have folded {s : Text} (hs : s.IsAscii) :
      s.codes.map Rune.foldCode = s.codes.map Rune.lowerCode ∧
        ∀ c ∈ s.codes.map Rune.lowerCode, c < 0x80 := by
    rw [codes_of_isAscii hs, List.map_map, List.map_map]
    constructor
    · exact List.map_congr_left fun b hb => foldCode_eq_lowerCode (hs b hb)
    · intro c hc
      obtain ⟨b, hb, rfl⟩ := List.mem_map.1 hc
      exact lowerCode_lt (hs b hb)
  rw [eqFold, beq_iff_eq, (folded hs).1, (folded ht).1, lower, lower]
  exact ⟨fun h => by rw [h], ofCodes_inj (folded hs).2 (folded ht).2⟩

end Text

/-! ## The names of directives -/

theorem lt_of_isNamePart {b : UInt8} (h : isNamePart b = true) : b < 0x80 := by
  simp only [isNamePart, isNameStart, Bool.or_eq_true, Bool.and_eq_true, decide_eq_true_eq,
    beq_iff_eq] at h
  grind

/-- A name in a directive tag is in ASCII. -/
theorem DirectiveToken.isAscii_name {s text rest : Text}
    (h : next? s = some (.name text, rest)) : text.IsAscii := by
  unfold next? at h
  split at h
  · cases h
  · cases h
  · next b s _ =>
    split at h
    · next hstart =>
      cases h
      intro c hc
      rcases List.mem_cons.1 hc with rfl | hc
      · exact lt_of_isNamePart (by simp [isNamePart, hstart])
      · exact lt_of_isNamePart (List.all_eq_true.1 List.all_takeWhile c hc)
    split at h
    · cases h
    split at h
    · obtain ⟨r, -, heq⟩ := Option.map_eq_some_iff.1 h
      cases heq
    · cases h

namespace Reader

theorem isAscii_of_nextToken {r behind : Reader} {text : Text}
    (h : r.nextToken = .ok (some (.name text, behind))) : text.IsAscii := by
  unfold nextToken at h
  split at h
  · cases h
  · split at h
    · cases h
    · next hnext =>
      cases h
      exact DirectiveToken.isAscii_name hnext

/-- A report of a name in a directive tag is in ASCII. -/
theorem isAscii_of_advance {r r' : Reader} (hlive : r.last.kind ≠ .eof) (h : r.advance = .ok r')
    (hname : r'.last.kind = .directiveName) : r'.last.value.IsAscii := by
  rw [advance, if_neg hlive] at h
  split at h
  · unfold advanceDirective at h
    dsimp only at h
    split at h
    · cases h
    · cases h
    · cases h
      cases hname
    · next hnext =>
      cases h
      exact isAscii_of_nextToken hnext
    · split at h
      · cases h
      · cases h
        cases hname
      · cases h
    · cases h
  · next hout =>
    have hshift := shift_advanceText (Bool.eq_false_iff.2 hout) h
    rw [Bool.eq_false_iff.2 hout, hname] at hshift
    exact absurd (.inl rfl) hshift.not_isPart

theorem isAscii_of_mem_run (r : Reader) :
    ∀ e ∈ r.run.1, e.kind = .directiveName → e.value.IsAscii := by
  fun_induction run r with
  | case1 => simp
  | case2 => simp
  | case3 r hlive r' hstep events fault hrun ih =>
    rw [hrun] at ih
    exact List.forall_mem_cons.2 ⟨isAscii_of_advance hlive hstep, ih⟩

end Reader

theorem isAscii_of_mem_scan {file content : Text} {e : Event} (he : e ∈ (scan file content).1)
    (hname : e.kind = .directiveName) : e.value.IsAscii :=
  (Reader.ofFile file content).isAscii_of_mem_run e he hname

namespace Draft

variable {root : Text} {draft draft' : Draft} {e : Event}

/-- Whether the directive of a draft, if there is one yet, has a name in ASCII. -/
def IsNamed (draft : Draft) : Prop := ∀ d, draft.directive = some d → d.name.IsAscii

theorem IsNamed.flush (root : Text) (h : draft.IsNamed) : (draft.flush root).IsNamed := by
  unfold Draft.flush
  split <;> exact h

theorem IsNamed.name (h : draft.IsNamed) (he : e.value.IsAscii) : (draft.name root e).IsNamed := by
  unfold Draft.name
  split
  · intro d hd
    cases hd
    exact he
  · exact h.flush root

theorem IsNamed.value (h : draft.IsNamed) : (draft.value root e).IsNamed := by
  unfold Draft.value
  split
  · next d₀ _ _ hd₀ _ =>
    intro d hd
    cases hd
    exact h d₀ hd₀
  · exact h

theorem IsNamed.close (h : draft.IsNamed) (opened : Location) :
    (draft.close root opened e).IsNamed := by
  unfold Draft.close
  dsimp only
  split
  · exact h.flush root
  · next d₀ hd₀ =>
    intro d hd
    cases hd
    exact h.flush root d₀ hd₀

/-- The tag of a directive gives it a name in ASCII. -/
theorem IsNamed.read {opened : Location} {es : List Event} {behind : Option (List Event)}
    (hes : ∀ e ∈ es, e.kind = .directiveName → e.value.IsAscii) (hdraft : draft.IsNamed)
    (h : Draft.read root opened draft es = (draft', behind)) : draft'.IsNamed := by
  induction es generalizing draft with
  | nil =>
    cases h
    exact hdraft
  | cons e es ih =>
    have ih := fun {draft} => @ih draft fun e he => hes e (List.mem_cons_of_mem _ he)
    unfold Draft.read at h
    split at h
    · next hkind => exact ih (hdraft.name (hes e List.mem_cons_self hkind)) h
    · exact ih hdraft.value h
    · cases h
      exact hdraft.close opened

end Draft

/-! ## The directives of a parse -/

/-- The directive of a tag has a name in ASCII. -/
theorem Expansion.TagOf.isAscii {root name content : Text} {inside : List Event} {d : Directive}
    (h : TagOf root name content inside d) : d.name.IsAscii := by
  obtain ⟨opening, hsuffix, -, hdirective⟩ := h.tag
  unfold directiveOf? at hdirective
  split at hdirective
  · next hread =>
    have hempty : Draft.empty.IsNamed := fun d hd => nomatch hd
    have hevents : ∀ e ∈ inside, e.kind = .directiveName → e.value.IsAscii := fun e he =>
      isAscii_of_mem_scan (hsuffix.subset (List.mem_cons_of_mem opening he))
    exact hempty.read hevents hread d hdirective
  · cases hdirective

theorem Expansion.directives_parse? {load : Option Loader} {root source : Text} {t : Template}
    (h : Template.parse? root source load = some t) {d : Directive} (hd : d ∈ t.directives) :
    d.is (utf8 "include") = false ∧ d.name.IsAscii := by
  obtain ⟨_, _, _, -, htag⟩ := tags_parse? h hd
  exact ⟨htag.other, htag.isAscii⟩

/-! ## The resolution -/

theorem DirectiveKind.lower_of_includeFile {name : Text} (h : ofName name = .includeFile) :
    name.lower = utf8 "include" := by
  unfold ofName at h
  dsimp only at h
  split_ifs at h
  assumption

theorem findEncoding_ne_includeDirective (name : Text) :
    findEncoding name ≠ .error .includeDirective := by
  unfold findEncoding
  split
  · exact fun h => nomatch h
  · split <;> exact fun h => nomatch h

/-- **Include directives do not survive parsing**: whatever the root, its text and the loader, also
when includes fail or a fault cuts the parse short, no directive of the template is named `include`,
by case folding or by lower case. So a resolution of its settings never fails for one. -/
theorem Expansion.parse?_splices {load : Option Loader} {root source : Text} {t : Template}
    (h : Template.parse? root source load = some t) :
    (∀ d ∈ t.directives, d.is (utf8 "include") = false ∧ d.name.lower ≠ utf8 "include") ∧
      ∀ (σ : Type) (options : ResolveOptions) (loading : Loading σ) (registry : Registry σ)
        (world : σ), (Settings.resolve t options loading registry world).result ≠
          .error .includeDirective := by
  have hnone : ∀ d ∈ t.directives, d.is (utf8 "include") = false ∧
      d.name.lower ≠ utf8 "include" := by
    intro d hd
    obtain ⟨hinclude, hascii⟩ := directives_parse? h hd
    refine ⟨hinclude, fun hlower => ?_⟩
    have hword : ∀ b ∈ utf8 "include", b < 0x80 := by decide +kernel
    have hsmall : (utf8 "include").lower = utf8 "include" := by decide +kernel
    have hfold := (Text.eqFold_iff hascii hword).2 (hlower.trans hsmall.symm)
    rw [Directive.is, hfold] at hinclude
    cases hinclude
  refine ⟨hnone, fun σ options loading registry world hfailed => ?_⟩
  let cx : Context σ := ⟨loading, t.source, options.parameters, .ofLayout .standard⟩
  obtain ⟨-, calls, st, hcut, -⟩ := resolve_error cx rfl hfailed
  generalize herror : ResolveError.includeDirective = e at hcut
  cases hcut with
  | encoding hencoding =>
    subst herror
    exact findEncoding_ne_includeDirective _ hencoding
  | @directive before after d active calls e hds hactive hrefused =>
    cases hrefused with
    | includeFile hkind =>
      have hd : d ∈ t.directives := by simp [hds]
      exact (hnone d hd).2 (DirectiveKind.lower_of_includeFile hkind)
    | noProcessor | missing | setUp | unsupported => cases herror

/-- A loader of one file, whose text has a directive and ends inside a tag. -/
def cutFile : Loader := fun requested _ =>
  if requested = utf8 "h" then some (utf8 "<#@ widget #><#=", utf8 "h") else none

/-- The events of that file. -/
def cutEvents : List Event :=
  let place (column : Int64) : Location := ⟨utf8 "h", 1, column⟩
  [⟨.directive, [], place 4, place 1, place 1⟩,
    ⟨.directiveName, utf8 "widget", place 5, place 1, place 1⟩,
    ⟨.directive, [], place 12, place 1, place 14⟩]

/-- The directive of that file. -/
def cutDirective : Directive :=
  let place (column : Int64) : Location := ⟨utf8 "h", 1, column⟩
  ⟨utf8 "widget", .ofList [], ⟨place 5, place 14, place 1⟩⟩

/-- The events of `<#@ Include file="h" #>`. -/
def mixedCaseEvents : List Event :=
  let place (column : Int64) : Location := ⟨utf8 "r", 1, column⟩
  [⟨.directive, [], place 4, place 1, place 1⟩,
    ⟨.directiveName, utf8 "Include", place 5, place 1, place 1⟩,
    ⟨.directiveName, utf8 "file", place 13, place 1, place 1⟩,
    ⟨.directiveValue, utf8 "h", place 19, place 1, place 1⟩,
    ⟨.directive, [], place 22, place 1, place 24⟩, ⟨.eof, [], place 24, place 24, place 24⟩]

/-- Its directive. -/
def mixedCaseDirective : Directive :=
  let place (column : Int64) : Location := ⟨utf8 "r", 1, column⟩
  ⟨utf8 "Include", .ofList [(utf8 "file", utf8 "h")], ⟨place 5, place 24, place 1⟩⟩

namespace Expansion

theorem nextMove_cutEvents (g : Gathered) :
    nextMove (utf8 "r") true false cutEvents g =
      .advance false [] { g with segments := g.segments ++ [.directive cutDirective] } := by
  have hname : (utf8 "widget").eqFold (utf8 "include") = false := by decide +kernel
  simp only [nextMove, cutEvents, Draft.read, Draft.name, Draft.close, Draft.flush, Draft.empty,
    Directive.is, hname, Gathered.note, Gathered.add, List.append_nil, Bool.false_eq_true, if_false]
  rfl

theorem nextMove_mixedCaseEvents (g : Gathered) :
    nextMove (utf8 "r") false false mixedCaseEvents g =
      .include mixedCaseDirective (mixedCaseEvents.drop 5) g := by
  have hname : (utf8 "Include").eqFold (utf8 "include") = true := by decide +kernel
  simp only [nextMove, mixedCaseEvents, Draft.read, Draft.name, Draft.value, Draft.close,
    Draft.flush, Draft.empty, Directive.is, hname, Gathered.note, List.append_nil, if_true]
  rfl

/-- The include directive is spliced whatever the case of its name, and the directive behind it is
met although the tag after that stays open. -/
theorem parse?_mixedCase : ∃ t,
    Template.parse? (utf8 "r") (utf8 "<#@ Include file=\"h\" #>") cutFile = some t ∧
      t.directives = [cutDirective] := by
  have hroot : scan (utf8 "r") (utf8 "<#@ Include file=\"h\" #>") = (mixedCaseEvents, none) := by
    cbv
  have hfile : scan (utf8 "h") (utf8 "<#@ widget #><#=") =
      (cutEvents, some ⟨⟨utf8 "h", 1, 14⟩, .unclosedTag .expression⟩) := by cbv
  have henter : includeStep cutFile (utf8 "r") mixedCaseDirective (.ofRoot (utf8 "r")) =
      .enter (utf8 "<#@ widget #><#=") (utf8 "h")
        ⟨[], [], [], [utf8 "h"], [utf8 "r"], [(utf8 "h", utf8 "r")]⟩ := by cbv
  simp only [Template.parse?, hroot]
  rw [expand?]
  simp only [nextMove_mixedCaseEvents]
  rw [include?]
  simp only [henter, hfile]
  rw [expand?]
  simp only [nextMove_cutEvents]
  rw [expand?]
  exact ⟨_, rfl, rfl⟩

/-- Of all directives only the one of the included file is left. -/
theorem parse?_splices_mixedCase :
    ∃ t, Template.parse? (utf8 "r") (utf8 "<#@ Include file=\"h\" #>") cutFile = some t ∧
      t.directives = [cutDirective] ∧
      (∀ d ∈ t.directives, d.name.lower ≠ utf8 "include") ∧
      ∀ options world, (Settings.resolve t options ⟨none, none⟩ (.standard : Registry Unit)
        world).result ≠ .error .includeDirective := by
  obtain ⟨t, ht, hleft⟩ := parse?_mixedCase
  obtain ⟨hdirectives, hresolve⟩ := parse?_splices ht
  exact ⟨t, ht, hleft, fun d hd => (hdirectives d hd).2,
    fun options world => hresolve Unit options ⟨none, none⟩ .standard world⟩

end Expansion
end TextTemplate
