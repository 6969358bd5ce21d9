/-
The lines of code. The code of a tag stands in its file between the opening and the end of the tag,
with a backslash in front of each end it mentions. Nothing else is changed when it is read, so its
lines are those of the file, one by one: `Expansion.Reported.code` says where the code of a piece
starts, that the piece knows the line, and on which line of the file each of its lines stands.
-/
import TextTemplate.Proofs.Include.Origin
import TextTemplate.Proofs.Template.Positions
import TextTemplate.Proofs.Text.Lines

namespace TextTemplate

/-! ## Line breaks -/

namespace Text

/-- The number of the line an offset is on. -/
def lineAt (s : Text) (n : Nat) : Nat := (s.take n).count 0x0A + 1

/-- **Induction over the lines** of a text in which every CR stands right before an LF. -/
theorem Paired.lines_induction {motive : Text → Prop} {s : Text} (h : Paired s)
    (last : ∀ s, 0x0D ∉ s → 0x0A ∉ s → motive s)
    (line : ∀ u e v, 0x0D ∉ u → 0x0A ∉ u → e = [0x0A] ∨ e = [0x0D, 0x0A] → Paired v → motive v →
      motive (u ++ e ++ v)) : motive s := by
  induction s using Text.lines_induction with
  | last s hs =>
    refine last s (fun hcr => ?_) hs
    obtain ⟨i, hi⟩ := List.getElem?_of_mem hcr
    exact hs (List.mem_of_getElem? (h i hi))
  | line u v hu ih =>
    have hv : Paired v := Paired.of_append (t := u ++ [0x0A]) (by simpa using h)
    by_cases hcr : 0x0D ∈ u
    · -- The CR is followed by an LF, so it ends the line.
      obtain ⟨a, b, rfl, ha⟩ := List.eq_append_cons_of_mem hcr
      have hnext : (b ++ 0x0A :: v).head? = some 0x0A :=
        Paired.head? (t := a ++ [0x0D]) (by simpa using h) (by simp)
      cases b with
      | nil =>
        have hlf : 0x0A ∉ a := fun hm => hu (List.mem_append_left _ hm)
        simpa using line a [0x0D, 0x0A] v ha hlf (.inr rfl) hv (ih hv)
      | cons c b =>
        cases hnext
        exact absurd (by simp) hu
    · simpa using line u [0x0A] v hcr hu (.inl rfl) hv (ih hv)

theorem paired_of_not_mem {s : Text} (h : 0x0D ∉ s) : Paired s :=
  fun _ hi => absurd (List.mem_of_getElem? hi) h

theorem Paired.append {s t : Text} (hs : Paired s) (ht : Paired t) : Paired (s ++ t) := by
  intro i hi
  by_cases hlt : i < s.length
  · have hlf := hs i (by rwa [List.getElem?_append_left hlt] at hi)
    rw [List.getElem?_append_left (List.getElem?_eq_some_iff.1 hlf).1]
    exact hlf
  · have hlf := ht (i - s.length) (by rwa [List.getElem?_append_right (by omega)] at hi)
    rwa [List.getElem?_append_right (by omega), Nat.sub_add_comm (by omega)]

theorem paired_break {e : Text} (he : e = [0x0A] ∨ e = [0x0D, 0x0A]) : Paired e := by
  rcases he with rfl | rfl
  · decide
  · decide

theorem isPrefixOf_append_cons {old : Text} {sep : UInt8} (h : sep ∉ old) (s t : Text) :
    old.isPrefixOf (s ++ sep :: t) = old.isPrefixOf s := by
  induction old generalizing s with
  | nil => rfl
  | cons o old ih =>
    obtain ⟨ho, hold⟩ := not_or.1 (mt List.mem_cons.2 h)
    cases s with
    | nil => simp [List.isPrefixOf, Ne.symm ho]
    | cons b s => simp [List.isPrefixOf, ih hold]

/-- Text is replaced part by part around a byte that the pattern does not have. -/
theorem replace_append_cons {old new : Text} {sep : UInt8} (hne : old ≠ []) (h : sep ∉ old)
    (s t : Text) :
    replace old new (s ++ sep :: t) = replace old new s ++ sep :: replace old new t := by
  have go (k : Nat) (hk : k ≤ s.length) :
      replaceGo old new k (s ++ sep :: t) = replaceGo old new k s ++ sep :: replace old new t := by
    induction s generalizing k with
    | nil =>
      obtain rfl : k = 0 := Nat.le_zero.1 hk
      obtain ⟨o, old, rfl⟩ := List.exists_cons_of_ne_nil hne
      have ho : o ≠ sep := fun ho => h (ho ▸ List.mem_cons_self)
      simp [replaceGo, List.isPrefixOf, ho, replace]
    | cons b s ih =>
      cases k with
      | succ k => exact ih k (Nat.le_of_succ_le_succ hk)
      | zero =>
        rw [List.cons_append, replaceGo, replaceGo, ← List.cons_append, isPrefixOf_append_cons h]
        split
        · next hpre =>
          have hlength := (List.isPrefixOf_iff_prefix.1 hpre).length_le
          rw [ih _ (by simp at hlength; omega), List.append_assoc]
        · rw [ih 0 (Nat.zero_le _), List.cons_append]
  exact go 0 (Nat.zero_le _)

theorem mem_of_mem_replaceGo {old new s : Text} {b : UInt8} {k : Nat}
    (h : b ∈ replaceGo old new k s) : b ∈ new ∨ b ∈ s := by
  induction s generalizing k with
  | nil => exact .inr h
  | cons c s ih =>
    cases k with
    | succ k => exact (ih h).imp_right (List.mem_cons_of_mem c)
    | zero =>
      rw [replaceGo] at h
      split at h
      · rcases List.mem_append.1 h with h | h
        · exact .inl h
        · exact (ih h).imp_right (List.mem_cons_of_mem c)
      · rcases List.mem_cons.1 h with rfl | h
        · exact .inr List.mem_cons_self
        · exact (ih h).imp_right (List.mem_cons_of_mem c)

/-- A line of a text stands in it behind the lines before it. -/
theorem exists_of_getElem?_pieces {s r : Text} {j : Nat} (h : (pieces 0x0A s)[j]? = some r) :
    ∃ u v, s = u ++ r ++ v ∧ u.count 0x0A = j := by
  induction s using Text.lines_induction generalizing j with
  | last s hs =>
    rw [pieces_of_not_mem hs] at h
    cases j with
    | zero =>
      cases h
      exact ⟨[], [], by simp, rfl⟩
    | succ j => cases h
  | line u v hu ih =>
    rw [pieces_append_cons hu] at h
    cases j with
    | zero =>
      cases h
      exact ⟨[], 0x0A :: v, by simp, rfl⟩
    | succ j =>
      obtain ⟨u', v', rfl, hj⟩ := ih h
      refine ⟨u ++ 0x0A :: u', v', by simp, ?_⟩
      rw [List.count_append, List.count_eq_zero_of_not_mem hu, List.count_cons_self, hj,
        Nat.zero_add]

end Text

/-! ## Lines of locations -/

namespace Location

/-- LF is a character of its own. -/
theorem count_lf {code : Nat} {bytes : Text} (h : Rune.WellFormed code bytes) :
    bytes.count 0x0A = if code = 10 then 1 else 0 := by
  split
  · next hcode =>
    rw [h.eq_encode, hcode]
    rfl
  · next hcode =>
    refine List.count_eq_zero_of_not_mem fun hlf => ?_
    by_cases hlong : 1 < bytes.length
    · exact h.high hlong _ hlf (by decide)
    · cases h with
      | one => exact hcode (by rw [← List.mem_singleton.1 hlf]; rfl)
      | _ => exact hlong (by simp)

/-- The line that a text leads to when only LF starts one. -/
theorem advanceLines_line (l : Location) (s : Text) :
    (l.advanceLines s).line = l.line + Int64.ofNat (s.count 0x0A) ∧
      (l.advanceLines s).file = l.file := by
  induction s using Text.runes_induction generalizing l with
  | nil => simp [advanceLines, Text.codes, Text.runes, Text.runesGo]
  | sequence code bytes s hw ih =>
    have hrest := ih (if code = 10 then l.addLine else l.addCol)
    unfold advanceLines at hrest ⊢
    rw [Text.codes_sequence hw, List.foldl_cons, List.count_append, count_lf hw]
    refine ⟨hrest.1.trans ?_, hrest.2.trans ?_⟩
    · split
      · rw [Int64.ofNat_add, ← Int64.add_assoc]
        rfl
      · rw [Nat.zero_add]
        rfl
    · split <;> rfl
  | stray b s hd ih =>
    have hb : b ≠ 0x0A := by
      rintro rfl
      exact absurd (hd.symm.trans (Rune.decode?_append (.one (a := 0x0A) (by decide)) s)) (by simp)
    have hrest := ih l.addCol
    unfold advanceLines at hrest ⊢
    rw [Text.codes_stray hd, List.foldl_cons, List.count_cons_of_ne hb]
    exact hrest

end Location

namespace Grammar

open Text (Paired)

variable {content : Text} {n : Nat}

theorem place_line (file : Text) (hpairs : Paired content) (hn : Clean content n) :
    (place file content n).line = Int64.ofNat (content.lineAt n) ∧
      (place file content n).file = file := by
  obtain ⟨hline, hfile⟩ := (Location.start file).advanceLines_line (content.take n)
  rw [place_eq file hpairs hn, hline, hfile, Text.lineAt, Nat.add_comm, Int64.ofNat_add]
  exact ⟨rfl, rfl⟩

theorem lineAt_append {u v : Text} (h : content.drop n = u ++ v) :
    content.lineAt (n + u.length) = content.lineAt n + u.count 0x0A := by
  rw [Text.lineAt, take_of_append h, List.count_append, Text.lineAt, Nat.add_right_comm]

/-! ## Code in a file -/

/-- Whether code stands at an offset of a text, up to the end of its tag. -/
structure CodeAt (content : Text) (n : Nat) (code : Text) : Prop where
  clean : Clean content n
  source : ∃ raw rest, content.drop n = raw ++ tagEnd ++ rest ∧ code = resolve tagEnd raw

/-- Whether a line of code stands on a line of a text. -/
def OnLine (content code : Text) (line : Nat) : Prop :=
  ∃ m raw, raw <+: content.drop m ∧ 0x0A ∉ raw ∧ content.lineAt m = line ∧
    code = resolve tagEnd raw

theorem resolve_append_cons {b : UInt8} (h : b ∉ 0x5C :: tagEnd) (u v : Text) :
    resolve tagEnd (u ++ b :: v) = resolve tagEnd u ++ b :: resolve tagEnd v :=
  Text.replace_append_cons (List.cons_ne_nil _ _) h u v

theorem not_mem_resolve {b : UInt8} {s : Text} (h : b ∉ tagEnd) (hs : b ∉ s) :
    b ∉ resolve tagEnd s :=
  fun hm => (Text.mem_of_mem_replaceGo hm).elim h hs

/-- The lines of resolved code are the resolved lines of the code. -/
theorem pieces_resolve (raw : Text) :
    Text.pieces 0x0A (resolve tagEnd raw) = (Text.pieces 0x0A raw).map (resolve tagEnd) := by
  induction raw using Text.lines_induction with
  | last s hs =>
    rw [Text.pieces_of_not_mem hs, Text.pieces_of_not_mem (not_mem_resolve (by decide) hs)]
    rfl
  | line u v hu ih =>
    rw [resolve_append_cons (by decide), Text.pieces_append_cons hu,
      Text.pieces_append_cons (not_mem_resolve (by decide) hu), ih]
    rfl

theorem paired_resolve {raw : Text} (h : Paired raw) : Paired (resolve tagEnd raw) := by
  refine h.lines_induction (motive := fun raw => Paired (resolve tagEnd raw)) ?_ ?_
  · exact fun s hcr _ => Text.paired_of_not_mem (not_mem_resolve (by decide) hcr)
  · intro u e v hcr _ he _ ih
    have hu : Paired (resolve tagEnd u) :=
      Text.paired_of_not_mem (not_mem_resolve (by decide) hcr)
    have hsplit : resolve tagEnd (u ++ e ++ v) = resolve tagEnd u ++ e ++ resolve tagEnd v := by
      rcases he with rfl | rfl
      · simpa using resolve_append_cons (b := 0x0A) (by decide) u v
      · have hlf : resolve tagEnd (0x0A :: v) = 0x0A :: resolve tagEnd v :=
          resolve_append_cons (by decide) [] v
        rw [List.append_assoc, List.cons_append, resolve_append_cons (by decide),
          List.singleton_append, hlf]
        simp
    rw [hsplit]
    exact (hu.append (Text.paired_break he)).append ih

theorem CodeAt.paired {code : Text} (h : CodeAt content n code) (hpairs : Paired content) :
    Paired code := by
  obtain ⟨raw, rest, hdrop, rfl⟩ := h.source
  have hraw := hpairs.drop n
  rw [hdrop, List.append_assoc] at hraw
  refine paired_resolve (hraw.left fun hcr => ?_)
  cases hraw.head? hcr

/-- Each line of the code stands on its line of the file. -/
theorem CodeAt.onLine {code : Text} (h : CodeAt content n code) {j : Nat} {c : Text}
    (hc : (Text.pieces 0x0A code)[j]? = some c) : OnLine content c (content.lineAt n + j) := by
  obtain ⟨raw, rest, hdrop, rfl⟩ := h.source
  rw [pieces_resolve, List.getElem?_map, Option.map_eq_some_iff] at hc
  obtain ⟨r, hr, rfl⟩ := hc
  obtain ⟨u, v, rfl, hj⟩ := Text.exists_of_getElem?_pieces hr
  have hlf := Text.sep_not_mem_pieces 0x0A _ r (List.mem_of_getElem? hr)
  simp only [List.append_assoc] at hdrop
  refine ⟨n + u.length, r, ?_, hlf, by rw [lineAt_append hdrop, hj], rfl⟩
  rw [drop_of_append hdrop]
  exact List.prefix_append _ _

/-- A code tag is seen where its code stands. -/
theorem Step.codeAt {c c' : Spot} {s : Sight} (h : Step content c s c') {kind : CodeKind}
    (hkind : s.kind = kind.eventKind) : CodeAt content s.place s.value := by
  cases h with
  | @code n j width after kind' s hopen hwidth hend =>
    have hlast : ∃ b, kind'.opening.getLast? = some b ∧ b < 0x80 ∧ b ≠ 0x0D := by
      cases kind' with
      | expression => exact ⟨0x3D, rfl, by decide⟩
      | block => exact ⟨0x23, rfl, by decide⟩
      | helper => exact ⟨0x2B, rfl, by decide⟩
    obtain ⟨b, hb, hlow, hcr⟩ := hlast
    obtain ⟨rest, hrest⟩ := hend.1.1
    subst hwidth
    refine ⟨clean_of_append hopen.1 hb hlow hcr, s.take j, rest, ?_, rfl⟩
    rw [drop_of_append hopen.1, List.append_assoc, hrest, List.take_append_drop]
  | _ => cases kind <;> cases hkind

theorem Scan.codeAt {c : Spot} {ss : List Sight} {f : Option (ScanFault × Nat)}
    (h : Scan content c ss f) {s : Sight} (hs : s ∈ ss) {kind : CodeKind}
    (hkind : s.kind = kind.eventKind) : CodeAt content s.place s.value := by
  induction h with
  | done after =>
    rw [List.mem_singleton.1 hs] at hkind
    cases kind <;> cases hkind
  | fault => cases hs
  | step hstep _ ih =>
    rcases List.mem_cons.1 hs with rfl | hs
    · exact hstep.codeAt hkind
    · exact ih hs

end Grammar

namespace Expansion

open Grammar

theorem exists_of_forall₂ {α β : Type} {R : α → β → Prop} {xs : List α} {ys : List β}
    (h : List.Forall₂ R xs ys) {y : β} (hy : y ∈ ys) : ∃ x ∈ xs, R x y := by
  induction h with
  | nil => cases hy
  | @cons x y' xs ys hr _ ih =>
    rcases List.mem_cons.1 hy with rfl | hy
    · exact ⟨x, List.mem_cons_self, hr⟩
    · obtain ⟨x', hx, hr⟩ := ih hy
      exact ⟨x', List.mem_cons_of_mem x hx, hr⟩

/-- The code of a piece stands in the file that reports it, and the piece knows where. -/
theorem Reported.codeAt {name content : Text} {p : Piece} {e : Event}
    (h : Reported name content p e) (hpairs : content.Paired) {kind : CodeKind}
    (hkind : p.kind = kind.pieceKind) :
    ∃ n, p.span.start = place name content n ∧ CodeAt content n p.text := by
  obtain ⟨sights, fault, hscan⟩ : ∃ sights fault, Scan content .start sights fault :=
    exists_scan (Nat.zero_le _)
  obtain ⟨hevents, -⟩ := (simulation_placed hpairs).run hscan (placed_ofFile name content)
  obtain ⟨s, hs, hshows⟩ := exists_of_forall₂ hevents h.mem
  have hcode : s.kind = kind.eventKind := by
    have hk := h.kind
    rw [hshows.kind, hkind] at hk
    cases hs : s.kind <;> rw [hs] at hk <;> cases kind <;> first | rfl | cases hk
  refine ⟨s.place, by rw [h.span, hshows.location], ?_⟩
  rw [h.text, hshows.value]
  exact hscan.codeAt hs hcode

end Expansion
end TextTemplate
