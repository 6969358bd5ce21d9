/-
The locations of what is read. A location is told by an offset: it is where the start of the file is
moved to by the text in front of the offset (`place`). The reader keeps its own count while it goes,
tag by tag. On a text in which every CR stands right before an LF both agree at each offset a scan
comes to, since none of these cuts a character or a line break (`Clean`, `place_region`). So every
location the reader reports is the place of the offset that the scan sees it at (`Placed.step`,
`Placed.fault`), and the runs of text and the tags lie side by side from the start of the text to
its end (`Scan.tiles`).
-/
import Mathlib.Data.List.TakeWhile
import TextTemplate.Proofs.Template.Scanning
import TextTemplate.Proofs.Text.Counting

namespace TextTemplate
namespace Grammar

open Text (Joins Paired)

/-! ## Places -/

/-- The location of an offset of a file. -/
def place (file content : Text) (n : Nat) : Location :=
  (Location.start file).advance (content.take n)

/-- Whether an offset cuts neither a character nor a line break. -/
def Clean (content : Text) (n : Nat) : Prop :=
  Joins (content.take n) (content.drop n) ∧ (content.take n).getLast? ≠ some 0x0D

section Clean

variable (file : Text) {content : Text} {n : Nat}

theorem clean_zero : Clean content 0 := by
  refine ⟨fun b _ hb => ?_, ?_⟩
  · simp at hb
  · simp

theorem clean_of_last {b : UInt8} (h : (content.take n).getLast? = some b) (hlow : b < 0x80)
    (hcr : b ≠ 0x0D) : Clean content n := by
  refine ⟨fun c _ hc _ => ?_, ?_⟩
  · rw [h] at hc
    cases hc
    exact .inl hlow
  · rw [h]
    exact fun he => hcr (Option.some.inj he)

theorem take_of_append {u v : Text} (h : content.drop n = u ++ v) :
    content.take (n + u.length) = content.take n ++ u := by
  rw [List.take_add, h, List.take_left]

theorem clean_of_append {u v : Text} {b : UInt8} (h : content.drop n = u ++ v)
    (hlast : u.getLast? = some b) (hlow : b < 0x80) (hcr : b ≠ 0x0D) :
    Clean content (n + u.length) := by
  refine clean_of_last ?_ hlow hcr
  rw [take_of_append h, List.getLast?_append, hlast, Option.some_or]

variable (hpairs : Paired content)

include hpairs

theorem paired_take_append_drop (n : Nat) : Paired (content.take n ++ content.drop n) := by
  rwa [List.take_append_drop]

theorem clean_of_head (h : ∀ b, (content.drop n).head? = some b → b < 0x80 ∧ b ≠ 0x0A) :
    Clean content n := by
  refine ⟨fun _ c _ hc => .inr (h c hc).1, fun hcr => ?_⟩
  exact (h _ ((paired_take_append_drop hpairs n).head? hcr)).2 rfl

theorem clean_length : Clean content content.length := by
  refine clean_of_head hpairs fun b hb => ?_
  rw [List.drop_length] at hb
  cases hb

/-- In front of a marker nothing is cut. -/
theorem clean_of_stops {a b : UInt8} {j : Nat} (ha : a < 0x80 ∧ a ≠ 0x0A)
    (h : Stops [a, b] (content.drop n) j) : Clean content (n + j) := by
  obtain ⟨u, hu⟩ := h.1
  rw [List.drop_drop] at hu
  refine clean_of_head hpairs fun c hc => ?_
  rw [← hu] at hc
  cases hc
  exact ha

theorem place_eq (hn : Clean content n) :
    place file content n = (Location.start file).advanceLines (content.take n) :=
  Location.advance_eq_advanceLines ((paired_take_append_drop hpairs n).left hn.2) _

theorem paired_region {j : Nat} (hend : Clean content (n + j)) :
    Paired ((content.drop n).take j) := by
  have happend := paired_take_append_drop (hpairs.drop n) j
  refine happend.left fun hcr => hend.2 ?_
  rw [List.take_add, List.getLast?_append, hcr, Option.some_or]

/-- **From place to place**: the reader's count over a region takes it from the place of the start
to the place of the end. -/
theorem place_region {j : Nat} (hn : Clean content n) (hend : Clean content (n + j)) :
    (place file content n).advanceLines ((content.drop n).take j) = place file content (n + j) := by
  have hjoins := hn.1
  rw [← List.take_append_drop j (content.drop n)] at hjoins
  rw [place_eq file hpairs hn, place_eq file hpairs hend, List.take_add,
    Location.advanceLines_append hjoins.left]

/-- The other count does so as well. -/
theorem place_advance {j : Nat} (hn : Clean content n) (hend : Clean content (n + j)) :
    (place file content n).advance ((content.drop n).take j) = place file content (n + j) := by
  rw [Location.advance_eq_advanceLines (paired_region hpairs hend),
    place_region file hpairs hn hend]

theorem place_append {u v : Text} (hn : Clean content n) (h : content.drop n = u ++ v)
    (hend : Clean content (n + u.length)) :
    (place file content n).advanceLines u = place file content (n + u.length) := by
  have hregion := place_region file hpairs hn hend
  rwa [h, List.take_left] at hregion

/-- A marker of printable ASCII is as many columns wide as it has bytes. -/
theorem place_marker {u v : Text} (hn : Clean content n) (h : content.drop n = u ++ v)
    (hu : u.isPrintable = true) (hne : u ≠ []) :
    Clean content (n + u.length) ∧
      (place file content n).addCols (Int64.ofNat u.length) =
        place file content (n + u.length) := by
  have hend : Clean content (n + u.length) := by
    have hlast := List.all_eq_true.1 hu _ (List.getLast_mem hne)
    rw [Bool.and_eq_true, decide_eq_true_eq, decide_eq_true_eq] at hlast
    obtain ⟨hlow, hhigh⟩ := hlast
    refine clean_of_append h (List.getLast?_eq_some_getLast hne) hhigh fun hcr => ?_
    rw [hcr] at hlow
    exact absurd hlow (by decide)
  exact ⟨hend, by rw [← Location.advanceLines_printable hu, place_append file hpairs hn h hend]⟩

end Clean

/-! ## The parts of a directive -/

theorem low_of_isDirectiveSpace {b : UInt8} (h : isDirectiveSpace b = true) : b < 0x80 := by
  simp only [isDirectiveSpace, Bool.or_eq_true, beq_iff_eq] at h
  rcases h with (((rfl | rfl) | rfl) | rfl) | rfl <;> decide

theorem low_of_isNamePart {b : UInt8} (h : isNamePart b = true) : b < 0x80 ∧ b ≠ 0x0D := by
  simp only [isNamePart, isNameStart, Bool.or_eq_true, Bool.and_eq_true, decide_eq_true_eq,
    beq_iff_eq] at h
  grind

theorem isNamePart_of_name {t name s : Text} (h : Lexeme t (.name name) s) :
    ∀ b ∈ name, isNamePart b = true := by
  have hnext := h.next?
  unfold DirectiveToken.next? at hnext
  split at hnext
  · cases hnext
  · cases hnext
  · next b u _ =>
    split at hnext
    · next hb =>
      cases hnext
      intro c hc
      rcases List.mem_cons.1 hc with rfl | hc
      · simp [isNamePart, hb]
      · exact List.mem_takeWhile_imp hc
    split at hnext
    · cases hnext
    split at hnext
    · simp at hnext
    · cases hnext

/-- A part of a directive ends in ASCII that is no line break. -/
theorem Lexeme.last {t s : Text} {tok : DirectiveToken} (h : Lexeme t tok s) :
    ∃ b, tok.raw.getLast? = some b ∧ b < 0x80 ∧ b ≠ 0x0D := by
  cases tok with
  | close => exact ⟨0x3E, rfl, by decide⟩
  | equals => exact ⟨0x3D, rfl, by decide⟩
  | value inner => exact ⟨0x22, List.getLast?_concat, by decide⟩
  | name name =>
    have hlast := List.getLast_mem h.raw_ne_nil
    exact ⟨_, List.getLast?_eq_some_getLast h.raw_ne_nil,
      low_of_isNamePart (isNamePart_of_name h _ hlast)⟩

section Directive

variable (file : Text) {content : Text} {n : Nat} (hpairs : Paired content)

include hpairs

/-- White space is read whole, so it does not end between CR and LF. -/
theorem clean_behindSpace (hn : Clean content n) : Clean content (behindSpace content n) := by
  by_cases hnil : (content.drop n).takeWhile isDirectiveSpace = []
  · rw [behindSpace, hnil]
    exact hn
  have hlast := List.getLast?_eq_some_getLast hnil
  have hsplit := List.takeWhile_append_dropWhile (p := isDirectiveSpace) (l := content.drop n)
  refine clean_of_append hsplit.symm hlast
    (low_of_isDirectiveSpace (List.mem_takeWhile_imp (List.getLast_mem hnil))) fun hcr => ?_
  rw [hcr] at hlast
  have hpairs' := hpairs.drop n
  rw [← hsplit] at hpairs'
  have hlf := hpairs'.head? hlast
  have hspace := List.head?_dropWhile_not isDirectiveSpace (content.drop n)
  rw [hlf] at hspace
  exact absurd hspace (by decide)

theorem behind_place (hn : Clean content n) :
    behind (place file content n) (content.drop n) = place file content (behindSpace content n) :=
  place_append file hpairs hn (List.takeWhile_append_dropWhile (p := isDirectiveSpace)).symm
    (clean_behindSpace hpairs hn)

theorem place_lexeme {s : Text} {tok : DirectiveToken} (hn : Clean content n)
    (h : Lexeme (content.drop n) tok s) :
    Clean content (n + tok.raw.length) ∧
      (place file content n).advanceLines tok.raw = place file content (n + tok.raw.length) := by
  obtain ⟨b, hlast, hlow, hcr⟩ := h.last
  have hend := clean_of_append h.raw_append hlast hlow hcr
  exact ⟨hend, place_append file hpairs hn h.raw_append hend⟩

/-- A part behind white space. -/
theorem behind_lexeme {s : Text} {tok : DirectiveToken} (hn : Clean content n)
    (h : Lexeme (content.drop (behindSpace content n)) tok s) :
    let here := behind (place file content n) (content.drop n)
    let j := behindSpace content n
    here = place file content j ∧ Clean content (j + tok.raw.length) ∧
      here.advanceLines tok.raw = place file content (j + tok.raw.length) := by
  intro here j
  have hhere : here = place file content j := behind_place file hpairs hn
  rw [hhere]
  exact ⟨rfl, place_lexeme file hpairs (clean_behindSpace hpairs hn) h⟩

/-- The place where a value is looked for. -/
theorem behind_equals {s : Text} (hn : Clean content n)
    (h : Lexeme (content.drop (behindSpace content n)) .equals s) :
    let k := behindSpace content (behindSpace content n + 1)
    Clean content k ∧
      behind ((behind (place file content n) (content.drop n)).advanceLines (utf8 "="))
        (content.drop (behindSpace content n + 1)) = place file content k := by
  obtain ⟨-, hclean, hequals⟩ := behind_lexeme file hpairs hn h
  exact ⟨clean_behindSpace hpairs hclean, hequals ▸ behind_place file hpairs hclean⟩

end Directive

/-! ## Regions -/

/-- A line break is CR LF or LF where every CR stands right before an LF, and ends a line. -/
theorem exists_lineBreak {raw : Text} (h : Paired raw) (hne : lineBreak raw ≠ 0) :
    ∃ u v, raw = u ++ v ∧ u.length = lineBreak raw ∧ u.getLast? = some 0x0A ∧
      ∀ l : Location, l.advanceLines u = l.addLine := by
  unfold lineBreak at hne ⊢
  split at hne
  · next s => exact ⟨[0x0D, 0x0A], s, rfl, rfl, rfl, fun _ => rfl⟩
  · next s hnot =>
    obtain ⟨t, rfl⟩ := List.head?_eq_some_iff.1 (Paired.head? (t := [0x0D]) h rfl)
    exact absurd rfl (hnot t)
  · next s => exact ⟨[0x0A], s, rfl, rfl, rfl, fun _ => rfl⟩
  · exact absurd rfl hne

section Region

variable (file : Text) {content : Text} {n j : Nat} (hpairs : Paired content)

include hpairs

theorem clean_of_textEnds (h : TextEnds (content.drop n) j) (hpos : 0 < j) :
    Clean content (n + j) := by
  have hne := h.ne_nil hpos
  rcases h with h | ⟨rfl, -⟩
  · exact clean_of_stops hpairs (by decide) h.1
  · have hlt : n < content.length := by
      by_contra hle
      exact hne (List.drop_eq_nil_of_le (by omega))
    rw [List.length_drop, Nat.add_sub_cancel' (Nat.le_of_lt hlt)]
    exact clean_length hpairs

/-- The line break that belongs to a directive ends its line. -/
theorem place_swallowed {raw : Text} {skip : Nat} {after : Bool} (hn : Clean content n)
    (hend : Clean content (n + j)) (hraw : raw = (content.drop n).take j)
    (hskip : skip = swallowed after raw) :
    (if skip = 0 then place file content n else (place file content n).addLine) =
      place file content (n + skip) := by
  by_cases hzero : skip = 0
  · rw [if_pos hzero, hzero, Nat.add_zero]
  have hbreak : skip = lineBreak raw := by
    cases after with
    | false => exact absurd hskip hzero
    | true => exact hskip
  have hpaired : Paired raw := hraw ▸ paired_region hpairs hend
  obtain ⟨u, v, huv, hlength, hlast, hline⟩ := exists_lineBreak hpaired (hbreak ▸ hzero)
  have hdrop : content.drop n = u ++ (v ++ (content.drop n).drop j) := by
    rw [← List.append_assoc, ← huv, hraw, List.take_append_drop]
  rw [if_neg hzero, ← hline, hbreak, ← hlength]
  exact place_append file hpairs hn hdrop (clean_of_append hdrop hlast (by decide) (by decide))

/-- The places of a code tag. -/
theorem place_code {kind : CodeKind} {s : Text} (hn : Clean content n)
    (hopen : Opens kind (content.drop n) s) (hend : FirstStop tagEnd s j) :
    let inside := n + kind.opening.length
    Clean content (inside + j + 2) ∧
      (place file content n).addCols (Int64.ofNat kind.opening.length) =
        place file content inside ∧
      ((place file content inside).advanceLines (s.take j)).addCols 2 =
        place file content (inside + j + 2) := by
  intro inside
  have hprintable : kind.opening.isPrintable = true := by cases kind <;> rfl
  obtain ⟨hclean, hinside⟩ :=
    place_marker file hpairs hn hopen.1 hprintable (opening_ne_nil kind)
  have hs : content.drop inside = s := drop_of_append hopen.1
  rw [← hs] at hend ⊢
  have hstop : Clean content (inside + j) := clean_of_stops hpairs (by decide) hend.1
  obtain ⟨u, hu⟩ := hend.1.1
  rw [List.drop_drop] at hu
  obtain ⟨hclean', hend'⟩ :=
    place_marker file hpairs hstop hu.symm rfl (by decide)
  refine ⟨hclean', hinside, ?_⟩
  rw [place_region file hpairs hclean hstop]
  exact hend'

end Region

/-! ## The reader at its places -/

/-- A report that shows what a scan sees: its kind and value, its location at the place of the
value, and the start and the end of its run or tag where they are known. -/
structure Shows (file content : Text) (s : Sight) (e : Event) : Prop where
  kind : e.kind = s.kind
  value : e.value = s.value
  location : e.location = place file content s.place
  tagStart : s.kind ≠ .content → e.tagStart = place file content s.opened
  tagEnd : ∀ n, s.stop = some n → e.tagEnd = place file content n

/-- An error for a fault, at its place. -/
def Fails (file content : Text) (f : ScanFault) (n : Nat) (e : ScanError) : Prop :=
  e.fault = f ∧ e.location = place file content n

/-- A reader at a spot of a text whose count is right. -/
structure Placed (file content : Text) (c : Spot) (r : Reader) : Prop
    extends Follows content c r where
  clean : Clean content c.offset
  position : r.position = place file content c.offset
  opened : ∀ o, c.mode = .directive o →
    r.opened = place file content o ∧ r.last.tagStart = place file content o

theorem placed_ofFile (file content : Text) :
    Placed file content .start (.ofFile file content) where
  toFollows := follows_ofFile file content
  clean := clean_zero
  position := rfl
  opened _ h := by cases h

section Placed

variable {file content : Text} {c c' : Spot} {r r' : Reader} {s : Sight} (hpairs : Paired content)

include hpairs

/-- **One step** keeps the count right, and its report shows what the scan sees. -/
theorem Placed.step (h : Placed file content c r) (hstep : Step content c s c') :
    ∃ r', r.advance = .ok r' ∧ Placed file content c' r' ∧ Shows file content s r'.last := by
  obtain ⟨r', hadvance, hfollows, hkind, hvalue⟩ := h.toFollows.step hstep
  refine ⟨r', hadvance, ?_⟩
  have hclean := h.clean
  have hposition := h.position
  -- The reader's equation gives the report; each location in it is a move away from `position`.
  cases hstep with
  | text hend hpos hraw hskip =>
    subst hraw
    have hclean' := clean_of_textEnds hpairs hend hpos
    have hbreak := place_swallowed file hpairs hclean hclean' rfl hskip
    have hafter := h.mode.2
    subst hafter hskip
    cases hadvance.symm.trans (advance_text h.stands_text hend hpos (hend.ne_nil hpos))
    refine ⟨⟨hfollows, hclean', ?_, fun _ ho => by cases ho⟩, hkind, hvalue, ?_,
      fun hne => absurd rfl hne, fun m hm => ?_⟩
    · dsimp only
      rw [hposition, place_region file hpairs hclean hclean']
    · dsimp only
      rw [hposition]
      exact hbreak
    · cases hm
      dsimp only
      rw [hposition, place_advance file hpairs hclean hclean']
  | code hopen hwidth hend =>
    subst hwidth
    obtain ⟨hclean', hinside, hstop⟩ := place_code file hpairs hclean hopen hend
    cases hadvance.symm.trans (advance_code h.stands_text hopen hend)
    rw [← hinside, ← hposition] at hstop
    refine ⟨⟨hfollows, hclean', hstop, fun _ ho => by cases ho⟩, hkind, hvalue, ?_,
      fun _ => hposition, fun m hm => ?_⟩
    · dsimp only
      rw [hposition, hinside]
    · cases hm
      exact hstop
  | openDirective hopen =>
    have hstands := h.stands_text
    rw [hopen] at hstands
    cases hadvance.symm.trans (advance_openDirective hstands)
    obtain ⟨hclean', hmarker⟩ := place_marker file hpairs hclean hopen rfl (by decide)
    rw [← hposition] at hmarker
    refine ⟨⟨hfollows, hclean', hmarker, fun o ho => ?_⟩, hkind, hvalue, hmarker,
      fun _ => hposition, fun _ hm => by cases hm⟩
    cases ho
    exact ⟨hposition, hposition⟩
  | closeDirective hj hclose =>
    subst hj
    obtain ⟨hhere, hclean', hend⟩ := behind_lexeme file hpairs hclean hclose
    have hstop := (place_marker file hpairs (clean_behindSpace hpairs hclean) hclose.raw_append
      rfl (by decide)).2
    rw [← hhere] at hstop
    rw [← hposition] at hhere hend hstop
    rw [drop_behindSpace] at hclose
    cases hadvance.symm.trans (advance_closeDirective h.stands_directive hclose)
    refine ⟨⟨hfollows, hclean', hend, fun _ ho => by cases ho⟩, hkind, hvalue, hhere,
      fun _ => (h.opened _ rfl).1, fun m hm => ?_⟩
    cases hm
    exact hstop
  | name hj hname =>
    subst hj
    obtain ⟨hhere, hclean', hend⟩ := behind_lexeme file hpairs hclean hname
    rw [← hposition] at hhere hend
    rw [drop_behindSpace] at hname
    cases hadvance.symm.trans (advance_name h.stands_directive hname)
    refine ⟨⟨hfollows, hclean', hend, fun o ho => ?_⟩, hkind, hvalue, hhere,
      fun _ => (h.opened _ rfl).2, fun _ hm => by cases hm⟩
    cases ho
    exact h.opened _ rfl
  | @value n j k opened inner s s' hj hequals hk hquoted =>
    subst hj hk
    obtain ⟨hspace, hthere⟩ := behind_equals file hpairs hclean hequals
    rw [← hposition] at hthere
    obtain ⟨hclean', hend⟩ := place_lexeme file hpairs hspace hquoted
    have hquote := (place_marker file hpairs hspace (u := utf8 "\"") hquoted.raw_append
      rfl (by decide)).2
    rw [← hthere] at hend hquote
    rw [drop_behindSpace] at hquoted
    cases hadvance.symm.trans
      (advance_value h.stands_directive (equals_behind hequals) hquoted)
    rw [length_raw_value, ← Nat.add_assoc] at hclean' hend
    refine ⟨⟨hfollows, hclean', hend, fun o ho => ?_⟩, hkind, hvalue, hquote,
      fun _ => (h.opened _ rfl).2, fun _ hm => by cases hm⟩
    cases ho
    exact h.opened _ rfl

/-- A fault is an error at its place. -/
theorem Placed.fault {f : ScanFault} {n : Nat} (h : Placed file content c r)
    (hfault : Fault content c f n) : ∃ e, r.advance = .error e ∧ Fails file content f n e := by
  obtain ⟨e, hadvance, hf⟩ := h.toFollows.fault hfault
  refine ⟨e, hadvance, hf, ?_⟩
  have hclean := h.clean
  have hposition := h.position
  cases hfault with
  | unclosedTag hopen hend =>
    cases hadvance.symm.trans (advance_unclosedTag h.stands_text hopen hend)
    exact hposition
  | unclosedDirective hend =>
    rw [drop_behindSpace] at hend
    cases hadvance.symm.trans (advance_unclosedDirective h.stands_directive hend)
    exact (h.opened _ rfl).1
  | expectedEquals hj hvalue =>
    rw [hj, drop_behindSpace] at hvalue
    cases hadvance.symm.trans (advance_expectedEquals h.stands_directive hvalue)
    rw [hj, ← behind_place file hpairs hclean, ← hposition]
  | expectedValue hj hequals hk hother =>
    subst hj hk
    rw [drop_behindSpace] at hother
    cases hadvance.symm.trans
      (advance_expectedValue h.stands_directive (equals_behind hequals) hother)
    rw [← (behind_equals file hpairs hclean hequals).2, ← hposition]
  | invalid hj hne hnone =>
    rw [hj, drop_behindSpace] at hne hnone
    cases hadvance.symm.trans (advance_invalid h.stands_directive hne hnone)
    rw [hj, ← behind_place file hpairs hclean, ← hposition]
  | invalidValue hj hequals hk hne hnone =>
    subst hj hk
    rw [drop_behindSpace] at hne hnone
    cases hadvance.symm.trans
      (advance_invalidValue h.stands_directive (equals_behind hequals) hne hnone)
    rw [← (behind_equals file hpairs hclean hequals).2, ← hposition]

theorem simulation_placed :
    Simulation content (Placed file content) (Shows file content) (Fails file content) where
  live h := h.live
  step h hstep := h.step hpairs hstep
  fault h hfault := h.fault hpairs hfault
  done h := ⟨_, advance_eof h.stands_end, rfl, rfl, rfl, h.position, fun _ => h.position,
    fun n hn => by cases hn; exact h.position⟩

end Placed

/-! ## Runs and tags lie side by side -/

/-- The range of the source that a sight ends: a run of text, a code tag or a directive. -/
def Sight.range? (s : Sight) : Option (Nat × Nat) :=
  if s.kind = .eof then none else s.stop.map fun stop => (s.opened, stop)

/-- Ranges that are not empty and lie side by side, from one offset to another. -/
inductive Tiles : Nat → List (Nat × Nat) → Nat → Prop where
  | nil (n : Nat) : Tiles n [] n
  | cons {n m stop : Nat} {ranges : List (Nat × Nat)} (hlt : n < m) (htiles : Tiles m ranges stop) :
      Tiles n ((n, m) :: ranges) stop

/-- The offset that the range of a spot starts at: inside a directive, where that opened. -/
def Spot.base : Spot → Nat
  | ⟨n, .text _⟩ => n
  | ⟨_, .directive opened⟩ => opened

section Tiles

variable {content : Text} {c c' : Spot} {s : Sight}

/-- One step stays in its range or ends it. -/
theorem Step.range? (h : Step content c s c') :
    s.range? = none ∧ c'.base = c.base ∨
      s.range? = some (c.base, c'.base) ∧ c'.base = c'.offset := by
  cases h with
  | text => exact .inr ⟨rfl, rfl⟩
  | code =>
    refine .inr ⟨?_, rfl⟩
    rw [Sight.range?, if_neg (eventKind_ne_eof _)]
    rfl
  | openDirective => exact .inl ⟨rfl, rfl⟩
  | closeDirective => exact .inr ⟨rfl, rfl⟩
  | name => exact .inl ⟨rfl, rfl⟩
  | value => exact .inl ⟨rfl, rfl⟩

/-- **The ranges of a scan** lie side by side up to an offset of the text, which is its end if there
is no fault. -/
theorem Scan.tiles {ss : List Sight} {f : Option (ScanFault × Nat)} (h : Scan content c ss f)
    (hbase : c.base ≤ c.offset) (hoffset : c.offset ≤ content.length) :
    ∃ stop ≤ content.length, Tiles c.base (ss.filterMap Sight.range?) stop ∧
      (f = none → stop = content.length) := by
  induction h with
  | done after => exact ⟨_, Nat.le_refl _, .nil _, fun _ => rfl⟩
  | @fault c f n _ => exact ⟨c.base, Nat.le_trans hbase hoffset, .nil _, fun hf => by cases hf⟩
  | @step c c' s ss f hstep _ ih =>
    obtain ⟨hlt, hle⟩ := hstep.lt
    rcases hstep.range? with ⟨hrange, hsame⟩ | ⟨hrange, hends⟩
    · obtain ⟨stop, hstop, htiles, hend⟩ := ih (by omega) hle
      refine ⟨stop, hstop, ?_, hend⟩
      rwa [List.filterMap_cons_none hrange, ← hsame]
    · obtain ⟨stop, hstop, htiles, hend⟩ := ih (by omega) hle
      refine ⟨stop, hstop, ?_, hend⟩
      rw [List.filterMap_cons_some hrange]
      exact .cons (by omega) htiles

end Tiles

end Grammar

open Grammar in
/-- **Every location is right.** Let every CR of a text stand right before an LF. Then every scan of
the text is what the reader reports, one report for each sight: at the place of its value, with the
place its tag opened at and the place that its run or tag ends at; and its fault is the error the
reader stops with, at its place. The ranges of the runs and the tags lie side by side from the start
of the text on, and they cover it if the reader comes to its end. -/
theorem scan_places (file content : Text) (hpairs : content.Paired) :
    (∃ sights fault, Scan content .start sights fault) ∧
    ∀ sights fault, Scan content .start sights fault →
      List.Forall₂ (Shows file content) sights (scan file content).1 ∧
      FaultIs (Fails file content) fault (scan file content).2 ∧
      ∃ stop ≤ content.length, Tiles 0 (sights.filterMap Sight.range?) stop ∧
        ((scan file content).2 = none → stop = content.length) := by
  refine ⟨exists_scan (Nat.zero_le _), fun sights fault hscan => ?_⟩
  obtain ⟨hevents, hfault⟩ := (simulation_placed hpairs).run hscan (placed_ofFile file content)
  obtain ⟨stop, hstop, htiles, hend⟩ := hscan.tiles (Nat.le_refl _) (Nat.zero_le _)
  refine ⟨hevents, hfault, stop, hstop, htiles, fun hnone => hend ?_⟩
  unfold scan at hnone
  rw [hnone] at hfault
  cases fault with
  | none => rfl
  | some => exact hfault.elim

/-- A text of two lines, with a character of two bytes and a byte that is no character. -/
def placedSample : Text := utf8 "é<#@ a b=\"c\" #>\r\n" ++ [0xFF] ++ utf8 "<#= d #>"

open Grammar in
/-- Its runs and tags cover it, and are reported at their places. -/
theorem scan_places_sample :
    placedSample.Paired ∧ (scan (utf8 "t.tt") placedSample).2 = none ∧
      ∃ sights, Scan placedSample .start sights none ∧
        List.Forall₂ (Shows (utf8 "t.tt") placedSample) sights
          (scan (utf8 "t.tt") placedSample).1 ∧
        Tiles 0 (sights.filterMap Sight.range?) placedSample.length := by
  have hpairs : placedSample.Paired := by decide +kernel
  have hnone : (scan (utf8 "t.tt") placedSample).2 = none := by decide +kernel
  obtain ⟨⟨sights, fault, hscan⟩, hplaces⟩ := scan_places (utf8 "t.tt") placedSample hpairs
  obtain ⟨hevents, hfault, stop, -, htiles, hend⟩ := hplaces sights fault hscan
  rw [hend hnone] at htiles
  rw [hnone] at hfault
  cases fault with
  | none => exact ⟨hpairs, hnone, sights, hscan, hevents, htiles⟩
  | some => exact hfault.elim

end TextTemplate
