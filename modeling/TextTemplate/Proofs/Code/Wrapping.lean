/-
Where a regular literal is continued on a new line. The units of a text are numbered from zero, each
cluster takes some of them in a row (`unitsBefore`), and the literal is broken behind every cluster
that takes a positive multiple of the line length (`HoldsBreak`), the last cluster excepted.

`breaks_chain` is the rule for the lines of a chain, along its recursion, and `units_chain` bounds
their widths: a line starts behind one multiple, and the cluster that takes the next one ends it. The
main statement is `quoteEscapedBy_wraps`.
-/
import Mathlib.Algebra.Ring.Nat
import TextTemplate.Proofs.Code.LiteralForm

namespace TextTemplate

/-! ## Units -/

theorem Text.units_eq (s : Text) : s.units = (s.runes.map Rune.units).sum := by
  rw [units, List.sum, List.foldr_map]

/-- The units of a text are those of its parts. -/
theorem Text.CutsInto.units {s : Text} {cs : List Text} (h : s.CutsInto cs) :
    s.units = (cs.map Text.units).sum := by
  have hparts (cs : List Text) :
      ((cs.flatMap runes).map Rune.units).sum = (cs.map Text.units).sum := by
    induction cs with
    | nil => rfl
    | cons c cs ih => simp [ih, units_eq]
  rw [units_eq, ← h, hparts]

theorem Text.units_pos {s : Text} (h : s ≠ []) : 0 < s.units := by
  obtain ⟨b, t, rfl⟩ := List.exists_cons_of_ne_nil h
  have hfirst (r : Rune) : 0 < r.units := by
    unfold Rune.units
    split <;> decide
  rw [units_eq, runes_cons, List.map_cons, List.sum_cons]
  exact Nat.add_pos_left (hfirst _) _

namespace Literal

variable {c : Text} {cs : List Text} {total unit : Nat}

/-- The number of units in front of a cluster. -/
def unitsBefore (cs : List Text) (i : Nat) : Nat := ((cs.take i).map Text.units).sum

/-- Whether a positive multiple of the line length is among the units of a cluster, the units of the
clusters being numbered from `unit`. -/
def HoldsBreak (unit : Nat) (cs : List Text) (i : Nat) : Prop :=
  ∃ k, 0 < k ∧ unit + unitsBefore cs i ≤ k * lineLength ∧
    k * lineLength < unit + unitsBefore cs (i + 1)

/-- Whether a line ends behind a cluster and another line follows. -/
def BreaksBehind (lines : List (List Text)) (i : Nat) : Prop :=
  ∃ before after, before ++ after = lines ∧ after ≠ [] ∧ before.flatten.length = i + 1

theorem holdsBreak_zero (unit : Nat) (c : Text) (cs : List Text) :
    HoldsBreak unit (c :: cs) 0 ↔
      ∃ k, 0 < k ∧ unit ≤ k * lineLength ∧ k * lineLength < unit + c.units := by
  simp [HoldsBreak, unitsBefore]

theorem holdsBreak_succ (unit : Nat) (c : Text) (cs : List Text) (i : Nat) :
    HoldsBreak unit (c :: cs) (i + 1) ↔ HoldsBreak (unit + c.units) cs i := by
  simp [HoldsBreak, unitsBefore, Nat.add_assoc]

theorem crossesBreak_iff (first last : Nat) :
    crossesBreak first last = true ↔
      ∃ k, 0 < k ∧ first ≤ k * lineLength ∧ k * lineLength ≤ last := by
  rw [crossesBreak, Bool.and_eq_true, decide_eq_true_iff, decide_eq_true_iff]
  simp only [lineLength]
  constructor
  · rintro ⟨-, hle⟩
    exact ⟨(max first 1 + 120 - 1) / 120, by omega, by omega, hle⟩
  · rintro ⟨k, hk, hfirst, hlast⟩
    omega

/-! ## Breaks -/

/-- The literal is broken behind a cluster exactly when more clusters follow and the units of the
cluster hold a break. -/
theorem breaksHere_iff (htotal : total = unit + (((c :: cs).map Text.units).sum))
    (hpos : ∀ d ∈ c :: cs, 0 < d.units) :
    (crossesBreak unit (unit + c.units - 1) && unit + c.units != total) = true ↔
      cs ≠ [] ∧ HoldsBreak unit (c :: cs) 0 := by
  have hc := hpos c List.mem_cons_self
  have hmore : unit + c.units ≠ total ↔ cs ≠ [] := by
    rw [htotal, List.map_cons, List.sum_cons]
    cases cs with
    | nil => simp
    | cons d ds =>
      have hd := hpos d (by simp)
      simp
      omega
  rw [Bool.and_eq_true, bne_iff_ne, crossesBreak_iff, hmore, and_comm, holdsBreak_zero]
  refine and_congr_right fun _ => exists_congr fun k => and_congr_right fun _ =>
    and_congr_right fun _ => ?_
  omega

theorem breaksBehind_single (line : List Text) (i : Nat) : ¬BreaksBehind [line] i := by
  rintro ⟨before, after, happend, hafter, hlength⟩
  cases before with
  | nil => simp at hlength
  | cons l before =>
    have hnil := (List.append_eq_nil_iff.1 (List.cons.inj happend).2).2
    exact hafter hnil

/-- A line of one cluster in front of others. -/
theorem breaksBehind_cons (c : Text) {lines : List (List Text)} (hlines : lines ≠ []) (i : Nat) :
    BreaksBehind ([c] :: lines) i ↔ i = 0 ∨ ∃ j, i = j + 1 ∧ BreaksBehind lines j := by
  constructor
  · rintro ⟨before, after, happend, hafter, hlength⟩
    cases before with
    | nil => simp at hlength
    | cons l before =>
      obtain ⟨rfl, hrest⟩ := List.cons.inj happend
      cases i with
      | zero => exact .inl rfl
      | succ j => exact .inr ⟨j, rfl, before, after, hrest, hafter, by simpa using hlength⟩
  · rintro (rfl | ⟨j, rfl, before, after, rfl, hafter, hlength⟩)
    · exact ⟨[[c]], lines, rfl, hlines, rfl⟩
    · exact ⟨[c] :: before, after, rfl, hafter, by simp [hlength]⟩

/-- One more cluster at the start of the first line. -/
theorem breaksBehind_grow (c : Text) {line : List Text} {lines : List (List Text)}
    (hline : line = [] → lines = []) (i : Nat) :
    BreaksBehind ((c :: line) :: lines) i ↔ ∃ j, i = j + 1 ∧ BreaksBehind (line :: lines) j := by
  constructor
  · rintro ⟨before, after, happend, hafter, hlength⟩
    cases before with
    | nil => simp at hlength
    | cons l before =>
      obtain ⟨rfl, rfl⟩ := List.cons.inj happend
      have hne : line ≠ [] := fun h => hafter (List.append_eq_nil_iff.1 (hline h)).2
      have hpos := List.length_pos_iff.2 hne
      rw [List.flatten_cons, List.cons_append, List.length_cons, List.length_append] at hlength
      refine ⟨i - 1, by omega, line :: before, after, rfl, hafter, ?_⟩
      rw [List.flatten_cons, List.length_append]
      omega
  · rintro ⟨j, rfl, before, after, happend, hafter, hlength⟩
    cases before with
    | nil => simp at hlength
    | cons l before =>
      obtain ⟨rfl, rfl⟩ := List.cons.inj happend
      rw [List.flatten_cons] at hlength
      exact ⟨(c :: l) :: before, after, rfl, hafter, by simp [hlength]⟩

/-- The first line is empty only when there is no cluster at all. -/
theorem chain_fst_eq_nil (h : (chain total unit cs).1 = []) : cs = [] := by
  cases cs with
  | nil => rfl
  | cons c cs =>
    rw [chain] at h
    dsimp only at h
    split at h
    · cases h
    · cases h

/-- **Where a chain breaks**: behind each cluster that holds a break, unless it is the last. -/
theorem breaks_chain (htotal : total = unit + (cs.map Text.units).sum)
    (hpos : ∀ c ∈ cs, 0 < c.units) (i : Nat) :
    BreaksBehind ((chain total unit cs).1 :: (chain total unit cs).2) i ↔
      i + 1 < cs.length ∧ HoldsBreak unit cs i := by
  induction cs generalizing unit i with
  | nil => simp [chain, breaksBehind_single]
  | cons c cs ih =>
    have hhere := breaksHere_iff htotal hpos
    have hnext : total = unit + c.units + (cs.map Text.units).sum := by
      rw [htotal, List.map_cons, List.sum_cons, Nat.add_assoc]
    have hlater := ih hnext fun d hd => hpos d (List.mem_cons_of_mem _ hd)
    rw [chain]
    dsimp only
    split
    · next hbreak =>
      obtain ⟨hne, hholds⟩ := hhere.1 hbreak
      rw [breaksBehind_cons c (List.cons_ne_nil _ _)]
      cases i with
      | zero => simp [hholds, List.length_pos_iff.2 hne]
      | succ j => simp [hlater, holdsBreak_succ]
    · next hbreak =>
      rw [breaksBehind_grow c fun hnil => by rw [chain_fst_eq_nil hnil, chain]]
      cases i with
      | zero =>
        have hnone : ¬(cs ≠ [] ∧ HoldsBreak unit (c :: cs) 0) := mt hhere.2 hbreak
        simpa [List.length_pos_iff] using hnone
      | succ j => simp [hlater, holdsBreak_succ]

/-- Every line but perhaps the first holds a cluster. -/
theorem ne_nil_of_mem_chain (htotal : total = unit + (cs.map Text.units).sum)
    (hpos : ∀ c ∈ cs, 0 < c.units) : ∀ line ∈ (chain total unit cs).2, line ≠ [] := by
  induction cs generalizing unit with
  | nil => simp [chain]
  | cons c cs ih =>
    have hhere := breaksHere_iff htotal hpos
    have hnext : total = unit + c.units + (cs.map Text.units).sum := by
      rw [htotal, List.map_cons, List.sum_cons, Nat.add_assoc]
    have hlater := ih hnext fun d hd => hpos d (List.mem_cons_of_mem _ hd)
    rw [chain]
    dsimp only
    split
    · next hbreak => exact List.forall_mem_cons.2 ⟨mt chain_fst_eq_nil (hhere.1 hbreak).1, hlater⟩
    · exact hlater

/-! ## Widths -/

/-- **How wide the lines are**: the first reaches at most over the cluster that takes the next
multiple of the line length, and so does each line behind it. -/
theorem units_chain {width : Nat} (htotal : total = unit + (cs.map Text.units).sum)
    (hpos : ∀ c ∈ cs, 0 < c.units) (hwidth : ∀ c ∈ cs, c.units ≤ width) :
    (∀ k, 0 < k → unit ≤ k * lineLength →
      unit + ((chain total unit cs).1.map Text.units).sum ≤ k * lineLength + width) ∧
    ∀ line ∈ (chain total unit cs).2, (line.map Text.units).sum ≤ lineLength + width := by
  induction cs generalizing unit with
  | nil =>
    refine ⟨fun k _ hle => ?_, by simp [chain]⟩
    simpa [chain] using Nat.le_add_right_of_le hle
  | cons c cs ih =>
    have hhere := breaksHere_iff htotal hpos
    have hnext : total = unit + c.units + (cs.map Text.units).sum := by
      rw [htotal, List.map_cons, List.sum_cons, Nat.add_assoc]
    obtain ⟨hfirst, hlater⟩ := ih hnext (fun d hd => hpos d (List.mem_cons_of_mem _ hd))
      fun d hd => hwidth d (List.mem_cons_of_mem _ hd)
    have hc := hwidth c List.mem_cons_self
    rw [chain]
    dsimp only
    split
    · refine ⟨fun k _ hle => ?_, List.forall_mem_cons.2 ⟨?_, hlater⟩⟩
      · simp only [List.map_cons, List.map_nil, List.sum_cons, List.sum_nil]
        omega
      · -- the next multiple is at most a line length away
        have hline := hfirst ((unit + c.units) / lineLength + 1) (Nat.succ_pos _)
          (by simp only [lineLength]; omega)
        simp only [lineLength] at hline ⊢
        omega
    · next hbreak =>
      refine ⟨fun k hk hle => ?_, hlater⟩
      rw [List.map_cons, List.sum_cons, ← Nat.add_assoc]
      by_cases hholds : unit + c.units ≤ k * lineLength
      · exact hfirst k hk hholds
      · -- The cluster holds the multiple, so it is the last one.
        have hnil : cs = [] := by
          by_contra hne
          have hhold := (holdsBreak_zero unit c cs).2 ⟨k, hk, hle, by omega⟩
          exact hbreak (hhere.2 ⟨hne, hhold⟩)
        subst hnil
        simp only [chain, List.map_nil, List.sum_nil]
        omega

/-! ## The literal of a text -/

/-- Lines, each a literal of its own, with a plus sign, a newline and the indent between two. -/
def written (newline indent : Text) (lines : List (List Text)) : Text :=
  Text.join (utf8 " +" ++ newline ++ indent) (lines.map quoteLine)

theorem quoteLine_moreLines (newline indent : Text) (line : List Text) (lines : List (List Text)) :
    quoteLine line ++ moreLines newline indent lines = written newline indent (line :: lines) := by
  induction lines generalizing line with
  | nil => simp [written, moreLines, Text.join]
  | cons next lines ih =>
    have hmore : moreLines newline indent (next :: lines) =
        utf8 " +" ++ newline ++ indent ++ (quoteLine next ++ moreLines newline indent lines) := by
      simp [moreLines]
    rw [hmore, ih]
    simp [written, Text.join]

/-- Whether a literal of a text that is cut into clusters is wrapped as it should be, in `lines`. -/
structure Wraps (newline indent s : Text) (cs : List Text) (lines : List (List Text)) (l : Literal) :
    Prop where
  /-- Every cluster stands whole in one line. -/
  clusters : lines.flatten = cs
  /-- Every character, so every pair of surrogates, stands whole in one line. -/
  characters : s.CutsInto (lines.map List.flatten)
  /-- The breaks are behind the clusters that hold one, the last cluster excepted. -/
  breaks (i : Nat) : BreaksBehind lines i ↔ i + 1 < cs.length ∧ HoldsBreak 0 cs i
  filled : s ≠ [] → ∀ line ∈ lines, line.flatten ≠ []
  width (widest : Nat) : (∀ c ∈ cs, c.units ≤ widest) →
    ∀ line ∈ lines, Text.units line.flatten ≤ lineLength + widest
  whole : (∀ i, ¬BreaksBehind lines i) → l = ⟨written newline indent lines, false⟩
  broken (i : Nat) : BreaksBehind lines i →
    l = ⟨utf8 "(" ++ written newline indent lines ++ utf8 ")", true⟩

/-- A line in front of others ends in a break. -/
theorem exists_breaksBehind (hcs : cs ≠ []) (hmore : (chain total unit cs).2 ≠ []) :
    ∃ i, BreaksBehind ((chain total unit cs).1 :: (chain total unit cs).2) i := by
  have hpos : 0 < (chain total unit cs).1.length :=
    List.length_pos_iff.2 (mt chain_fst_eq_nil hcs)
  refine ⟨(chain total unit cs).1.length - 1, [(chain total unit cs).1], _, rfl, hmore, ?_⟩
  simp
  omega

theorem wraps_ofClusters (newline indent : Text) {s : Text} (hcuts : s.CutsInto cs)
    (hne : ∀ c ∈ cs, c ≠ []) :
    Wraps newline indent s cs (linesOf s.units cs) (ofClusters newline indent s.units cs) := by
  have htotal : s.units = 0 + (cs.map Text.units).sum := by rw [hcuts.units, Nat.zero_add]
  have hpos : ∀ c ∈ cs, 0 < c.units := fun c hc => Text.units_pos (hne c hc)
  have hflatten : (linesOf s.units cs).flatten = cs := chain_flatten s.units 0 cs
  have hlines := ofClusters_eq newline indent s.units cs
  have hwritten := quoteLine_moreLines newline indent (chain s.units 0 cs).1 (chain s.units 0 cs).2
  dsimp only at hlines
  rw [hwritten] at hlines
  have hlinesCut : s.CutsInto (linesOf s.units cs).flatten := by rwa [hflatten]
  refine ⟨hflatten, Text.CutsInto.map_flatten hlinesCut, breaks_chain htotal hpos,
    fun hs line hline => ?_, fun widest hwidest line hline => ?_, fun hwhole => ?_,
    fun i hbreak => ?_⟩
  · have hcs : cs ≠ [] := by
      rintro rfl
      exact hs hcuts.flatten.symm
    have hfilled : line ≠ [] := by
      rcases List.mem_cons.1 hline with rfl | hline
      · exact mt chain_fst_eq_nil hcs
      · exact ne_nil_of_mem_chain htotal hpos line hline
    obtain ⟨c, hc⟩ := List.exists_mem_of_ne_nil line hfilled
    rw [Ne, List.flatten_eq_nil_iff]
    exact fun hnil => hne c (mem_of_mem_chain _ _ _ line hline c hc) (hnil c hc)
  · obtain ⟨hfirst, hlater⟩ := units_chain htotal hpos hwidest
    rw [(Text.CutsInto.line hlinesCut line hline).units]
    rcases List.mem_cons.1 hline with rfl | hline
    · simpa using hfirst 1 Nat.one_pos (Nat.zero_le _)
    · exact hlater line hline
  · have hmore : (chain s.units 0 cs).2 = [] := by
      by_contra hmore
      have hcs : cs ≠ [] := by
        rintro rfl
        exact hmore rfl
      obtain ⟨i, hbreak⟩ := exists_breaksBehind hcs hmore
      exact hwhole i hbreak
    rw [hlines, if_pos (by rw [hmore]; rfl)]
    rfl
  · have hmore : (chain s.units 0 cs).2 ≠ [] := by
      intro hmore
      rw [linesOf, hmore] at hbreak
      exact breaksBehind_single _ i hbreak
    rw [hlines, if_neg (mt List.isEmpty_iff.1 hmore)]
    rfl

end Literal

namespace Writer

variable {segment : Text → List Text} {s : Text}

/-- **Wrapping breaks exactly where it should.** However a text is cut into clusters without a
character torn apart, its regular literal is broken behind the clusters that hold a positive multiple
of the line length, and behind no other. -/
theorem quoteEscapedBy_wraps (w : Writer) (hcuts : s.CutsInto (segment s))
    (hne : ∀ c ∈ segment s, c ≠ []) :
    ∃ lines, Literal.Wraps w.layout.newline w.indent s (segment s) lines
      (w.quoteEscapedBy segment s) :=
  ⟨_, Literal.wraps_ofClusters w.layout.newline w.indent hcuts hne⟩

/-- The character of two units at the break of the wide text ends the first line. -/
theorem quoteEscapedBy_wraps_wide :
    wideText.CutsInto wideText.clusters ∧ (∀ c ∈ wideText.clusters, c ≠ []) ∧
      ∃ lines, Literal.Wraps (utf8 "\r\n") (utf8 "\t") wideText wideText.clusters lines
          (tabbed.quoteEscaped wideText) ∧
        Literal.BreaksBehind lines 119 ∧ wideText.clusters[119]? = some (utf8 "😀") := by
  have hcuts : wideText.CutsInto wideText.clusters := by decide +kernel
  have hne : ∀ c ∈ wideText.clusters, c ≠ [] := by decide +kernel
  obtain ⟨lines, hwraps⟩ := quoteEscapedBy_wraps tabbed hcuts hne
  refine ⟨hcuts, hne, lines, hwraps, (hwraps.breaks 119).2 ⟨by decide +kernel, 1, ?_⟩,
    by decide +kernel⟩
  decide +kernel

end Writer
end TextTemplate
