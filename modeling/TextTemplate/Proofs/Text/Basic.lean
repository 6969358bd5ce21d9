/-
Facts about the operations on texts that hold of any bytes: replacing a pattern, cutting a text into
pieces, the bytes at its start and at its end that satisfy a condition.
-/
import TextTemplate.Text.Basic

namespace TextTemplate
namespace Text

/-! ## Replacing -/

theorem replace_nil (old new : Text) : replace old new [] = [] := rfl

theorem replace_pair (a b : UInt8) (new s : Text) :
    replace [a, b] new (a :: b :: s) = new ++ replace [a, b] new s := by
  simp [replace, replaceGo, List.isPrefixOf]

theorem replace_cons {old new s : Text} {c : UInt8} (h : old.isPrefixOf (c :: s) = false) :
    replace old new (c :: s) = c :: replace old new s := by
  simp [replace, replaceGo, h]

theorem replace_one (a : UInt8) (new s : Text) :
    replace [a] new (a :: s) = new ++ replace [a] new s := by
  simp [replace, replaceGo, List.isPrefixOf]

theorem replace_other {a b : UInt8} (new s : Text) (h : b ≠ a) :
    replace [a] new (b :: s) = b :: replace [a] new s := by
  apply replace_cons
  simp [List.isPrefixOf, h.symm]

/-! ## Pieces -/

theorem pieces_ne_nil (sep : UInt8) (s : Text) : pieces sep s ≠ [] := by
  cases s with
  | nil => exact List.cons_ne_nil _ _
  | cons b s =>
    rw [pieces]
    split
    · exact List.cons_ne_nil _ _
    · split
      · exact List.cons_ne_nil _ _
      · exact List.cons_ne_nil _ _

theorem sep_not_mem_pieces (sep : UInt8) (s : Text) : ∀ p ∈ pieces sep s, sep ∉ p := by
  induction s with
  | nil => simp [pieces]
  | cons b s ih =>
    rw [pieces]
    split
    · intro p hp
      rcases List.mem_cons.1 hp with rfl | hp
      · exact List.not_mem_nil
      · exact ih p hp
    · next hb =>
      split
      · next hnil => exact absurd hnil (pieces_ne_nil sep s)
      · next q qs hq =>
        rw [hq] at ih
        intro p hp hsep
        rcases List.mem_cons.1 hp with rfl | hp
        · rcases List.mem_cons.1 hsep with rfl | hsep
          · exact hb rfl
          · exact ih q List.mem_cons_self hsep
        · exact ih p (List.mem_cons_of_mem _ hp) hsep

/-- The pieces with the separator between them are the text. -/
theorem join_pieces (sep : UInt8) (s : Text) : join [sep] (pieces sep s) = s := by
  induction s with
  | nil => rfl
  | cons b s ih =>
    obtain ⟨p, ps, hp⟩ := List.exists_cons_of_ne_nil (pieces_ne_nil sep s)
    rw [hp] at ih
    rw [pieces, hp]
    by_cases hb : b = sep
    · rw [if_pos hb, hb, ← ih]
      simp [join]
    · rw [if_neg hb, ← ih]
      cases ps with
      | nil => simp [join]
      | cons q qs => simp [join]

/-! ## The first separator -/

section Cut

variable {sep : UInt8} {s u v : Text}

theorem cut?_eq_none_iff : cut? sep s = none ↔ sep ∉ s := by
  induction s with
  | nil => simp [cut?]
  | cons b s ih =>
    rw [cut?]
    by_cases hb : b = sep
    · simp [hb]
    · simp [hb, Ne.symm hb, ih]

theorem cut?_append_cons (h : sep ∉ u) (v : Text) : cut? sep (u ++ sep :: v) = some (u, v) := by
  induction u with
  | nil => simp [cut?]
  | cons b u ih =>
    obtain ⟨hb, hu⟩ : sep ≠ b ∧ sep ∉ u := by simpa using h
    simp [cut?, Ne.symm hb, ih hu]

/-- The first separator is the one without another before it. -/
theorem cut?_eq_some_iff : cut? sep s = some (u, v) ↔ sep ∉ u ∧ s = u ++ sep :: v := by
  constructor
  · intro h
    induction s generalizing u with
    | nil => cases h
    | cons b s ih =>
      rw [cut?] at h
      by_cases hb : b = sep
      · rw [if_pos hb] at h
        cases h
        exact ⟨List.not_mem_nil, by rw [hb]; rfl⟩
      · rw [if_neg hb] at h
        obtain ⟨⟨u', v'⟩, hcut, heq⟩ := Option.map_eq_some_iff.1 h
        cases heq
        obtain ⟨hsep, rfl⟩ := ih hcut
        exact ⟨by simp [Ne.symm hb, hsep], rfl⟩
  · rintro ⟨hsep, rfl⟩
    exact cut?_append_cons hsep v

end Cut

/-! ## The start and the end of a text -/

/-- A byte that stays keeps the text from being dropped as a whole. -/
theorem dropEndWhile_cons_ne_nil {p : UInt8 → Bool} {b : UInt8} (hb : p b = false) (s : Text) :
    dropEndWhile p (b :: s) ≠ [] := by
  rw [dropEndWhile, List.reverse_cons, List.dropWhile_append]
  split
  · simp [hb]
  · simp

theorem dropEndWhile_append {p : UInt8 → Bool} {b : UInt8} {t : Text} (s : Text)
    (hb : p b = false) (ht : ∀ c ∈ t, p c = true) : dropEndWhile p (s ++ [b] ++ t) = s ++ [b] := by
  have hall : ∀ c ∈ t.reverse, p c = true := fun c hc => ht c (List.mem_reverse.1 hc)
  simp only [dropEndWhile, List.reverse_append]
  rw [List.dropWhile_append_of_pos hall]
  simp [hb]

/-- What stands in front of a byte that stays is untouched. -/
theorem dropEndWhile_append_of_mem {p : UInt8 → Bool} {b : UInt8} {t : Text} (s : Text)
    (hb : p b = false) (ht : b ∈ t) : dropEndWhile p (s ++ t) = s ++ dropEndWhile p t := by
  have hne : (t.reverse.dropWhile p).isEmpty = false := by
    rw [List.isEmpty_eq_false_iff]
    intro hnil
    have hwhole := List.takeWhile_append_dropWhile (p := p) (l := t.reverse)
    rw [hnil, List.append_nil] at hwhole
    have hall := List.all_takeWhile (p := p) (l := t.reverse)
    rw [hwhole, List.all_eq_true] at hall
    exact absurd (hall b (List.mem_reverse.2 ht)) (by simp [hb])
  simp [dropEndWhile, List.dropWhile_append, hne]

theorem isPrefixOf_takeWhile {p : UInt8 → Bool} {ts : Text} (h : ∀ b ∈ ts, p b = true) (s : Text) :
    ts.isPrefixOf (s.takeWhile p) = ts.isPrefixOf s := by
  induction ts generalizing s with
  | nil => rfl
  | cons t ts ih =>
    cases s with
    | nil => rfl
    | cons b s =>
      have ht := h t List.mem_cons_self
      have ih := ih (fun c hc => h c (List.mem_cons_of_mem _ hc)) s
      cases hb : p b with
      | true => simp only [List.takeWhile, hb, List.isPrefixOf, ih]
      | false =>
        have htb : (t == b) = false := by
          rw [beq_eq_false_iff_ne]
          rintro rfl
          rw [ht] at hb
          cases hb
        simp only [List.takeWhile, hb, List.isPrefixOf, htb, Bool.false_and]

theorem takeWhile_append_congr {p : UInt8 → Bool} {s t : Text} (r : Text)
    (h : s.takeWhile p = t.takeWhile p) : (r ++ s).takeWhile p = (r ++ t).takeWhile p := by
  induction r with
  | nil => exact h
  | cons b r ih => simp [List.takeWhile_cons, ih]

end Text
end TextTemplate
