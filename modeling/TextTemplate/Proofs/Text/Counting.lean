/-
Counting characters piece by piece. A text can be cut where an ASCII byte stands on one side of the
cut without a character coming apart (`codes_append`). The two ways to count lines agree on a text
in which every CR stands right before an LF (`advance_eq_advanceLines`), so both can be moved on
from one such cut to the next.
-/
import TextTemplate.Location
import TextTemplate.Proofs.Text.Utf8

namespace TextTemplate

/-! ## Cuts between characters -/

namespace Rune

/-- A sequence of more than one byte has no ASCII in it. -/
theorem WellFormed.high {code : Nat} {bytes : Text} (h : WellFormed code bytes)
    (hlong : 1 < bytes.length) : ∀ b ∈ bytes, ¬b < 0x80 := by
  have htail : ∀ b : UInt8, isTail b = true → ¬b < 0x80 := by
    intro b hb
    simp only [isTail, Bool.and_eq_true, decide_eq_true_eq] at hb
    exact UInt8.not_lt.2 hb.1
  cases h with
  | one => simp at hlong
  | two => grind
  | three => grind
  | four => grind

end Rune

namespace Text

/-- Whether of the bytes on both sides of the cut between two texts one is ASCII. -/
def Joins (t u : Text) : Prop :=
  ∀ b c, t.getLast? = some b → u.head? = some c → b < 0x80 ∨ c < 0x80

theorem Joins.of_append {t u v : Text} (h : Joins (t ++ u) v) : Joins u v := by
  intro b c hb hc
  refine h b c ?_ hc
  rw [List.getLast?_append, hb, Option.some_or]

theorem Joins.left {t u v : Text} (h : Joins t (u ++ v)) : Joins t u := by
  intro b c hb hc
  refine h b c hb ?_
  rw [List.head?_append, hc, Option.some_or]

/-- A byte that starts no sequence starts none when a text is added, if no sequence can go across the
cut: there is ASCII in front of it, or no tail behind it. -/
theorem decode?_append_cut {b : UInt8} {s u : Text} (hd : Rune.decode? (b :: s) = none)
    (h : ∀ a c, (b :: s).getLast? = some a → u.head? = some c → a < 0x80 ∨ Rune.isTail c = false) :
    Rune.decode? (b :: (s ++ u)) = none := by
  rw [Option.eq_none_iff_forall_ne_some]
  rintro ⟨code, width⟩ hsome
  obtain ⟨bytes, rest, heq, -, hw⟩ := Rune.wellFormed_of_decode? hsome
  rw [← List.cons_append] at heq
  rcases List.append_eq_append_iff.1 heq with ⟨more, hbytes, hu⟩ | ⟨more, hs, -⟩
  · cases more with
    | nil =>
      rw [List.append_nil] at hbytes
      have hshort := Rune.decode?_append hw []
      rw [List.append_nil, hbytes, hd] at hshort
      cases hshort
    | cons c more =>
      have hlast := List.getLast?_eq_some_getLast (List.cons_ne_nil b s)
      rcases h _ c hlast (by rw [hu]; rfl) with hlow | hno
      · have hlong : 1 < bytes.length := by
          rw [hbytes, List.length_append, List.length_cons, List.length_cons]
          omega
        refine hw.high hlong _ ?_ hlow
        rw [hbytes]
        exact List.mem_append_left _ (List.getLast_mem _)
      · obtain ⟨a, tails, htails, -, htail⟩ := hw.exists_cons
        rw [htails, List.cons_append] at hbytes
        have hmem : c ∈ tails := by simp [(List.cons.inj hbytes).2]
        rw [htail c hmem] at hno
        cases hno
  · rw [hs, Rune.decode?_append hw] at hd
    cases hd

/-- So it is next to an ASCII byte. -/
theorem decode?_append_none {b : UInt8} {s u : Text} (hd : Rune.decode? (b :: s) = none)
    (h : Joins (b :: s) u) : Rune.decode? (b :: (s ++ u)) = none := by
  refine decode?_append_cut hd fun a c ha hc => (h a c ha hc).imp_right fun hlow => ?_
  simp only [Rune.isTail, Bool.and_eq_false_iff, decide_eq_false_iff_not]
  exact .inl (UInt8.not_le.2 hlow)

theorem codes_sequence {code : Nat} {bytes : Text} (h : Rune.WellFormed code bytes) (s : Text) :
    (bytes ++ s).codes = code :: s.codes := by
  rw [codes, runes_append h, List.map_cons]
  rfl

theorem codes_stray {b : UInt8} {s : Text} (h : Rune.decode? (b :: s) = none) :
    codes (b :: s) = Rune.replacement :: codes s := by
  rw [codes, runes_stray h, List.map_cons]
  rfl

theorem codes_ascii {b : UInt8} (h : b < 0x80) (s : Text) : codes (b :: s) = b.toNat :: codes s :=
  codes_sequence (.one h) s

/-- **A text can be cut** next to an ASCII byte. -/
theorem codes_append {t u : Text} (h : Joins t u) : (t ++ u).codes = t.codes ++ u.codes := by
  induction t using runes_induction with
  | nil => rfl
  | sequence code bytes s hw ih =>
    rw [List.append_assoc, codes_sequence hw, codes_sequence hw, ih h.of_append, List.cons_append]
  | stray b s hd ih =>
    have hjoins : Joins s u := Joins.of_append (t := [b]) h
    rw [List.cons_append, codes_stray (decode?_append_none hd h), codes_stray hd, ih hjoins,
      List.cons_append]

/-- Whether a text is made of printable ASCII. -/
def isPrintable (s : Text) : Bool := s.all fun b => 0x20 ≤ b && b < 0x80

theorem isPrintable_cons {b : UInt8} {s : Text} :
    isPrintable (b :: s) = true ↔ (0x20 ≤ b ∧ b < 0x80) ∧ isPrintable s = true := by
  simp [isPrintable]

/-! ## Line breaks -/

/-- Whether every CR stands right before an LF. -/
def Paired (s : Text) : Prop := ∀ i : Nat, s[i]? = some 0x0D → s[i + 1]? = some 0x0A

instance : DecidablePred Paired := fun s =>
  decidable_of_iff (∀ i < s.length, s[i]? = some 0x0D → s[i + 1]? = some 0x0A)
    ⟨fun h i hi => h i (List.getElem?_eq_some_iff.1 hi).1 hi, fun h i _ => h i⟩

theorem Paired.of_append {t s : Text} (h : Paired (t ++ s)) : Paired s := by
  intro i hi
  have hlf := h (t.length + i)
    (by rwa [List.getElem?_append_right (by omega), Nat.add_sub_cancel_left])
  rwa [List.getElem?_append_right (by omega), Nat.add_assoc, Nat.add_sub_cancel_left] at hlf

theorem Paired.drop {s : Text} (h : Paired s) (n : Nat) : Paired (s.drop n) :=
  Paired.of_append (t := s.take n) (by rwa [List.take_append_drop])

/-- A text that does not end in the middle of a line break. -/
theorem Paired.left {t s : Text} (h : Paired (t ++ s)) (hlast : t.getLast? ≠ some 0x0D) :
    Paired t := by
  intro i hi
  have hlt : i < t.length := (List.getElem?_eq_some_iff.1 hi).1
  have hlf := h i (by rwa [List.getElem?_append_left hlt])
  by_cases hend : i + 1 < t.length
  · rwa [List.getElem?_append_left hend] at hlf
  · refine absurd ?_ hlast
    rw [List.getLast?_eq_getElem?, show t.length - 1 = i by omega]
    exact hi

/-- The LF of a line break follows its CR. -/
theorem Paired.head? {t s : Text} (h : Paired (t ++ s)) (hlast : t.getLast? = some 0x0D) :
    s.head? = some 0x0A := by
  have hpos : 0 < t.length := List.length_pos_of_mem (List.mem_of_getLast? hlast)
  rw [List.getLast?_eq_getElem?] at hlast
  have hlf := h (t.length - 1) (by rwa [List.getElem?_append_left (by omega)])
  rw [List.getElem?_append_right (by omega), show t.length - 1 + 1 - t.length = 0 by omega] at hlf
  rwa [List.head?_eq_getElem?]

end Text

/-! ## Counting -/

namespace Location

open Text (Joins Paired)

theorem advanceLines_append {t u : Text} (h : Joins t u) (l : Location) :
    l.advanceLines (t ++ u) = (l.advanceLines t).advanceLines u := by
  rw [advanceLines, Text.codes_append h, List.foldl_append]
  rfl

/-- **The two ways to count agree** where every CR stands right before an LF. -/
theorem advance_eq_advanceLines {s : Text} (h : Paired s) (l : Location) :
    l.advance s = l.advanceLines s := by
  induction s using Text.runes_induction generalizing l with
  | nil => rfl
  | sequence code bytes s hw ih =>
    have ih := ih h.of_append
    unfold advance advanceLines at ih ⊢
    rw [Text.codes_sequence hw, List.foldl_cons]
    by_cases hcr : code = 13
    · -- The LF behind the CR starts the line in both ways.
      subst hcr
      have hbytes : bytes = [0x0D] := hw.eq_encode
      have hlf : s.head? = some 0x0A := by
        rw [hbytes] at h
        exact h.head? rfl
      obtain ⟨t, rfl⟩ := List.head?_eq_some_iff.1 hlf
      have hrest := ih l
      rw [Text.codes_ascii (by decide)] at hrest ⊢
      exact hrest
    · rw [advanceCodes, ih]
      · simp [hcr]
      · exact fun _ hcode _ => hcr hcode
  | stray b s hd ih =>
    have ih := ih (Paired.of_append (t := [b]) h)
    unfold advance advanceLines at ih ⊢
    rw [Text.codes_stray hd, List.foldl_cons, advanceCodes, ih]
    · rfl
    · exact fun _ hcode _ => absurd hcode (by decide)

theorem addCols_addCols (l : Location) (m n : Int64) :
    (l.addCols m).addCols n = l.addCols (m + n) := by
  simp [addCols, Int64.add_assoc]

/-- A character of printable ASCII is one column wide. -/
theorem advanceLines_printable {u : Text} (hu : u.isPrintable = true) (l : Location) :
    l.advanceLines u = l.addCols (Int64.ofNat u.length) := by
  induction u generalizing l with
  | nil => simp [advanceLines, addCols, Text.codes, Text.runes, Text.runesGo]
  | cons b u ih =>
    obtain ⟨⟨hlow, hhigh⟩, hu⟩ := Text.isPrintable_cons.1 hu
    have hlf : b.toNat ≠ 10 := by
      have : 0x20 ≤ b.toNat := hlow
      omega
    have hrest := ih hu l.addCol
    unfold advanceLines at hrest ⊢
    rw [Text.codes_ascii hhigh, List.foldl_cons, if_neg hlf, hrest, addCol, addCols_addCols,
      List.length_cons, Nat.add_comm, Int64.ofNat_add]
    rfl

end Location
end TextTemplate
