/-
Well-formed sequences, and how a text is made of them. `WellFormed` gives the sequences of one to
four bytes with their code points; `decode?` reads exactly these (`decode?_append`,
`wellFormed_of_decode?`). So a text is a well-formed sequence, or a byte that starts none, with a
text behind it, and `runes_induction` proves a property of all texts along these steps.

Clusters are cut by rules of their own. `flatten_clusters` holds of every text: nothing is lost.
That a cluster starts where a character starts is true of UTF-8 (`clusters_lead`) and can fail
elsewhere.
-/
import TextTemplate.Text.Cluster

namespace TextTemplate

/-! ## Well-formed sequences -/

namespace Rune

/-- The code points and their UTF-8 sequences, by length. -/
inductive WellFormed : Nat → Text → Prop where
  | one {a : UInt8} : a < 0x80 → WellFormed a.toNat [a]
  | two {a b : UInt8} : 0xC2 ≤ a → a < 0xE0 → isTail b →
      WellFormed (a.toNat % 32 * 64 + tailBits b) [a, b]
  | three {a b c : UInt8} : 0xE0 ≤ a → a < 0xF0 → isTail b → isTail c →
      0x800 ≤ a.toNat % 16 * 4096 + tailBits b * 64 + tailBits c →
      ¬(0xD800 ≤ a.toNat % 16 * 4096 + tailBits b * 64 + tailBits c ∧
        a.toNat % 16 * 4096 + tailBits b * 64 + tailBits c ≤ 0xDFFF) →
      WellFormed (a.toNat % 16 * 4096 + tailBits b * 64 + tailBits c) [a, b, c]
  | four {a b c d : UInt8} : 0xF0 ≤ a → a < 0xF5 → isTail b → isTail c → isTail d →
      0x10000 ≤ a.toNat % 8 * 262144 + tailBits b * 4096 + tailBits c * 64 + tailBits d →
      a.toNat % 8 * 262144 + tailBits b * 4096 + tailBits c * 64 + tailBits d ≤ 0x10FFFF →
      WellFormed (a.toNat % 8 * 262144 + tailBits b * 4096 + tailBits c * 64 + tailBits d)
        [a, b, c, d]

theorem decode?_append {code : Nat} {bytes : Text} (h : WellFormed code bytes) (s : Text) :
    decode? (bytes ++ s) = some (code, bytes.length) := by
  cases h with
  | one ha => simp [decode?, ha]
  | two ha ha' hb =>
    simp [decode?]
    grind
  | three ha ha' hb hc hlow hsur => simp [decode?]; grind
  | four ha ha' hb hc hd hlow hhigh => simp [decode?]; grind

/-- A tail is its payload above 0x80. -/
theorem toNat_of_isTail {b : UInt8} (h : isTail b = true) :
    b.toNat = 0x80 + tailBits b ∧ tailBits b < 64 := by
  have hb : 0x80 ≤ b.toNat ∧ b.toNat ≤ 0xBF := by
    rw [isTail, Bool.and_eq_true, decide_eq_true_eq, decide_eq_true_eq] at h
    exact h
  unfold tailBits
  omega

/-- What is read from the start of a text is a well-formed sequence there. -/
theorem wellFormed_of_decode? {s : Text} {code width : Nat} (h : decode? s = some (code, width)) :
    ∃ bytes rest, s = bytes ++ rest ∧ bytes.length = width ∧ WellFormed code bytes := by
  unfold decode? at h
  split at h
  · cases h
  · next a s =>
    split at h
    · next ha =>
      cases h
      exact ⟨[a], s, rfl, rfl, .one ha⟩
    split at h
    · cases h
    split at h
    · split at h
      · next b t =>
        split at h
        · next hb =>
          cases h
          exact ⟨[a, b], t, rfl, rfl, .two (by grind) (by grind) hb⟩
        · cases h
      · cases h
    split at h
    · split at h
      · next b c t =>
        simp only [Bool.and_eq_true, decide_eq_true_eq, Bool.not_eq_true', Bool.and_eq_false_iff,
          decide_eq_false_iff_not] at h
        split at h
        · next hbc =>
          cases h
          exact ⟨[a, b, c], t, rfl, rfl,
            .three (by grind) (by grind) hbc.1.1.1 hbc.1.1.2 hbc.1.2 (by omega)⟩
        · cases h
      · cases h
    split at h
    · split at h
      · next b c d t =>
        simp only [Bool.and_eq_true, decide_eq_true_eq] at h
        split at h
        · next hbcd =>
          cases h
          exact ⟨[a, b, c, d], t, rfl, rfl, .four (by grind) (by grind) hbcd.1.1.1.1 hbcd.1.1.1.2
            hbcd.1.1.2 hbcd.1.2 hbcd.2⟩
        · cases h
      · cases h
    · cases h

/-- A sequence is a byte that is no tail, and tails. -/
theorem WellFormed.exists_cons {code : Nat} {bytes : Text} (h : WellFormed code bytes) :
    ∃ a tails, bytes = a :: tails ∧ isTail a = false ∧ ∀ b ∈ tails, isTail b = true := by
  cases h with
  | one ha => exact ⟨_, _, rfl, by simp [isTail]; grind, by simp⟩
  | two ha ha' hb => exact ⟨_, _, rfl, by simp [isTail]; grind, by simp [hb]⟩
  | three ha ha' hb hc hlow hsur => exact ⟨_, _, rfl, by simp [isTail]; grind, by simp [hb, hc]⟩
  | four ha ha' hb hc hd hlow hhigh =>
    exact ⟨_, _, rfl, by simp [isTail]; grind, by simp [hb, hc, hd]⟩

theorem toUInt8_eq {n : Nat} {b : UInt8} (h : n = b.toNat) : n.toUInt8 = b := by
  rw [h]
  exact UInt8.ofNat_toNat

/-- A sequence is the encoding of its code point. -/
theorem WellFormed.eq_encode {code : Nat} {bytes : Text} (h : WellFormed code bytes) :
    bytes = encode code := by
  unfold encode
  cases h with
  | @one a ha =>
    have ha : a.toNat < 0x80 := ha
    rw [if_pos ha, toUInt8_eq rfl]
  | @two a b ha ha' hb =>
    have ha : 0xC2 ≤ a.toNat := ha
    have ha' : a.toNat < 0xE0 := ha'
    obtain ⟨hb, hb'⟩ := toNat_of_isTail hb
    rw [if_neg (by omega), if_pos (by omega), toUInt8_eq (b := a) (by omega),
      toUInt8_eq (b := b) (by omega)]
  | @three a b c ha ha' hb hc hlow hsur =>
    have ha : 0xE0 ≤ a.toNat := ha
    have ha' : a.toNat < 0xF0 := ha'
    obtain ⟨hb, hb'⟩ := toNat_of_isTail hb
    obtain ⟨hc, hc'⟩ := toNat_of_isTail hc
    rw [if_neg (by omega), if_neg (by omega), if_neg (by simp; omega), if_pos (by omega),
      toUInt8_eq (b := a) (by omega), toUInt8_eq (b := b) (by omega),
      toUInt8_eq (b := c) (by omega)]
  | @four a b c d ha ha' hb hc hd hlow hhigh =>
    have ha : 0xF0 ≤ a.toNat := ha
    have ha' : a.toNat < 0xF5 := ha'
    obtain ⟨hb, hb'⟩ := toNat_of_isTail hb
    obtain ⟨hc, hc'⟩ := toNat_of_isTail hc
    obtain ⟨hd, hd'⟩ := toNat_of_isTail hd
    rw [if_neg (by omega), if_neg (by omega), if_neg (by simp; omega), if_neg (by omega),
      toUInt8_eq (b := a) (by omega), toUInt8_eq (b := b) (by omega),
      toUInt8_eq (b := c) (by omega), toUInt8_eq (b := d) (by omega)]

end Rune

/-! ## Texts as characters -/

namespace Text

open Rune (WellFormed)

theorem runesGo_eq (k : Nat) (s : Text) : runesGo k s = runes (s.drop k) := by
  induction s generalizing k with
  | nil => cases k <;> rfl
  | cons b s ih =>
    cases k with
    | zero => rfl
    | succ k => exact ih k

theorem runes_cons (b : UInt8) (s : Text) :
    runes (b :: s) = Rune.first b s :: runes (s.drop ((Rune.first b s).bytes.length - 1)) := by
  rw [runes, runesGo, runesGo_eq]

/-- A sequence in front of a text is its first character. -/
theorem runes_append {code : Nat} {bytes : Text} (h : WellFormed code bytes) (s : Text) :
    runes (bytes ++ s) = ⟨code, bytes⟩ :: runes s := by
  obtain ⟨a, tails, rfl, -, -⟩ := h.exists_cons
  have hfirst : Rune.first a (tails ++ s) = ⟨code, a :: tails⟩ := by
    have hd := Rune.decode?_append h s
    rw [List.cons_append] at hd
    simp [Rune.first, hd]
  rw [List.cons_append, runes_cons, hfirst]
  simp

/-- A byte that starts no sequence is a character of its own. -/
theorem runes_stray {b : UInt8} {s : Text} (h : Rune.decode? (b :: s) = none) :
    runes (b :: s) = ⟨Rune.replacement, [b]⟩ :: runes s := by
  have hfirst : Rune.first b s = ⟨Rune.replacement, [b]⟩ := by simp [Rune.first, h]
  rw [runes_cons, hfirst]
  rfl

/-- Induction along the characters of a text. -/
@[elab_as_elim]
theorem runes_induction {motive : Text → Prop} (s : Text) (nil : motive [])
    (sequence : ∀ code bytes s, WellFormed code bytes → motive s → motive (bytes ++ s))
    (stray : ∀ b s, Rune.decode? (b :: s) = none → motive s → motive (b :: s)) : motive s := by
  induction hn : s.length using Nat.strongRecOn generalizing s with
  | ind n ih =>
    cases s with
    | nil => exact nil
    | cons b s =>
      cases hd : Rune.decode? (b :: s) with
      | none => exact stray b s hd (ih s.length (by simp_all; omega) s rfl)
      | some p =>
        obtain ⟨bytes, rest, heq, -, hw⟩ := Rune.wellFormed_of_decode? hd
        obtain ⟨a, tails, rfl, -, -⟩ := hw.exists_cons
        rw [heq] at hn ⊢
        exact sequence _ _ _ hw (ih rest.length (by simp at hn; omega) rest rfl)

end Text

/-! ## Texts as clusters -/

namespace ClusterUnit

/-- A character starts with the first byte and goes on as the text does. -/
theorem first_eq_take (b : UInt8) (s : Text) : ∃ k, (first b s).bytes = b :: s.take k := by
  unfold first
  dsimp only
  split
  · exact ⟨0, rfl⟩
  · next h =>
    obtain ⟨k, hk⟩ : ∃ k, announced b = k + 1 := by
      cases ha : announced b with
      | zero => simp [ha] at h
      | succ k => exact ⟨k, rfl⟩
    rw [hk, List.take_succ_cons]
    split
    · exact ⟨k, rfl⟩
    split
    · exact ⟨k, rfl⟩
    split
    · exact ⟨k, rfl⟩
    · exact ⟨0, rfl⟩

theorem ofTextGo_eq (k : Nat) (s : Text) : ofTextGo k s = ofText (s.drop k) := by
  induction s generalizing k with
  | nil => cases k <;> rfl
  | cons b s ih =>
    cases k with
    | zero => rfl
    | succ k => exact ih k

theorem ofText_cons (b : UInt8) (s : Text) :
    ofText (b :: s) = first b s :: ofText (s.drop ((first b s).bytes.length - 1)) := by
  rw [ofText, ofTextGo, ofTextGo_eq]

theorem flatMap_bytes_ofText (s : Text) : (ofText s).flatMap bytes = s := by
  induction hn : s.length using Nat.strongRecOn generalizing s with
  | ind n ih =>
    cases s with
    | nil => rfl
    | cons b s =>
      obtain ⟨k, hk⟩ := first_eq_take b s
      rw [ofText_cons, List.flatMap_cons, ih _ (by simp at hn ⊢; omega) _ rfl, hk]
      simp only [List.length_cons, List.length_take, List.cons_append, Nat.add_sub_cancel]
      rw [List.take_eq_take_min, List.take_append_drop]

/-- A well-formed sequence is one character here too. -/
theorem first_append {code : Nat} {a : UInt8} {tails : Text}
    (h : Rune.WellFormed code (a :: tails)) (s : Text) :
    (first a (tails ++ s)).bytes = a :: tails := by
  have hlen : announced a = tails.length + 1 := by
    cases h with
    | one ha => simp [announced, ha]
    | two ha ha' hb => simp [announced]; grind
    | three ha ha' hb hc hlow hsur => simp [announced]; grind
    | four ha ha' hb hc hd hlow hhigh => simp [announced]; grind
  have hdecode := Rune.decode?_append h []
  rw [List.append_nil] at hdecode
  simp [first, hlen, hdecode]

end ClusterUnit

namespace Cluster

theorem flatten_groupGo (k : Nat) (us : List ClusterUnit) (cs : List ClusterClass) :
    (groupGo k us cs).flatten = (us.drop k).flatMap ClusterUnit.bytes := by
  induction us generalizing k cs with
  | nil => cases k <;> rfl
  | cons u us ih =>
    cases k with
    | zero =>
      rw [groupGo, List.flatten_cons, ih, List.append_assoc, ← List.flatMap_append,
        List.take_append_drop]
      rfl
    | succ k => exact ih k _

/-- A cluster starts as its first character does. -/
theorem exists_head_groupGo (k : Nat) (us : List ClusterUnit) (cs : List ClusterClass) :
    ∀ c ∈ groupGo k us cs, ∃ u ∈ us, ∃ t, c = u.bytes ++ t := by
  induction us generalizing k cs with
  | nil => cases k <;> simp [groupGo]
  | cons u us ih =>
    intro c hc
    cases k with
    | zero =>
      rw [groupGo, List.mem_cons] at hc
      rcases hc with rfl | hc
      · exact ⟨u, List.mem_cons_self, _, rfl⟩
      · obtain ⟨v, hv, t, rfl⟩ := ih _ _ c hc
        exact ⟨v, List.mem_cons_of_mem _ hv, t, rfl⟩
    | succ k =>
      obtain ⟨v, hv, t, rfl⟩ := ih k _ c hc
      exact ⟨v, List.mem_cons_of_mem _ hv, t, rfl⟩

end Cluster

namespace Text

/-- **Nothing is lost**: the clusters of a text, one after the other, are the text. -/
theorem flatten_clusters (s : Text) : s.clusters.flatten = s := by
  rw [clusters, Cluster.flatten_groupGo, List.drop_zero, ClusterUnit.flatMap_bytes_ofText]

/-- Whether a text starts with a byte that is no tail. -/
def Leads (s : Text) : Prop := ∃ b t, s = b :: t ∧ Rune.isTail b = false

theorem leads_of_mem_ofText {s : Text} (h : s.isUtf8 = true) :
    ∀ u ∈ ClusterUnit.ofText s, u.bytes.Leads := by
  induction s using runes_induction with
  | nil => simp [ClusterUnit.ofText, ClusterUnit.ofTextGo]
  | sequence code bytes s hw ih =>
    obtain ⟨a, tails, rfl, ha, -⟩ := hw.exists_cons
    have hfirst := ClusterUnit.first_append hw s
    rw [isUtf8, runes_append hw, List.all_cons, Bool.and_eq_true] at h
    intro u hu
    rw [List.cons_append, ClusterUnit.ofText_cons, hfirst, List.mem_cons] at hu
    rcases hu with rfl | hu
    · exact ⟨a, tails, hfirst, ha⟩
    · exact ih h.2 u (by simpa using hu)
  | stray b s hd _ =>
    rw [isUtf8, runes_stray hd] at h
    simp [Rune.isValid] at h

/-- In UTF-8 every cluster starts where a character starts. -/
theorem clusters_lead {s : Text} (h : s.isUtf8 = true) : ∀ c ∈ s.clusters, c.Leads := by
  intro c hc
  obtain ⟨u, hu, t, rfl⟩ := Cluster.exists_head_groupGo _ _ _ c hc
  obtain ⟨b, t', heq, hb⟩ := leads_of_mem_ofText h u hu
  exact ⟨b, t' ++ t, by rw [heq, List.cons_append], hb⟩

end Text
end TextTemplate
