/-
The decimal texts of numbers: they are digits, behind a minus sign below zero, and are read back as
the number (`readNat?_ofNat`, `readInt64?_ofInt`).
-/
import TextTemplate.Text.Number

namespace TextTemplate.Text

theorem utf8EncodeChar_of_isDigit {c : Char} (h : c.isDigit = true) :
    String.utf8EncodeChar c = [UInt8.ofNat c.toNat] ∧ 0x30 ≤ c.toNat ∧ c.toNat ≤ 0x39 := by
  simp only [Char.isDigit, Bool.and_eq_true, decide_eq_true_eq] at h
  have hlow : 0x30 ≤ c.val.toNat := h.1
  have hhigh : c.val.toNat ≤ 0x39 := h.2
  refine ⟨?_, hlow, hhigh⟩
  rw [String.utf8EncodeChar, if_pos (by omega)]
  rfl

theorem isDigit_ofNat_iff {n : Nat} (hlow : 0x30 ≤ n) (hhigh : n ≤ 0x39) :
    isDigit (UInt8.ofNat n) = true := by
  simp only [isDigit, Bool.and_eq_true, decide_eq_true_eq, UInt8.le_iff_toNat_le,
    UInt8.toNat_ofNat', Nat.mod_eq_of_lt (by omega : n < 2 ^ 8)]
  exact ⟨hlow, hhigh⟩

theorem ofNat_eq (n : Nat) : ofNat n = (Nat.toDigits 10 n).flatMap String.utf8EncodeChar := by
  rw [ofNat, utf8, Nat.repr, String.toList_ofList]

theorem isDigit_of_mem_toDigits {n : Nat} : ∀ c ∈ Nat.toDigits 10 n, c.isDigit = true :=
  fun _ hc => Nat.isDigit_of_mem_toDigits (by decide) (by decide) hc

/-- The text of a number is made of digits. -/
theorem isDigit_of_mem_ofNat {n : Nat} : ∀ b ∈ ofNat n, isDigit b = true := by
  intro b hb
  rw [ofNat_eq] at hb
  obtain ⟨c, hc, hb⟩ := List.mem_flatMap.1 hb
  obtain ⟨hbytes, hlow, hhigh⟩ := utf8EncodeChar_of_isDigit (isDigit_of_mem_toDigits c hc)
  rw [hbytes, List.mem_singleton] at hb
  rw [hb]
  exact isDigit_ofNat_iff hlow hhigh

theorem ofNat_ne_nil (n : Nat) : ofNat n ≠ [] := by
  obtain ⟨c, cs, hcs⟩ := List.exists_cons_of_ne_nil (Nat.toDigits_ne_nil (n := n) (b := 10))
  have hdigit := isDigit_of_mem_toDigits (n := n) c (by rw [hcs]; exact List.mem_cons_self)
  rw [ofNat_eq, hcs, List.flatMap_cons, (utf8EncodeChar_of_isDigit hdigit).1]
  exact List.cons_ne_nil _ _

/-- Reading digits goes on from the number read so far. -/
theorem foldl_digits {cs : List Char} (h : ∀ c ∈ cs, c.isDigit = true) (n : Nat) :
    (cs.flatMap String.utf8EncodeChar).foldl (fun n b => n.bind fun n =>
      if isDigit b then some (n * 10 + (b.toNat - 0x30)) else none) (some n) =
      some (Nat.ofDigitChars 10 cs n) := by
  induction cs generalizing n with
  | nil => rfl
  | cons c cs ih =>
    obtain ⟨hc, hcs⟩ := List.forall_mem_cons.1 h
    obtain ⟨hbytes, hlow, hhigh⟩ := utf8EncodeChar_of_isDigit hc
    have hvalue : (UInt8.ofNat c.toNat).toNat = c.toNat := by
      rw [UInt8.toNat_ofNat', Nat.mod_eq_of_lt (by omega)]
    rw [List.flatMap_cons, hbytes, List.singleton_append, List.foldl_cons, Option.bind_some,
      isDigit_ofNat_iff hlow hhigh, if_pos rfl, ih hcs, hvalue, Nat.mul_comm]
    rfl

theorem readNat?_ofNat (n : Nat) : readNat? (ofNat n) = some n := by
  rw [readNat?, if_neg (by simp [ofNat_ne_nil]), ofNat_eq, foldl_digits isDigit_of_mem_toDigits,
    Nat.ofDigitChars_ten_toDigits]

/-- The text of an integer is made of digits, behind a minus sign below zero. -/
theorem mem_ofInt {n : Int} : ∀ b ∈ ofInt n, b = 0x2D ∨ isDigit b = true := by
  intro b hb
  cases n with
  | ofNat n => exact .inr (isDigit_of_mem_ofNat b hb)
  | negSucc n =>
    rcases List.mem_append.1 hb with hb | hb
    · exact .inl (List.mem_singleton.1 hb)
    · exact .inr (isDigit_of_mem_ofNat b hb)

theorem ofInt_ne_nil (n : Int) : ofInt n ≠ [] := by
  cases n with
  | ofNat n => exact ofNat_ne_nil n
  | negSucc n => exact List.cons_ne_nil _ _

theorem readInt64?_ofInt (n : Int64) : readInt64? (ofInt n.toInt) = some n.toInt := by
  have hlow := n.le_toInt
  have hhigh := n.toInt_lt
  generalize n.toInt = n at hlow hhigh
  have hrange : (decide (-Int.ofNat (Nat.pow 2 63) ≤ n) && decide (n < Int.ofNat (Nat.pow 2 63)))
      = true := by
    simp only [Bool.and_eq_true, decide_eq_true_eq]
    exact ⟨hlow, hhigh⟩
  cases n with
  | ofNat n =>
    obtain ⟨b, s, hs⟩ := List.exists_cons_of_ne_nil (ofNat_ne_nil n)
    have hread := readNat?_ofNat n
    have hb : isDigit b = true := isDigit_of_mem_ofNat b (by rw [hs]; exact List.mem_cons_self)
    rw [hs] at hread
    rw [ofInt, hs, readInt64?, hread]
    · exact (Option.filter_some ..).trans (if_pos hrange)
    · rintro t ⟨rfl, rfl⟩
      exact absurd hb (by decide)
    · rintro t ⟨rfl, rfl⟩
      exact absurd hb (by decide)
  | negSucc n =>
    rw [show ofInt (.negSucc n) = 0x2D :: ofNat (n + 1) from rfl, readInt64?, readNat?_ofNat]
    exact (Option.filter_some ..).trans (if_pos hrange)

end TextTemplate.Text
