/-
The `#line` directives of a text, as a compiler reads them. It goes through the text line by line. A
line that starts with `#line` is a directive, whatever it stands in: it names the line of a file that
the line behind it is taken for. Each further line is taken for the next one, until a directive says
otherwise (`lineMark`).

A directive of a line and a file is read back as it was written (`directive?_lineDirective`); lines
that are no directives move the mark on by their number (`Mark.foldl_read`).
-/
import TextTemplate.Proofs.Text.Lines
import TextTemplate.Proofs.Text.Number

namespace TextTemplate

namespace Text

/-- Trimming stops at an ASCII character that is not blank. -/
theorem trimStart_cons {b : UInt8} (hb : b < 0x80) (hblank : Rune.isBlankCode b.toNat = false)
    (s : Text) : trimStart (b :: s) = b :: s := by
  have hrunes : runes (b :: s) = ⟨b.toNat, [b]⟩ :: runes s := runes_append (.one hb) s
  have hkept : (runes (b :: s)).dropWhile Rune.isBlank = runes (b :: s) := by
    rw [hrunes, List.dropWhile_cons_of_neg]
    simp [Rune.isBlank, hblank]
  rw [trimStart, hkept, ofRunes_runes]

theorem trimStart_space (s : Text) : trimStart (0x20 :: s) = s.trimStart := by
  have hrunes : runes (0x20 :: s) = ⟨0x20, [0x20]⟩ :: runes s :=
    runes_append (.one (a := 0x20) (by decide)) s
  rw [trimStart, hrunes, List.dropWhile_cons_of_pos (by decide), trimStart]

end Text

namespace Output

/-! ## Directives -/

/-- What a `#line` directive says. -/
inductive LineDirective where
  /-- The line behind it is this line of the file, or of the file named last. -/
  | mapped (line : Int64) (file : Option Text)
  /-- The lines behind it are no lines of a file. -/
  | unmapped
  deriving DecidableEq, Repr

/-- Whether a byte can stand in a line number. -/
def isNumeral (b : UInt8) : Bool := Text.isDigit b || b == 0x2D

/-- The text in quotes at the start of a text. -/
def quoted? : Text → Option Text
  | 0x22 :: s => (Text.cut? 0x22 s).map Prod.fst
  | _ => none

/-- The argument of a directive: a line number, and a file name in quotes if there is one. Any other
argument ends the mapping, as `default` does. -/
def LineDirective.ofArgument (s : Text) : LineDirective :=
  let behind : Text := s.dropWhile isNumeral
  match Text.readInt64? (s.takeWhile isNumeral) with
  | some line => .mapped (Int64.ofInt line) (quoted? behind.trimStart)
  | none => .unmapped

/-- The directive that a line is: `#line`, with blanks around its parts, and an argument. -/
def directive? (x : Text) : Option LineDirective :=
  match x.trimStart with
  | 0x23 :: (s : Text) =>
    let name := s.trimStart
    let argument : Text := name.drop 4
    if (utf8 "line").isPrefixOf name ∧ argument.trimStart ≠ argument then
      some (.ofArgument argument.trimStart)
    else none
  | _ => none

/-- The number of an argument is read as it was written. -/
theorem ofArgument_ofInt (line : Int64) {s : Text} (hs : ∀ b ∈ s.head?, isNumeral b = false) :
    LineDirective.ofArgument (Text.ofInt line.toInt ++ s) =
      .mapped line (quoted? s.trimStart) := by
  have hall : ∀ b ∈ Text.ofInt line.toInt, isNumeral b = true := by
    intro b hb
    rcases Text.mem_ofInt b hb with rfl | hdigit
    · rfl
    · simp [isNumeral, hdigit]
  have hrest : s.takeWhile isNumeral = [] ∧ s.dropWhile isNumeral = s := by
    cases s with
    | nil => exact ⟨rfl, rfl⟩
    | cons b s =>
      have hb : ¬isNumeral b = true := by simp [hs b rfl]
      exact ⟨List.takeWhile_cons_of_neg hb, List.dropWhile_cons_of_neg hb⟩
  rw [LineDirective.ofArgument, List.takeWhile_append_of_pos hall,
    List.dropWhile_append_of_pos hall, hrest.1, hrest.2, List.append_nil, Text.readInt64?_ofInt]
  simp only [Int64.ofInt_toInt]

theorem trimStart_ofInt (n : Int) (s : Text) :
    Text.trimStart (Text.ofInt n ++ s) = Text.ofInt n ++ s := by
  obtain ⟨b, t, ht⟩ := List.exists_cons_of_ne_nil (Text.ofInt_ne_nil n)
  have hb := Text.mem_ofInt (n := n) b (by rw [ht]; exact List.mem_cons_self)
  rw [ht, List.cons_append]
  rcases hb with rfl | hdigit
  · exact Text.trimStart_cons (by decide) (by decide) _
  · simp only [Text.isDigit, Bool.and_eq_true, decide_eq_true_eq, UInt8.le_iff_toNat_le] at hdigit
    have hlow : 0x30 ≤ b.toNat := hdigit.1
    have hhigh : b.toNat ≤ 0x39 := hdigit.2
    refine Text.trimStart_cons (UInt8.lt_iff_toNat_lt.2 (by change b.toNat < 0x80; omega)) ?_ _
    simp only [Rune.isBlankCode, Bool.or_eq_false_iff, Bool.and_eq_false_imp, decide_eq_true_eq,
      decide_eq_false_iff_not, beq_eq_false_iff_ne]
    omega

/-- **A directive is read back** as the line and the file it was written for. -/
theorem directive?_lineDirective (line : Int64) {file : Text} (hfile : 0x22 ∉ file) :
    directive? (Writer.lineDirective line file) =
      some (.mapped line (if file.isEmpty then none else some file)) := by
  rw [Writer.lineDirective]
  generalize hrest : (if file.isEmpty then [] else utf8 " \"" ++ file ++ utf8 "\"" : Text) = rest
  have hhead : ∀ b ∈ rest.head?, isNumeral b = false := by
    rw [← hrest]
    split
    · simp
    · rintro b ⟨⟩
      rfl
  have hquoted : quoted? rest.trimStart = if file.isEmpty then none else some file := by
    rw [← hrest]
    split
    · rfl
    · have hspace : (utf8 " \"" ++ file ++ utf8 "\"" : Text) = 0x20 :: 0x22 :: (file ++ [0x22]) := by
        rfl
      rw [hspace, Text.trimStart_space, Text.trimStart_cons (by decide) (by decide), quoted?,
        Text.cut?_append_cons hfile]
      rfl
  have hname : (utf8 "#line " ++ Text.ofInt line.toInt ++ rest : Text) =
      0x23 :: 0x6C :: 0x69 :: 0x6E :: 0x65 :: 0x20 :: (Text.ofInt line.toInt ++ rest) := by
    rfl
  have hargument := trimStart_ofInt line.toInt rest
  have hprefix : (utf8 "line").isPrefixOf
      (0x6C :: 0x69 :: 0x6E :: 0x65 :: 0x20 :: (Text.ofInt line.toInt ++ rest)) = true := by
    rfl
  rw [hname, directive?, Text.trimStart_cons (by decide) (by decide)]
  simp only
  rw [Text.trimStart_cons (by decide) (by decide)]
  simp only [List.drop_succ_cons, List.drop_zero, Text.trimStart_space, hargument, hprefix]
  rw [if_pos ⟨trivial, fun h => by simpa using congrArg List.length h⟩, ofArgument_ofInt line hhead,
    hquoted]

/-! ## Marks -/

/-- The line of a file that a line is taken for, if it is taken for one. -/
abbrev Mark := Option (Int64 × Text)

namespace Mark

/-- The mark some lines further on. -/
def further (m : Mark) (n : Nat) : Mark := m.map fun (line, file) => (line + Int64.ofNat n, file)

/-- The mark of the line behind a line. -/
def read (m : Mark) (x : Text) : Mark :=
  match directive? x with
  | none => m.further 1
  | some .unmapped => none
  | some (.mapped line file) => some (line, file.getD ((m.map Prod.snd).getD []))

theorem further_further (m : Mark) (a b : Nat) : (m.further a).further b = m.further (a + b) := by
  rcases m with - | ⟨line, file⟩
  · rfl
  · simp [further, Int64.ofNat_add, Int64.add_assoc]

theorem further_zero (m : Mark) : m.further 0 = m := by
  rcases m with - | ⟨line, file⟩
  · rfl
  · simp [further]

/-- Lines that are no directives move the mark on by their number. -/
theorem foldl_read (m : Mark) {xs : List Text} (h : ∀ x ∈ xs, directive? x = none) :
    xs.foldl read m = m.further xs.length := by
  induction xs generalizing m with
  | nil => exact m.further_zero.symm
  | cons x xs ih =>
    obtain ⟨hx, hxs⟩ := List.forall_mem_cons.1 h
    have hread : m.read x = m.further 1 := by rw [read, hx]
    rw [List.foldl_cons, ih _ hxs, hread, further_further, List.length_cons, Nat.add_comm]

end Mark

/-- What a line of a text is taken for. -/
def lineMark (t : Text) (j : Nat) : Mark := (t.physicalLines.take j).foldl Mark.read none

end Output
end TextTemplate
