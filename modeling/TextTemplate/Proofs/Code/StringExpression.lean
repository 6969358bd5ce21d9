/-
String expressions of the generated language, read back: regular and verbatim literals, joined by
plus signs and grouped by parentheses, with white space between them. `eval?` gives the text an
expression stands for, and nothing for what is no such expression.

The reader knows the rules of the language and nothing of the writer. A regular literal takes
every escape of the language and holds no line end: none of CR, LF, U+0085, U+2028 and U+2029. A
verbatim literal holds everything, a quote doubled. Bytes that are not UTF-8 stand for themselves.
Line ends beyond ASCII are found by their bytes; their first byte is no tail, so these bytes are the
character wherever they stand.
-/
import TextTemplate.Text.Rune

namespace TextTemplate
namespace StringExpression

/-! ## Regular literals -/

/-- The line ends of the language. -/
def lineEnds : List Text :=
  [[0x0D], [0x0A], [0xC2, 0x85], [0xE2, 0x80, 0xA8], [0xE2, 0x80, 0xA9]]

/-- Whether a text starts with a line end. -/
def startsLineEnd (s : Text) : Bool := lineEnds.any (·.isPrefixOf s)

/-- What a letter behind a backslash stands for. -/
def simple? (b : UInt8) : Option UInt8 :=
  match b with
  | 0x27 => some 0x27
  | 0x22 => some 0x22
  | 0x5C => some 0x5C
  | 0x30 => some 0x00
  | 0x61 => some 0x07
  | 0x62 => some 0x08
  | 0x66 => some 0x0C
  | 0x6E => some 0x0A
  | 0x72 => some 0x0D
  | 0x74 => some 0x09
  | 0x76 => some 0x0B
  | _ => none

/-- The value of a hexadecimal digit. -/
def hexValue? (b : UInt8) : Option Nat :=
  if 0x30 ≤ b && b ≤ 0x39 then some (b.toNat - 0x30)
  else if 0x41 ≤ b && b ≤ 0x46 then some (b.toNat - 0x37)
  else if 0x61 ≤ b && b ≤ 0x66 then some (b.toNat - 0x57)
  else none

/-- The text of a code point given by its digits, and the bytes of the escape behind the backslash.
A surrogate has no text. -/
def numeric? (digits : Text) : Option (Text × Nat) :=
  match digits.foldlM (fun n b => (hexValue? b).map (16 * n + ·)) 0 with
  | none => none
  | some code =>
    if code > 0x10FFFF || (0xD800 ≤ code && code ≤ 0xDFFF) then none
    else some (Rune.encode code, digits.length + 1)

/-- What the text behind a backslash stands for, and how many of its bytes belong to it. -/
def escape? : Text → Option (Text × Nat)
  | [] => none
  | b :: s =>
    match simple? b with
    | some c => some ([c], 1)
    | none =>
      if b = 0x75 then if 4 ≤ s.length then numeric? (s.take 4) else none
      else if b = 0x55 then if 8 ≤ s.length then numeric? (s.take 8) else none
      else if b = 0x78 then
        let digits := (s.take 4).takeWhile fun c => (hexValue? c).isSome
        if digits.isEmpty then none else numeric? digits
      else none

/-- A text in front of one that was read. -/
def prepend (t : Text) (r : Text × Text) : Text × Text := (t ++ r.1, r.2)

/-- Reads a regular literal behind its opening quote: its text, and what stands behind it. The
number counts the bytes of an escape still to be passed. -/
def regularGo : Nat → Text → Option (Text × Text)
  | _, [] => none
  | k + 1, _ :: s => regularGo k s
  | 0, b :: s =>
    if startsLineEnd (b :: s) then none
    else if b = 0x22 then some ([], s)
    else if b = 0x5C then
      match escape? s with
      | none => none
      | some (t, k) => (regularGo k s).map (prepend t)
    else (regularGo 0 s).map (prepend [b])

def regular? (s : Text) : Option (Text × Text) := regularGo 0 s

theorem regularGo_eq (k : Nat) (s : Text) : regularGo k s = regular? (s.drop k) := by
  induction s generalizing k with
  | nil => cases k <;> rfl
  | cons b s ih =>
    cases k with
    | zero => rfl
    | succ k => exact ih k

theorem regular?_lineEnd {s : Text} (h : startsLineEnd s = true) : regular? s = none := by
  cases s with
  | nil => rfl
  | cons b s => simp [regular?, regularGo, h]

theorem regular?_quote (s : Text) : regular? (0x22 :: s) = some ([], s) := by
  simp [regular?, regularGo, startsLineEnd, lineEnds]

/-- An escape is read as what it stands for. -/
theorem regular?_escape (escape : Text) {t s : Text}
    (h : escape? (escape ++ s) = some (t, escape.length)) :
    regular? (0x5C :: (escape ++ s)) = (regular? s).map (prepend t) := by
  have hgo := regularGo_eq escape.length (escape ++ s)
  rw [List.drop_left] at hgo
  simp [regular?, regularGo, startsLineEnd, lineEnds, List.isPrefixOf, h, hgo]

theorem regular?_plain {b : UInt8} {s : Text} (h : startsLineEnd (b :: s) = false) (hq : b ≠ 0x22)
    (hs : b ≠ 0x5C) : regular? (b :: s) = (regular? s).map (prepend [b]) := by
  simp [regular?, regularGo, h, hq, hs]

theorem map_prepend_append (a b : Text) (r : Option (Text × Text)) :
    (r.map (prepend b)).map (prepend a) = r.map (prepend (a ++ b)) := by
  cases r with
  | none => rfl
  | some r => simp [prepend]

theorem suffix_of_regularGo {s t rest : Text} {k : Nat} (h : regularGo k s = some (t, rest)) :
    rest <:+ s := by
  induction s generalizing k t with
  | nil => cases k <;> cases h
  | cons b s ih =>
    cases k with
    | succ k => exact (ih h).trans (List.suffix_cons b s)
    | zero =>
      simp only [regularGo] at h
      split at h
      · cases h
      split at h
      · cases h
        exact List.suffix_cons b _
      split at h
      · split at h
        · cases h
        · obtain ⟨r, hr, heq⟩ := Option.map_eq_some_iff.1 h
          cases heq
          exact (ih hr).trans (List.suffix_cons b s)
      · obtain ⟨r, hr, heq⟩ := Option.map_eq_some_iff.1 h
        cases heq
        exact (ih hr).trans (List.suffix_cons b s)

/-! ## Verbatim literals -/

/-- Reads a verbatim literal behind its opening quote. -/
def verbatim? : Text → Option (Text × Text)
  | [] => none
  | b :: s =>
    if b = 0x22 then
      match s with
      | [] => some ([], [])
      | c :: s => if c = 0x22 then (verbatim? s).map (prepend [0x22]) else some ([], c :: s)
    else (verbatim? s).map (prepend [b])

theorem verbatim?_plain {b : UInt8} (s : Text) (h : b ≠ 0x22) :
    verbatim? (b :: s) = (verbatim? s).map (prepend [b]) := by
  rw [verbatim?.eq_def]
  simp [h]

theorem verbatim?_doubled (s : Text) :
    verbatim? (0x22 :: 0x22 :: s) = (verbatim? s).map (prepend [0x22]) := by
  simp [verbatim?]

theorem verbatim?_quote {s : Text} (h : s.head? ≠ some 0x22) :
    verbatim? (0x22 :: s) = some ([], s) := by
  cases s with
  | nil => rfl
  | cons c s =>
    have hc : c ≠ 0x22 := by simpa using h
    simp [verbatim?, hc]

theorem suffix_of_verbatim? {s t rest : Text} (h : verbatim? s = some (t, rest)) : rest <:+ s := by
  induction hn : s.length using Nat.strongRecOn generalizing s t with
  | ind n ih =>
    have step {s' : Text} {u : Text} (hlt : s'.length < n)
        (h : (verbatim? s').map (prepend u) = some (t, rest)) : rest <:+ s' := by
      obtain ⟨r, hr, heq⟩ := Option.map_eq_some_iff.1 h
      cases heq
      exact ih _ hlt hr rfl
    cases s with
    | nil => cases h
    | cons b s =>
      rw [verbatim?.eq_def] at h
      dsimp only at h
      split at h
      · split at h
        · cases h
          exact List.nil_suffix
        · next c s =>
          split at h
          · exact (step (by simp at hn; omega) h).trans
              ((List.suffix_cons c s).trans (List.suffix_cons b _))
          · cases h
            exact List.suffix_cons b _
      · exact (step (by simp at hn; omega) h).trans (List.suffix_cons b s)

/-! ## Tokens -/

/-- The tokens of an expression; a literal is the text it stands for. -/
inductive Token where
  | opening
  | closing
  | plus
  | value (text : Text)
  deriving DecidableEq, Repr

/-- The white space of ASCII, line ends included. -/
def isSpace (b : UInt8) : Bool := (0x09 ≤ b && b ≤ 0x0D) || b == 0x20

/-- The token a byte is. -/
def mark? (b : UInt8) : Option Token :=
  match b with
  | 0x28 => some .opening
  | 0x29 => some .closing
  | 0x2B => some .plus
  | _ => none

/-- The literal a text starts with, and what stands behind it. -/
def literal? : Text → Option (Text × Text)
  | 0x22 :: s => regular? s
  | 0x40 :: 0x22 :: s => verbatim? s
  | _ => none

/-- The tokens of a text, given how many bytes of the current one are still to be passed. -/
def tokensGo : Nat → Text → Option (List Token)
  | _, [] => some []
  | k + 1, _ :: s => tokensGo k s
  | 0, b :: s =>
    if isSpace b then tokensGo 0 s
    else match mark? b with
      | some t => (tokensGo 0 s).map (t :: ·)
      | none =>
        match literal? (b :: s) with
        | none => none
        | some (v, rest) => (tokensGo (s.length - rest.length) s).map (.value v :: ·)

def tokens? (s : Text) : Option (List Token) := tokensGo 0 s

theorem tokensGo_eq (k : Nat) (s : Text) : tokensGo k s = tokens? (s.drop k) := by
  induction s generalizing k with
  | nil => cases k <;> rfl
  | cons b s ih =>
    cases k with
    | zero => rfl
    | succ k => exact ih k

theorem tokens?_space {b : UInt8} (h : isSpace b = true) (s : Text) :
    tokens? (b :: s) = tokens? s := by
  simp [tokens?, tokensGo, h]

theorem tokens?_blank {blank : Text} (h : ∀ b ∈ blank, isSpace b = true) (s : Text) :
    tokens? (blank ++ s) = tokens? s := by
  induction blank with
  | nil => rfl
  | cons b blank ih =>
    rw [List.cons_append, tokens?_space (h b List.mem_cons_self)]
    exact ih fun c hc => h c (List.mem_cons_of_mem _ hc)

theorem tokens?_mark {b : UInt8} {t : Token} (hs : isSpace b = false) (h : mark? b = some t)
    (s : Text) : tokens? (b :: s) = (tokens? s).map (t :: ·) := by
  simp [tokens?, tokensGo, hs, h]

theorem tokens?_regular (s : Text) :
    tokens? (0x22 :: s) = (regular? s).bind fun r => (tokens? r.2).map (.value r.1 :: ·) := by
  cases h : regular? s with
  | none => simp [tokens?, tokensGo, isSpace, mark?, literal?, h]
  | some r =>
    have hrest := List.suffix_iff_eq_drop.1 (suffix_of_regularGo h)
    simp only [tokens?, tokensGo, isSpace, mark?, literal?, h]
    simp only [tokensGo_eq, ← hrest]
    rfl

theorem tokens?_verbatim (s : Text) :
    tokens? (0x40 :: 0x22 :: s) =
      (verbatim? s).bind fun r => (tokens? r.2).map (.value r.1 :: ·) := by
  cases h : verbatim? s with
  | none => simp [tokens?, tokensGo, isSpace, mark?, literal?, h]
  | some r =>
    have hsuffix := (suffix_of_verbatim? h).trans (List.suffix_cons 0x22 s)
    have hrest := List.suffix_iff_eq_drop.1 hsuffix
    simp only [tokens?, tokensGo, isSpace, mark?, literal?, h]
    simp only [tokensGo_eq, ← hrest]
    rfl

/-! ## Values -/

mutual

/-- Reads a term: `outer` holds the sums in front of the parentheses that are open, the innermost
first, and `sum` the current one. -/
def term? (outer : List Text) (sum : Text) : List Token → Option Text
  | .value t :: ts => more? outer (sum ++ t) ts
  | .opening :: ts => term? (sum :: outer) [] ts
  | _ => none

/-- Reads what follows a term. -/
def more? (outer : List Text) (sum : Text) : List Token → Option Text
  | .plus :: ts => term? outer sum ts
  | .closing :: ts =>
    match outer with
    | [] => none
    | before :: outer => more? outer (before ++ sum) ts
  | .value _ :: _ => none
  | .opening :: _ => none
  | [] => if outer.isEmpty then some sum else none

end

/-- The text an expression stands for. -/
def eval? (s : Text) : Option Text := (tokens? s).bind (term? [] [])

end StringExpression
end TextTemplate
