/-
Patterns of names and quoted values. A pattern is matched from left to right: of two alternatives
the first is tried first, a repetition goes on as long as it can, and a choice is taken back when
what follows does not match (`Pattern.match?`). The reader of directives does not search: it finds a
name or a quoted value in one pass. `namePattern_first?` and `valuePattern_first?` say that it finds
what the patterns match.

Patterns are over bytes. A character outside ASCII has no byte that a class of these patterns names,
so a class that leaves out named bytes takes it byte by byte.
-/
import TextTemplate.Proofs.Template.Written

namespace TextTemplate

/-- A pattern: a byte of a class, one pattern after the other, alternatives, and a repetition. -/
inductive Pattern where
  | byte (p : UInt8 → Bool)
  | seq (a b : Pattern)
  | alt (a b : Pattern)
  | star (a : Pattern)

namespace Pattern

/-- What `k` makes of the text behind the first match that it makes something of. -/
def match? (p : Pattern) (k : Text → Option Text) (s : Text) : Option Text :=
  match p with
  | byte q =>
    match s with
    | [] => none
    | b :: s => if q b then k s else none
  | seq a b => a.match? (fun t => b.match? k t) s
  | alt a b => (a.match? k s).or (b.match? k s)
  | star a =>
    (a.match? (fun t => if t.length < s.length then (star a).match? k t else none) s).or (k s)
termination_by (sizeOf p, s.length)

/-- The text behind the match of a pattern. -/
def first? (p : Pattern) (s : Text) : Option Text := p.match? some s

/-- At least one match. -/
def plus (a : Pattern) : Pattern := seq a (star a)

/-- One given byte. -/
def one (b : UInt8) : Pattern := byte (· == b)

variable {a b : Pattern} {k : Text → Option Text} {q : UInt8 → Bool} {s : Text}

theorem match?_byte_nil : (byte q).match? k [] = none := by rw [match?]

theorem match?_byte_cons (c : UInt8) (s : Text) :
    (byte q).match? k (c :: s) = if q c then k s else none := by rw [match?]

theorem match?_seq : (seq a b).match? k s = a.match? (b.match? k) s := by rw [match?]

theorem match?_alt : (alt a b).match? k s = (a.match? k s).or (b.match? k s) := by rw [match?]

/-! ## What follows a match -/

/-- What follows a match is never longer than the text. -/
theorem match?_congr (p : Pattern) {k k' : Text → Option Text} {s : Text}
    (h : ∀ t, t.length ≤ s.length → k t = k' t) : p.match? k s = p.match? k' s := by
  match p with
  | byte q =>
    cases s with
    | nil => rw [match?_byte_nil, match?_byte_nil]
    | cons c s => rw [match?_byte_cons, match?_byte_cons, h s (by simp)]
  | seq a b =>
    rw [match?_seq, match?_seq]
    exact match?_congr a fun t ht => match?_congr b fun u hu => h u (Nat.le_trans hu ht)
  | alt a b => rw [match?_alt, match?_alt, match?_congr a h, match?_congr b h]
  | star a =>
    rw [match?, match?, h s (Nat.le_refl _)]
    refine congrArg (Option.or · _) (congrArg (a.match? · s) (funext fun t => ?_))
    split
    · next ht => exact match?_congr (star a) fun u hu => h u (by omega)
    · rfl
termination_by (sizeOf p, s.length)

/-- Whether what follows a match is always shorter than the text. -/
def Consumes (p : Pattern) : Prop :=
  ∀ (k k' : Text → Option Text) (s : Text), (∀ t, t.length < s.length → k t = k' t) →
    p.match? k s = p.match? k' s

theorem consumes_byte (q : UInt8 → Bool) : Consumes (byte q) := by
  intro k k' s h
  cases s with
  | nil => rw [match?_byte_nil, match?_byte_nil]
  | cons c s => rw [match?_byte_cons, match?_byte_cons, h s (by simp)]

theorem Consumes.seq (ha : Consumes a) (b : Pattern) : Consumes (seq a b) := by
  intro k k' s h
  rw [match?_seq, match?_seq]
  exact ha _ _ s fun t ht => match?_congr b fun u hu => h u (by omega)

theorem Consumes.alt (ha : Consumes a) (hb : Consumes b) : Consumes (alt a b) := by
  intro k k' s h
  rw [match?_alt, match?_alt, ha k k' s h, hb k k' s h]

/-- A repetition is one more match and the repetition again, or nothing more. -/
theorem match?_star (ha : Consumes a) (k : Text → Option Text) (s : Text) :
    (star a).match? k s = (a.match? ((star a).match? k) s).or (k s) := by
  rw [match?]
  refine congrArg (Option.or · _) (ha _ _ s fun t ht => ?_)
  rw [if_pos ht]

/-- A run of bytes is taken whole when what follows cannot start with one more. -/
theorem match?_star_byte (hk : ∀ b s, q b = true → k (b :: s) = none) (s : Text) :
    (star (byte q)).match? k s = k (s.dropWhile q) := by
  induction s with
  | nil => rw [match?_star (consumes_byte q), match?_byte_nil, Option.none_or, List.dropWhile_nil]
  | cons b s ih =>
    rw [match?_star (consumes_byte q), match?_byte_cons, ih, List.dropWhile_cons]
    cases hb : q b with
    | true => simp [hk b s hb]
    | false => simp

/-- A run of bytes is taken whole when anything may follow. -/
theorem match?_star_byte_some (q : UInt8 → Bool) (s : Text) :
    (star (byte q)).match? some s = some (s.dropWhile q) := by
  induction s with
  | nil => rw [match?_star (consumes_byte q), match?_byte_nil, Option.none_or, List.dropWhile_nil]
  | cons b s ih =>
    rw [match?_star (consumes_byte q), match?_byte_cons, ih, List.dropWhile_cons]
    cases q b with
    | true => simp
    | false => simp

end Pattern

open Pattern

/-! ## Names -/

/-- `[A-Za-z_][A-Za-z0-9_.\-]*` -/
def namePattern : Pattern := seq (byte isNameStart) (star (byte isNamePart))

/-- **A name is what the pattern matches.** -/
theorem namePattern_first? (s : Text) :
    namePattern.first? s =
      match s with
      | [] => none
      | b :: s => if isNameStart b then some (s.dropWhile isNamePart) else none := by
  rw [first?, namePattern, match?_seq]
  cases s with
  | nil => rw [match?_byte_nil]
  | cons b s => rw [match?_byte_cons, match?_star_byte_some]

/-! ## Quoted values -/

/-- `[^"\\]` -/
def isPlain (b : UInt8) : Bool := b != 0x22 && b != 0x5C

/-- `[^"\\\s#]` -/
def isInner (b : UInt8) : Bool := isPlain b && !isDirectiveSpace b && b != 0x23

namespace ValuePattern

/-- `\\+"` -/
def escapedQuote : Pattern := seq (plus (one 0x5C)) (one 0x22)

/-- `\\+[^"\\]` -/
def escapedPlain : Pattern := seq (plus (one 0x5C)) (byte isPlain)

/-- `[^"\\\s#]|\\+[^"\\]` -/
def inner : Pattern := alt (byte isInner) escapedPlain

/-- `[^"\\]|\\+[^"\\]|(?:\\+")+(?:[^"\\\s#]|\\+[^"\\])` -/
def part : Pattern := alt (byte isPlain) (alt escapedPlain (seq (plus escapedQuote) inner))

/-- `(?:\\+")*\\*"` -/
def ending : Pattern := seq (star escapedQuote) (seq (star (one 0x5C)) (one 0x22))

end ValuePattern

open ValuePattern

/-- `"(?:[^"\\]|\\+[^"\\]|(?:\\+")+(?:[^"\\\s#]|\\+[^"\\]))*(?:\\+")*\\*"` -/
def valuePattern : Pattern := seq (one 0x22) (seq (star part) ending)

namespace ValuePattern

/-- The byte behind the backslashes a text starts with, and what follows it. -/
def behind? : Text → Option (UInt8 × Text)
  | 0x5C :: s =>
    match s.dropWhile (· == 0x5C) with
    | [] => none
    | c :: t => some (c, t)
  | _ => none

theorem match?_escaped {q : UInt8 → Bool} (hq : q 0x5C = false) (k : Text → Option Text)
    (s : Text) :
    (seq (plus (one 0x5C)) (byte q)).match? k s =
      (behind? s).bind fun p => if q p.1 then k p.2 else none := by
  rw [match?_seq, plus, match?_seq, one]
  cases s with
  | nil => rw [match?_byte_nil]; rfl
  | cons b s =>
    rw [match?_byte_cons]
    by_cases hb : b = 0x5C
    · subst hb
      have hfails : ∀ b s, (b == 0x5C) = true → (byte q).match? k (b :: s) = none := by
        intro b s hb
        rw [match?_byte_cons, beq_iff_eq.1 hb, hq]
        rfl
      rw [if_pos (by decide), match?_star_byte hfails, behind?]
      cases s.dropWhile (· == 0x5C) with
      | nil => rw [match?_byte_nil]; rfl
      | cons c t => rw [match?_byte_cons]; rfl
    · rw [if_neg (by simpa using hb), behind?]
      · rfl
      · exact fun _ h => hb (List.cons.inj h).1

theorem match?_escapedQuote (k : Text → Option Text) (s : Text) :
    escapedQuote.match? k s = (behind? s).bind fun p => if p.1 == 0x22 then k p.2 else none :=
  match?_escaped (by decide) k s

theorem match?_escapedPlain (k : Text → Option Text) (s : Text) :
    escapedPlain.match? k s = (behind? s).bind fun p => if isPlain p.1 then k p.2 else none :=
  match?_escaped (by decide) k s

theorem consumes_escapedQuote : Consumes escapedQuote := ((consumes_byte _).seq _).seq _

theorem consumes_escapedPlain : Consumes escapedPlain := ((consumes_byte _).seq _).seq _

/-- What the end of the pattern leaves of a text. -/
def ending? : Text → Option Text := ending.match? some

/-- What the pattern leaves of the text behind an opening quote. -/
def rest? : Text → Option Text := (star part).match? ending?

/-- What the pattern leaves behind an escaped quote that the value goes on after. -/
def inside? : Text → Option Text := (star escapedQuote).match? (inner.match? rest?)

/-- The text behind a quote. -/
def behindQuote? : Text → Option Text
  | 0x22 :: s => some s
  | _ => none

theorem match?_quote (k : Text → Option Text) (s : Text) :
    (one 0x22).match? k s = (behindQuote? s).bind k := by
  rw [one]
  cases s with
  | nil => rw [match?_byte_nil]; rfl
  | cons b s =>
    rw [match?_byte_cons]
    by_cases hb : b = 0x22
    · rw [hb]; rfl
    · rw [if_neg (by simpa using hb), behindQuote?]
      · rfl
      · exact fun _ h => hb (List.cons.inj h).1

theorem ending?_eq (s : Text) :
    ending? s = ((behind? s).bind fun p => if p.1 == 0x22 then ending? p.2 else none).or
      (behindQuote? (s.dropWhile (· == 0x5C))) := by
  have hlast : (seq (star (one 0x5C)) (one 0x22)).match? some s =
      behindQuote? (s.dropWhile (· == 0x5C)) := by
    rw [match?_seq, one, match?_star_byte, match?_quote, Option.bind_fun_some]
    intro b s hb
    rw [match?_quote, beq_iff_eq.1 hb]
    rfl
  have hstar : ending? = (star escapedQuote).match?
      ((seq (star (one 0x5C)) (one 0x22)).match? some) := by
    funext s
    rw [ending?, ending, match?_seq]
  rw [hstar, match?_star consumes_escapedQuote, match?_escapedQuote, hlast]

theorem inside?_eq (s : Text) :
    inside? s = ((behind? s).bind fun p => if p.1 == 0x22 then inside? p.2 else none).or
      (((byte isInner).match? rest? s).or
        ((behind? s).bind fun p => if isPlain p.1 then rest? p.2 else none)) := by
  rw [inside?, match?_star consumes_escapedQuote, match?_escapedQuote, inner, match?_alt,
    match?_escapedPlain]

theorem rest?_eq (s : Text) :
    rest? s = (((byte isPlain).match? rest? s).or
      (((behind? s).bind fun p => if isPlain p.1 then rest? p.2 else none).or
        ((behind? s).bind fun p => if p.1 == 0x22 then inside? p.2 else none))).or (ending? s) := by
  have hconsumes : Consumes part :=
    (consumes_byte _).alt (consumes_escapedPlain.alt ((consumes_escapedQuote.seq _).seq _))
  have hmore (k : Text → Option Text) : (seq (plus escapedQuote) inner).match? k s =
      (behind? s).bind fun p =>
        if p.1 == 0x22 then (star escapedQuote).match? (inner.match? k) p.2 else none := by
    rw [match?_seq, plus, match?_seq, match?_escapedQuote]
  rw [rest?, match?_star hconsumes, part, match?_alt, match?_alt, match?_escapedPlain, hmore]
  rfl

/-! ## One pass -/

/-- How a text can start: empty, with a quote, with another byte, or with backslashes in front of
the end, a quote or another byte. -/
inductive Start : Text → Prop where
  | empty : Start []
  | quote (t : Text) : Start (0x22 :: t)
  | plain {c : UInt8} (hc : isPlain c = true) (t : Text) : Start (c :: t)
  | slashes {s : Text} (h : behind? (0x5C :: s) = none) : Start (0x5C :: s)
  | slashesQuote {s t : Text} (h : behind? (0x5C :: s) = some (0x22, t)) : Start (0x5C :: s)
  | slashesPlain {s t : Text} {c : UInt8} (hc : isPlain c = true)
      (h : behind? (0x5C :: s) = some (c, t)) : Start (0x5C :: s)

theorem plain_or (c : UInt8) : c = 0x22 ∨ c = 0x5C ∨ isPlain c = true := by
  by_cases hq : c = 0x22
  · exact .inl hq
  · by_cases hs : c = 0x5C
    · exact .inr (.inl hs)
    · exact .inr (.inr (by simp [isPlain, hq, hs]))

theorem start (s : Text) : Start s := by
  cases s with
  | nil => exact .empty
  | cons c s =>
    rcases plain_or c with rfl | rfl | hc
    · exact .quote s
    · cases h : s.dropWhile (· == 0x5C) with
      | nil => exact .slashes (by rw [behind?, h])
      | cons c t =>
        have hb : behind? (0x5C :: s) = some (c, t) := by rw [behind?, h]
        have hne := List.head?_dropWhile_not (· == 0x5C) s
        rw [h] at hne
        rcases plain_or c with rfl | rfl | hc
        · exact .slashesQuote hb
        · simp at hne
        · exact .slashesPlain hc hb
    · exact .plain hc s

theorem plain_ne {c : UInt8} (hc : isPlain c = true) : c ≠ 0x22 ∧ c ≠ 0x5C := by
  simpa [isPlain] using hc

theorem behind?_plain {c : UInt8} (hc : isPlain c = true) (t : Text) : behind? (c :: t) = none := by
  rw [behind?]
  exact fun _ h => (plain_ne hc).2 (List.cons.inj h).1

theorem behindQuote?_plain {c : UInt8} (hc : isPlain c = true) (t : Text) :
    behindQuote? (c :: t) = none := by
  rw [behindQuote?]
  exact fun _ h => (plain_ne hc).1 (List.cons.inj h).1

theorem behindQuote?_slashes (s : Text) :
    behindQuote? ((0x5C :: s).dropWhile (· == 0x5C)) =
      (behind? (0x5C :: s)).bind fun p => behindQuote? (p.1 :: p.2) := by
  rw [List.dropWhile_cons, if_pos (by decide), behind?]
  cases s.dropWhile (· == 0x5C) with
  | nil => rfl
  | cons c t => rfl

theorem ending?_plain {c : UInt8} (hc : isPlain c = true) (t : Text) : ending? (c :: t) = none := by
  rw [ending?_eq, behind?_plain hc, List.dropWhile_cons, if_neg (by simpa using (plain_ne hc).2),
    behindQuote?_plain hc]
  rfl

theorem ending?_slashes (s : Text) :
    ending? (0x5C :: s) = (behind? (0x5C :: s)).bind fun p =>
      if p.1 == 0x22 then (ending? p.2).or (some p.2) else none := by
  rw [ending?_eq, behindQuote?_slashes]
  cases behind? (0x5C :: s) with
  | none => rfl
  | some p =>
    obtain ⟨c, t⟩ := p
    by_cases hc : c = 0x22
    · subst hc
      rfl
    · have hq : behindQuote? (c :: t) = none := by
        rw [behindQuote?]
        exact fun _ h => hc (List.cons.inj h).1
      simp [hc, hq]

/-- Behind backslashes a plain byte is passed, and a quote belongs to the value if it can. -/
theorem rest?_slashes (s : Text) :
    rest? (0x5C :: s) = (behind? (0x5C :: s)).bind fun p =>
      if p.1 == 0x22 then (inside? p.2).or ((ending? p.2).or (some p.2)) else rest? p.2 := by
  have hbyte : (byte isPlain).match? rest? (0x5C :: s) = none := by
    rw [match?_byte_cons]
    rfl
  rw [rest?_eq, hbyte, ending?_slashes]
  cases start (0x5C :: s) with
  | plain hc => exact absurd hc (by decide)
  | slashes h => simp [h]
  | slashesQuote h => simp [h, isPlain]
  | slashesPlain hc h => simp [h, hc, (plain_ne hc).1]

theorem rest?_plain {c : UInt8} (hc : isPlain c = true) (t : Text) : rest? (c :: t) = rest? t := by
  rw [rest?_eq, match?_byte_cons, behind?_plain hc, ending?_plain hc, if_pos hc]
  simp

theorem inside?_slashes (s : Text) :
    inside? (0x5C :: s) = (behind? (0x5C :: s)).bind fun p =>
      if p.1 == 0x22 then inside? p.2 else rest? p.2 := by
  have hbyte : (byte isInner).match? rest? (0x5C :: s) = none := by
    rw [match?_byte_cons]
    rfl
  rw [inside?_eq, hbyte]
  cases start (0x5C :: s) with
  | plain hc => exact absurd hc (by decide)
  | slashes h => simp [h]
  | slashesQuote h => simp [h, isPlain]
  | slashesPlain hc h => simp [h, hc, (plain_ne hc).1]

theorem rest?_nil : rest? [] = none := by
  rw [rest?_eq, match?_byte_nil, ending?_eq]
  rfl

theorem ending?_quote (t : Text) : ending? (0x22 :: t) = some t := by
  rw [ending?_eq]
  rfl

theorem rest?_quote (t : Text) : rest? (0x22 :: t) = some t := by
  rw [rest?_eq, match?_byte_cons, ending?_quote]
  rfl

/-- Behind an escaped quote the value goes on, unless what follows ends it or nothing closes it
later. -/
theorem escaped_eq (u : Text) :
    (inside? u).or ((ending? u).or (some u)) =
      if endsValue u then some u else (rest? u).or (some u) := by
  have hslash (s : Text) : endsValue (0x5C :: s) = false := rfl
  cases start u with
  | empty =>
    rw [inside?_eq, ending?_eq, match?_byte_nil]
    rfl
  | quote t =>
    rw [inside?_eq, ending?_quote, rest?_quote, match?_byte_cons]
    rfl
  | @plain c hc t =>
    rw [ending?_plain hc, rest?_plain hc, inside?_eq, behind?_plain hc, match?_byte_cons, endsValue,
      isInner, hc]
    cases hspace : isDirectiveSpace c with
    | true => simp
    | false => by_cases hsign : c = 0x23 <;> simp [hsign]
  | slashes h => simp [inside?_slashes, ending?_slashes, rest?_slashes, h]
  | slashesQuote h => simp [inside?_slashes, ending?_slashes, rest?_slashes, h, hslash]
  | slashesPlain hc h =>
    simp [inside?_slashes, ending?_slashes, rest?_slashes, h, hslash, (plain_ne hc).1]

/-- What the reader leaves behind a quoted value. -/
def closed? (s : Text) : Option Text := (closeQuote? s).map Prod.snd

theorem closed?_plain {c : UInt8} (hc : isPlain c = true) (t : Text) :
    closed? (c :: t) = closed? t := by
  obtain ⟨hq, hs⟩ := plain_ne hc
  rw [closed?, closeQuote?]
  · rw [Option.map_map]
    rfl
  · exact hq
  · exact fun _ h _ => hs h

theorem closed?_slashes (s : Text) :
    closed? (0x5C :: s) = (behind? (0x5C :: s)).bind fun p =>
      if p.1 == 0x22 then if endsValue p.2 then some p.2 else (closed? p.2).or (some p.2)
      else closed? p.2 := by
  induction s with
  | nil => rfl
  | cons c t ih =>
    rcases plain_or c with rfl | rfl | hc
    · have hbehind : behind? (0x5C :: 0x22 :: t) = some (0x22, t) := rfl
      simp only [closed?, closeQuote?, hbehind, Option.bind_some, beq_self_eq_true, if_true]
      cases endsValue t with
      | true => rfl
      | false => cases closeQuote? t <;> rfl
    · have hpass : closed? (0x5C :: 0x5C :: t) = closed? (0x5C :: t) := by
        rw [closed?, closeQuote?_backslash (by simp), Option.map_map]
        rfl
      rw [hpass, ih]
      rfl
    · have hne := plain_ne hc
      have hpass : closed? (0x5C :: c :: t) = closed? (c :: t) := by
        rw [closed?, closeQuote?_backslash (by simpa using hne.1), Option.map_map]
        rfl
      rw [hpass, closed?_plain hc, behind?, List.dropWhile_cons, if_neg (by simpa using hne.2)]
      simp [hne.1]

theorem length_behind? {s t : Text} {c : UInt8} (h : behind? s = some (c, t)) :
    t.length < s.length := by
  unfold behind? at h
  split at h
  · next s =>
    have hle := (List.dropWhile_suffix (p := (· == 0x5C)) (l := s)).length_le
    split at h
    · cases h
    · next hs =>
      cases h
      rw [hs, List.length_cons] at hle
      rw [List.length_cons]
      omega
  · cases h

/-- Behind an opening quote the reader leaves what the pattern leaves. -/
theorem rest?_eq_closed? (s : Text) : rest? s = closed? s := by
  induction hn : s.length using Nat.strongRecOn generalizing s with
  | ind n ih =>
    subst hn
    cases start s with
    | empty => exact rest?_nil
    | quote t => exact rest?_quote t
    | plain hc t => rw [rest?_plain hc, closed?_plain hc, ih _ (Nat.lt_succ_self _) t rfl]
    | slashes h => rw [rest?_slashes, closed?_slashes, h]; rfl
    | slashesQuote h =>
      have hlt := length_behind? h
      rw [rest?_slashes, closed?_slashes, h, Option.bind_some, Option.bind_some, escaped_eq,
        ih _ hlt _ rfl]
    | slashesPlain hc h =>
      have hlt := length_behind? h
      rw [rest?_slashes, closed?_slashes, h, Option.bind_some, Option.bind_some, escaped_eq,
        ih _ hlt _ rfl]

end ValuePattern

/-- **A quoted value is what the pattern matches.** -/
theorem valuePattern_first? (s : Text) :
    valuePattern.first? s =
      match s with
      | 0x22 :: s => (closeQuote? s).map Prod.snd
      | _ => none := by
  have hrest : (seq (star part) ending).match? some = rest? := by
    funext t
    rw [match?_seq]
    rfl
  rw [first?, valuePattern, match?_seq, match?_quote, hrest]
  cases start s with
  | empty => rfl
  | quote t => exact rest?_eq_closed? t
  | plain hc t =>
    rw [behindQuote?_plain hc]
    split
    · next h => exact absurd (List.cons.inj h).1 (plain_ne hc).1
    · rfl
  | slashes => rfl
  | slashesQuote => rfl
  | slashesPlain => rfl

end TextTemplate
