/-
Reading a template text into events.

A text region runs to the first `<#` that no backslash stands before, a code region to the first
such `#>`; inside a region a backslash takes the marker's meaning away and is dropped. A directive
holds names, equals signs and quoted values between white space. `Reader.advance` reports one event
and `Reader.run` all of them; every report but the last consumes a byte, so reading ends.
-/
import TextTemplate.Template.Event

namespace TextTemplate

/-! ## Regions -/

/-- A stretch of text up to a marker: as it stands, with its escapes resolved, and what follows
(which starts with the marker, unless the text ended). -/
structure Region where
  raw : Text
  value : Text
  rest : Text
  deriving DecidableEq, Repr

namespace Region

/-- The region in front of the first marker `a b` without a backslash before it; `escaped` says
that such a backslash has just been passed. -/
def before (a b : UInt8) (escaped : Bool) : Text → Region
  | [] => ⟨[], [], []⟩
  | c :: s =>
    if !escaped && [a, b].isPrefixOf (c :: s) then ⟨[], [], c :: s⟩
    else if c == 0x5C && [a, b].isPrefixOf s then
      let r := before a b true s
      ⟨c :: r.raw, r.value, r.rest⟩
    else
      let r := before a b false s
      ⟨c :: r.raw, c :: r.value, r.rest⟩

/-- The text in front of the next tag. -/
def ofText (s : Text) : Region := before 0x3C 0x23 false s

/-- The code in front of the next tag end. -/
def ofCode (s : Text) : Region := before 0x23 0x3E false s

/-- A region is a piece of the text it was read from. -/
theorem raw_append_rest (a b : UInt8) (escaped : Bool) (s : Text) :
    (before a b escaped s).raw ++ (before a b escaped s).rest = s := by
  induction s generalizing escaped with
  | nil => rfl
  | cons c s ih =>
    rw [before]
    split
    · rfl
    · split <;> simp [ih]

theorem length_rest_le (a b : UInt8) (escaped : Bool) (s : Text) :
    (before a b escaped s).rest.length ≤ s.length := by
  have h := congrArg List.length (raw_append_rest a b escaped s)
  simp only [List.length_append] at h
  omega

/-- A region that does not start at a marker is not empty. -/
theorem length_rest_lt (a b c : UInt8) (s : Text) (h : [a, b].isPrefixOf (c :: s) = false) :
    (before a b false (c :: s)).rest.length < (c :: s).length := by
  rw [before, h]
  simp only [Bool.not_false, Bool.and_false, Bool.false_eq_true, if_false]
  split
  · exact Nat.lt_succ_of_le (length_rest_le a b true s)
  · exact Nat.lt_succ_of_le (length_rest_le a b false s)

end Region

/-! ## Directive tokens -/

/-- White space between the parts of a directive. -/
def isDirectiveSpace (b : UInt8) : Bool :=
  b == 0x20 || b == 0x09 || b == 0x0A || b == 0x0C || b == 0x0D

/-- A byte that can start a name. -/
def isNameStart (b : UInt8) : Bool :=
  (0x41 ≤ b && b ≤ 0x5A) || (0x61 ≤ b && b ≤ 0x7A) || b == 0x5F

/-- A byte that can stand inside a name. -/
def isNamePart (b : UInt8) : Bool :=
  isNameStart b || (0x30 ≤ b && b ≤ 0x39) || b == 0x2E || b == 0x2D

/-- Whether a quote that a backslash stands before ends the value all the same: white space, a
number sign or the end of the text follows it. -/
def endsValue : Text → Bool
  | [] => true
  | b :: _ => isDirectiveSpace b || b == 0x23

/-- Splits a text behind an opening quote into the value up to its closing quote and the rest. A
quote behind a backslash belongs to the value, unless what follows ends the value or no other quote
closes it. -/
def closeQuote? : Text → Option (Text × Text)
  | [] => none
  | 0x22 :: s => some ([], s)
  | 0x5C :: 0x22 :: s =>
    if endsValue s then some ([0x5C], s)
    else match closeQuote? s with
      | some (value, rest) => some (0x5C :: 0x22 :: value, rest)
      | none => some ([0x5C], s)
  | b :: s => (closeQuote? s).map fun (value, rest) => (b :: value, rest)

theorem closeQuote?_eq_append {s value rest : Text} (h : closeQuote? s = some (value, rest)) :
    value ++ 0x22 :: rest = s := by
  fun_induction closeQuote? s generalizing value rest <;> grind [Option.map_eq_some_iff]

/-- The parts of a directive tag. -/
inductive DirectiveToken where
  | close
  | name (text : Text)
  | equals
  | value (inner : Text)
  deriving DecidableEq, Repr

namespace DirectiveToken

/-- The text of a part. -/
def raw : DirectiveToken → Text
  | close => [0x23, 0x3E]
  | name text => text
  | equals => [0x3D]
  | value inner => 0x22 :: inner ++ [0x22]

/-- The part a text without white space at its start begins with, and the rest. -/
def next? : Text → Option (DirectiveToken × Text)
  | [] => none
  | 0x23 :: 0x3E :: s => some (close, s)
  | b :: s =>
    if isNameStart b then some (name (b :: s.takeWhile isNamePart), s.dropWhile isNamePart)
    else if b = 0x3D then some (equals, s)
    else if b = 0x22 then (closeQuote? s).map fun (inner, rest) => (value inner, rest)
    else none

theorem next?_eq_append {s : Text} {t : DirectiveToken} {rest : Text}
    (h : next? s = some (t, rest)) : t.raw ++ rest = s := by
  unfold next? at h
  split at h
  · simp at h
  · simp only [Option.some.injEq, Prod.mk.injEq] at h
    obtain ⟨rfl, rfl⟩ := h
    rfl
  · rename_i b s _
    split at h
    · simp only [Option.some.injEq, Prod.mk.injEq] at h
      obtain ⟨rfl, rfl⟩ := h
      simp [raw, List.takeWhile_append_dropWhile]
    · split at h
      · simp only [Option.some.injEq, Prod.mk.injEq] at h
        obtain ⟨rfl, rfl⟩ := h
        simp [raw, *]
      · split at h
        · simp only [Option.map_eq_some_iff, Prod.mk.injEq] at h
          obtain ⟨⟨inner, r⟩, hc, rfl, rfl⟩ := h
          have := closeQuote?_eq_append hc
          simp [raw, *]
        · simp at h

theorem length_raw_pos {s : Text} {t : DirectiveToken} {rest : Text}
    (h : next? s = some (t, rest)) : 0 < t.raw.length := by
  unfold next? at h
  split at h <;> grind [raw, Option.map_eq_some_iff]

end DirectiveToken

/-- The text of a quoted value: a backslash before a quote is dropped. -/
def unquoteValue (inner : Text) : Text := Text.replace [0x5C, 0x22] [0x22] inner

/-- A text without the line break it starts with, if it starts with one. -/
def dropLineBreak? : Text → Option Text
  | 0x0D :: 0x0A :: s => some s
  | 0x0A :: s => some s
  | 0x0D :: s => some s
  | _ => none

/-! ## The reader -/

/-- A reader in the middle of a text: what is left, the place it starts at (only LF breaks lines
there), the last report, and what the reader remembers of directives: whether it is inside one,
where that one opened, and whether one has just closed. -/
structure Reader where
  rest : Text
  position : Location
  last : Event
  inDirective : Bool
  opened : Location
  afterDirective : Bool
  deriving DecidableEq, Repr

namespace Reader

/-- A reader at the start of a file. -/
def ofFile (file content : Text) : Reader :=
  let start := Location.start file
  ⟨content, start, ⟨.content, [], start, start, start⟩, false, start, false⟩

/-- Reports a code tag of the given kind, whose opening marker has `width` bytes. -/
def readCode (r : Reader) (kind : EventKind) (width : Nat) (code : Text) :
    Except ScanError Reader :=
  let codeStart := r.position.addCols (Int64.ofNat width)
  let region := Region.ofCode code
  match region.rest with
  | [] => .error ⟨r.position, .unclosedTag kind⟩
  | _ :: rest =>
    let tagEnd := (codeStart.advanceLines region.raw).addCols 2
    .ok { r with
      rest := rest.drop 1
      position := tagEnd
      last := ⟨kind, region.value, codeStart, r.position, tagEnd⟩
      afterDirective := false }

/-- Reports the text up to the next tag. Behind a directive its first line break belongs to the
directive. -/
def readContent (r : Reader) : Reader :=
  let region := Region.ofText r.rest
  let tagEnd := r.position.advance region.raw
  let (start, value) :=
    match r.afterDirective, dropLineBreak? region.value with
    | true, some value => (r.position.addLine, value)
    | _, _ => (r.position, region.value)
  { r with
    rest := region.rest
    position := r.position.advanceLines region.raw
    last := ⟨.content, value, start, start, tagEnd⟩
    afterDirective := false }

/-- The next report outside directives. -/
def advanceText (r : Reader) : Except ScanError Reader :=
  match r.rest with
  | [] => .ok { r with last := ⟨.eof, [], r.position, r.position, r.position⟩ }
  | 0x3C :: 0x23 :: 0x40 :: s =>
    let inside := r.position.addCols 3
    .ok { r with
      rest := s
      position := inside
      last := { r.last with
        kind := .directive, value := [], location := inside, tagStart := r.position }
      inDirective := true
      opened := r.position }
  | 0x3C :: 0x23 :: 0x3D :: s => r.readCode .expression 3 s
  | 0x3C :: 0x23 :: 0x2B :: s => r.readCode .helper 3 s
  | 0x3C :: 0x23 :: s => r.readCode .block 2 s
  | _ => .ok r.readContent

/-- The reader behind the white space it stands at. -/
def skipSpace (r : Reader) : Reader :=
  { r with
    rest := r.rest.dropWhile isDirectiveSpace
    position := r.position.advanceLines (r.rest.takeWhile isDirectiveSpace) }

/-- The part of a directive the reader stands at and the reader behind it; nothing when the text
ends there. -/
def nextToken (r : Reader) : Except ScanError (Option (DirectiveToken × Reader)) :=
  if r.rest.isEmpty then .ok none
  else match DirectiveToken.next? r.rest with
    | none => .error ⟨r.position, .invalidInput r.rest⟩
    | some (t, rest) =>
      .ok (some (t, { r with rest := rest, position := r.position.advanceLines t.raw }))

/-- The next report inside a directive. -/
def advanceDirective (r : Reader) : Except ScanError Reader :=
  let here := r.skipSpace
  match here.nextToken with
  | .error e => .error e
  | .ok none => .error ⟨r.opened, .unclosedDirective⟩
  | .ok (some (.close, behind)) =>
    .ok { behind with
      last := ⟨.directive, [], here.position, r.opened, here.position.addCols 2⟩
      inDirective := false
      afterDirective := true }
  | .ok (some (.name text, behind)) =>
    .ok { behind with
      last := { r.last with kind := .directiveName, value := text, location := here.position } }
  | .ok (some (.equals, behind)) =>
    let there := behind.skipSpace
    match there.nextToken with
    | .error e => .error e
    | .ok (some (.value inner, after)) =>
      .ok { after with
        last := { r.last with
          kind := .directiveValue, value := unquoteValue inner,
          location := there.position.addCol } }
    | .ok _ => .error ⟨there.position, .expectedValue⟩
  | .ok (some (.value _, _)) => .error ⟨here.position, .expectedEquals⟩

/-- The reader after its next report. A reader at the end of its text stays there. -/
def advance (r : Reader) : Except ScanError Reader :=
  if r.last.kind = .eof then .ok r
  else if r.inDirective then r.advanceDirective
  else r.advanceText

/-! ## All reports -/

/-- A bound on the reports to come. -/
def size (r : Reader) : Nat := r.rest.length + if r.last.kind = .eof then 0 else 1

theorem length_skipSpace_le (r : Reader) : r.skipSpace.rest.length ≤ r.rest.length := by
  have h := congrArg List.length (List.takeWhile_append_dropWhile (p := isDirectiveSpace) (l := r.rest))
  simp only [List.length_append] at h
  simp only [skipSpace]
  omega

theorem length_nextToken_lt {r behind : Reader} {t : DirectiveToken}
    (h : r.nextToken = .ok (some (t, behind))) : behind.rest.length < r.rest.length := by
  unfold nextToken at h
  split at h
  · simp at h
  · split at h
    · simp at h
    · rename_i t' rest ht
      simp only [Except.ok.injEq, Option.some.injEq, Prod.mk.injEq] at h
      obtain ⟨rfl, rfl⟩ := h
      have h1 := congrArg List.length (DirectiveToken.next?_eq_append ht)
      have h2 := DirectiveToken.length_raw_pos ht
      simp only [List.length_append] at h1
      simp only
      omega

theorem advanceDirective_lt {r r' : Reader} (h : r.advanceDirective = .ok r') :
    r'.rest.length < r.rest.length := by
  have hs := r.length_skipSpace_le
  unfold advanceDirective at h
  simp only at h
  split at h
  · simp at h
  · simp at h
  · rename_i behind hn
    have := length_nextToken_lt hn
    simp only [Except.ok.injEq] at h
    subst h
    simp only
    omega
  · rename_i text behind hn
    have := length_nextToken_lt hn
    simp only [Except.ok.injEq] at h
    subst h
    simp only
    omega
  · rename_i behind hn
    have h1 := length_nextToken_lt hn
    have h2 := behind.length_skipSpace_le
    split at h
    · simp at h
    · rename_i inner after hv
      have h3 := length_nextToken_lt hv
      simp only [Except.ok.injEq] at h
      subst h
      simp only
      omega
    · simp at h
  · simp at h

theorem readCode_lt {r r' : Reader} {kind : EventKind} {width : Nat} {code : Text}
    (h : r.readCode kind width code = .ok r') : r'.rest.length < code.length := by
  unfold readCode at h
  simp only at h
  have hl := Region.length_rest_le 0x23 0x3E false code
  split at h
  · simp at h
  · rename_i rest hr
    simp only [Except.ok.injEq] at h
    subst h
    simp only [Region.ofCode] at hr
    rw [hr] at hl
    simp only [List.length_cons, List.length_drop] at hl ⊢
    omega

theorem advanceText_lt {r r' : Reader} (h : r.advanceText = .ok r') :
    r'.rest.length < r.rest.length ∨ (r'.rest = r.rest ∧ r'.last.kind = .eof) := by
  unfold advanceText at h
  split at h
  · simp only [Except.ok.injEq] at h
    subst h
    exact .inr ⟨rfl, rfl⟩
  · rename_i s hr
    simp only [Except.ok.injEq] at h
    subst h
    left
    simp only [hr, List.length_cons]
    omega
  · rename_i s hr
    have := readCode_lt h
    left
    simp only [hr, List.length_cons]
    omega
  · rename_i s hr
    have := readCode_lt h
    left
    simp only [hr, List.length_cons]
    omega
  · rename_i s _ _ _ hr
    have := readCode_lt h
    left
    simp only [hr, List.length_cons]
    omega
  · rename_i hnil _ _ _ hblock
    simp only [Except.ok.injEq] at h
    subst h
    left
    match hr : r.rest with
    | [] => exact absurd hr hnil
    | c :: s =>
      have hm : [0x3C, 0x23].isPrefixOf (c :: s) = false := by
        match s with
        | [] => simp [List.isPrefixOf]
        | d :: t =>
          simp only [List.isPrefixOf, Bool.and_true, Bool.and_eq_false_iff, beq_eq_false_iff_ne]
          by_cases hc : c = 0x3C
          · by_cases hd : d = 0x23
            · subst hc hd
              exact absurd hr (hblock t)
            · exact .inr (Ne.symm hd)
          · exact .inl (Ne.symm hc)
      have := Region.length_rest_lt 0x3C 0x23 c s hm
      simpa [readContent, hr, Region.ofText] using this

theorem advance_size_lt {r r' : Reader} (hk : r.last.kind ≠ .eof) (h : r.advance = .ok r') :
    r'.size < r.size := by
  unfold advance at h
  rw [if_neg hk] at h
  unfold size
  rw [if_neg hk]
  split at h
  · have := advanceDirective_lt h
    split <;> omega
  · rcases advanceText_lt h with h' | ⟨h1, h2⟩
    · split <;> omega
    · rw [if_pos h2, h1]
      omega

/-- All reports from here to the end of the text, and the fault that cut them short, if any. -/
def run (r : Reader) : List Event × Option ScanError :=
  if _hk : r.last.kind = .eof then ([], none)
  else match _h : r.advance with
    | .error e => ([], some e)
    | .ok r' =>
      let (events, fault) := r'.run
      (r'.last :: events, fault)
termination_by r.size
decreasing_by exact advance_size_lt _hk _h

end Reader

/-- The events of a file's text, and the fault that cut them short, if any. -/
def scan (file content : Text) : List Event × Option ScanError := (Reader.ofFile file content).run

end TextTemplate
