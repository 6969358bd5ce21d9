/-
Reading scalars. Plain scalars end at a comment, at a colon before a gap, in flow at a comma or
bracket, and in blocks at a line that is not indented deeper than the block; single and double
quoted ones at their quote. In all three a line break counts as a space and empty lines as line
breaks. Block scalars take the lines indented below their header, as they are or folded.
-/
import TextTemplate.Settings.Version
import TextTemplate.Yaml.Cursor

namespace TextTemplate.Yaml

/-! ## Gaps -/

/-- Blanks and breaks inside a scalar: the blanks before the first break, that break unless it was
escaped, and those behind it. -/
structure Gap where
  blanks : List Nat
  /-- Whether there is a break. -/
  broken : Bool
  first : Option Nat
  more : List Nat
  deriving DecidableEq, Repr

namespace Gap

def none : Gap := ⟨[], false, .none, []⟩

/-- The gap behind an escaped break. -/
def joined : Gap := ⟨[], true, .none, []⟩

/-- What a gap stands for: one line feed is a space, a separator is kept. -/
def folded (g : Gap) : List Nat :=
  if !g.broken then g.blanks
  else match g.first with
    | some 0x0A => if g.more.isEmpty then [0x20] else g.more
    | some c => c :: g.more
    | .none => g.more

end Gap

/-- Reads blanks and breaks behind those of `g`. A tab that stands for indentation is refused. -/
def readGap (indent : Nat) : (fuel : Nat) → Gap → Cursor → Option (Gap × Cursor)
  | 0, g, s => some (g, s)
  | fuel + 1, g, s =>
    match s.ahead with
    | [] => some (g, s)
    | c :: _ =>
      if isBreak c then
        if g.broken then readGap indent fuel { g with more := g.more ++ [c] } s.next
        else readGap indent fuel ⟨[], true, some c, []⟩ s.next
      else if isBlank c then
        if !g.broken then readGap indent fuel { g with blanks := g.blanks ++ [c] } s.next
        else if c = 0x09 && s.column < indent then none
        else readGap indent fuel g s.next
      else some (g, s)

/-! ## Plain scalars -/

/-- The characters of a plain scalar up to the next gap or end. -/
def plainRun (flow : Bool) : List Nat → List Nat
  | [] => []
  | c :: s =>
    if isBlank c || isBreak c then []
    else if c == 0x3A && atGap s then []
    else if flow && [0x2C, 0x3F, 0x5B, 0x5D, 0x7B, 0x7D].contains c then []
    else c :: plainRun flow s

/-- Reads a plain scalar on behind a gap, and tells whether it ends behind a line break. -/
def readPlain (flow : Bool) (indent : Nat) : (fuel : Nat) → Gap → Cursor →
    Option (List Nat × Bool × Cursor)
  | 0, g, s => some ([], g.broken, s)
  | fuel + 1, g, s =>
    if s.atMark || s.ahead.head? = some 0x23 then some ([], g.broken, s)
    else
      let run := plainRun flow s.ahead
      let (text, g) := if run.isEmpty then ([], g) else (g.folded ++ run, Gap.none)
      let s := s.skip run.length
      if s.ahead.isEmpty || !atGap s.ahead then some (text, g.broken, s)
      else do
        let (g, s) ← readGap indent (s.ahead.length + 1) g s
        if !flow && s.column < indent then return (text, g.broken, s)
        else
          let (rest, broken, s) ← readPlain flow indent fuel g s
          return (text ++ rest, broken, s)

/-- Whether a plain scalar may start with these characters. -/
def startsPlain (flow : Bool) : List Nat → Bool
  | [] => false
  | c :: s =>
    if c == 0x2D then !(s.head?.any isBlank)
    else if c == 0x3F || c == 0x3A then !flow && !atGap s
    else !atGap [c] && !((utf8 ",[]\x7b\x7d#&*!|>'\"%@\u0060").map UInt8.toNat).contains c

/-! ## Quotes -/

/-- The value of hexadecimal digits. -/
def hexValue? (s : List Nat) : Option Nat :=
  s.foldl (fun n c => n.bind fun n =>
    (if c < 0x80 then Numeral.digit? true c.toUInt8 else none).map fun d => n * 16 + d) (some 0)

/-- The character an escape stands for, and how many characters are behind the backslash. -/
def escape? : List Nat → Option (Nat × Nat)
  | [] => none
  | c :: s =>
    let simple := [(0x30, 0x00), (0x61, 0x07), (0x62, 0x08), (0x74, 0x09), (0x09, 0x09), (0x6E, 0x0A),
      (0x76, 0x0B), (0x66, 0x0C), (0x72, 0x0D), (0x65, 0x1B), (0x20, 0x20), (0x22, 0x22),
      (0x27, 0x27), (0x2F, 0x2F), (0x5C, 0x5C), (0x4E, 0x85), (0x5F, 0xA0), (0x4C, 0x2028),
      (0x50, 0x2029)]
    match simple.find? (·.1 == c) with
    | some (_, code) => some (code, 1)
    | none =>
      let width := if c = 0x78 then 2 else if c = 0x75 then 4 else if c = 0x55 then 8 else 0
      let digits := s.take width
      if width = 0 || digits.length < width then none
      else (hexValue? digits).bind fun code =>
        if (0xD800 ≤ code && code ≤ 0xDFFF) || code > 0x10FFFF then none else some (code, width + 1)

/-- Reads a quoted scalar behind its opening quote. A backslash before a line break joins the
lines. -/
def readQuoted (isDouble : Bool) : (fuel : Nat) → Cursor → Option (List Nat × Cursor)
  | 0, _ => none
  | fuel + 1, s =>
    if s.atMark then none
    else
      let go (here : List Nat) (s : Cursor) : Option (List Nat × Cursor) :=
        (readQuoted isDouble fuel s).map fun (rest, s) => (here ++ rest, s)
      let goGap (g : Gap) (s : Cursor) : Option (List Nat × Cursor) :=
        (readGap 0 (s.ahead.length + 1) g s).bind fun (g, s) => go g.folded s
      match s.ahead with
      | [] => none
      | 0x27 :: 0x27 :: _ => if isDouble then go [0x27] s.next else go [0x27] (s.skip 2)
      | 0x27 :: _ => if isDouble then go [0x27] s.next else some ([], s.next)
      | 0x22 :: _ => if isDouble then some ([], s.next) else go [0x22] s.next
      | 0x5C :: rest =>
        if !isDouble then go [0x5C] s.next
        else if rest.head?.any isBreak then
          let s := s.skip 2
          if s.ahead.head? = some 0x22 then some ([], s.next) else goGap .joined s
        else (escape? rest).bind fun (code, width) => go [code] (s.skip (width + 1))
      | c :: _ => if isBlank c || isBreak c then goGap .none s else go [c] s.next

/-! ## Block scalars -/

/-- Drops spaces up to a column, and collects the line breaks passed; the greatest column reached on
the way tells the indentation when it is not known. -/
def blockBreaks (indent : Option Nat) : (fuel : Nat) → (breaks : List Nat) → (deepest : Nat) →
    Cursor → Option (List Nat × Nat × Cursor)
  | 0, breaks, deepest, s => some (breaks, deepest, s)
  | fuel + 1, breaks, deepest, s =>
    let spaces := s.ahead.takeWhile (· == 0x20)
    let s := s.skip (match indent with
      | some n => min spaces.length (n - s.column)
      | none => spaces.length)
    let deepest := max deepest s.column
    if s.ahead.head? = some 0x09 && indent.all (s.column < ·) then none
    else match s.ahead with
      | c :: _ =>
        if isBreak c then blockBreaks indent fuel (breaks ++ [c]) deepest s.next
        else some (breaks, deepest, s)
      | [] => some (breaks, deepest, s)

/-- What has been read of a block scalar. -/
structure BlockText where
  lines : List Nat
  /-- The break behind the last line. -/
  ending : List Nat
  /-- The empty lines behind it. -/
  breaks : List Nat
  /-- The last line started with a blank. -/
  indented : Bool

/-- Reads the lines of a block scalar. -/
def readBlockLines (literal : Bool) (indent : Nat) : (fuel : Nat) → BlockText → Cursor →
    Option (BlockText × Cursor)
  | 0, b, s => some (b, s)
  | fuel + 1, b, s =>
    if s.column != indent || s.ahead.isEmpty then some (b, s)
    else do
      let blank := s.ahead.head?.any isBlank
      let joint :=
        if !literal && !b.indented && !blank && b.ending == [0x0A] then
          if b.breaks.isEmpty then [0x20] else []
        else b.ending
      let run := s.ahead.takeWhile (!isBreak ·)
      let lines := b.lines ++ joint ++ b.breaks ++ run
      let s := s.skip run.length
      let ending := s.ahead.take 1
      let (breaks, _, s) ← blockBreaks (some indent) (s.ahead.length + 1) [] 0 s.next
      readBlockLines literal indent fuel ⟨lines, ending, breaks, blank⟩ s

/-- Reads a block scalar behind the mark that opens it; `parent` is the column of the block it is
in, one more than which it is indented at least. -/
def readBlockScalar (literal : Bool) (parent : Int) (s : Cursor) : Option (List Nat × Cursor) := do
  let isSign (c : Nat) : Bool := c == 0x2B || c == 0x2D
  let isDigit (c : Nat) : Bool := 0x30 ≤ c && c ≤ 0x39
  let header := (s.ahead.takeWhile fun c => isSign c || isDigit c).take 2
  let signs := header.filter isSign
  let digits := header.filter isDigit
  if signs.length > 1 || digits.length > 1 || digits == [0x30] then none
  let s := (s.skip header.length).skipWhile isBlank
  let s := if s.ahead.head? = some 0x23 then s.skipLine else s
  if !s.atLineEnd then none
  let fixed := digits.head?.map fun d => (max parent 0).toNat + (d - 0x30)
  let (breaks, deepest, s) ← blockBreaks fixed (s.ahead.length + 1) [] 0 s.next
  let indent := fixed.getD (max (max deepest (parent + 1).toNat) 1)
  let (b, s) ← readBlockLines literal indent (s.ahead.length + 1) ⟨[], [], breaks, false⟩ s
  let tail := if signs = [0x2D] then [] else b.ending
  let kept := if signs = [0x2B] then b.breaks else []
  return (b.lines ++ tail ++ kept, s)

end TextTemplate.Yaml
