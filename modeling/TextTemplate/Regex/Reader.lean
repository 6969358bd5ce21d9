/-
The notation of regular expressions: characters, `.`, sets in brackets, escapes, groups,
alternatives, and the repetitions `*`, `+`, `?` and `{n,m}`. The reader keeps the open groups on a
stack, so it walks over the notation once from left to right.
-/
import TextTemplate.Regex.Basic

namespace TextTemplate.Regex

/-- What the marks `i`, `m` and `s` of a group switch on. -/
structure Modes where
  anyCase : Bool
  perLine : Bool
  dotAll : Bool
  deriving DecidableEq, Repr

def Modes.standard : Modes := ⟨false, false, false⟩

/-! ## Escapes -/

def isDigit (c : Nat) : Bool := 0x30 ≤ c && c ≤ 0x39

def isOctal (c : Nat) : Bool := 0x30 ≤ c && c ≤ 0x37

def isLetter (c : Nat) : Bool := (0x41 ≤ c && c ≤ 0x5A) || (0x61 ≤ c && c ≤ 0x7A)

/-- The value of a hexadecimal digit. -/
def hexDigit? (c : Nat) : Option Nat :=
  if isDigit c then some (c - 0x30)
  else if 0x41 ≤ c && c ≤ 0x46 then some (c - 0x37)
  else if 0x61 ≤ c && c ≤ 0x66 then some (c - 0x57)
  else none

/-- The number of a list of hexadecimal digits, if it is a code point. -/
def hexCode? (digits : List Nat) : Option Nat :=
  if digits.isEmpty then none
  else (digits.foldl (fun n d => do
    let n ← n
    let d ← hexDigit? d
    return n * 16 + d) (some 0)).filter (· ≤ 0x10FFFF)

/-- The code point an escape stands for, after its backslash. -/
def readEscape? : List Nat → Option (Nat × List Nat)
  | [] => none
  | 0x78 :: 0x7B :: s => do
    let digits := s.takeWhile (· != 0x7D)
    let code ← hexCode? digits
    match s.drop digits.length with
    | _ :: s => return (code, s)
    | [] => none
  | 0x78 :: a :: b :: s => (hexCode? [a, b]).map fun code => (code, s)
  | 0x61 :: s => some (0x07, s)
  | 0x66 :: s => some (0x0C, s)
  | 0x6E :: s => some (0x0A, s)
  | 0x72 :: s => some (0x0D, s)
  | 0x74 :: s => some (0x09, s)
  | 0x76 :: s => some (0x0B, s)
  | c :: s =>
    if isOctal c then
      let more := (s.take 2).takeWhile isOctal
      if c != 0x30 && more.isEmpty then none
      else some ((c :: more).foldl (fun n d => n * 8 + (d - 0x30)) 0, s.drop more.length)
    else if c < 0x80 && !isDigit c && !isLetter c then some (c, s)
    else none

def digitRanges : List (Nat × Nat) := [(0x30, 0x39)]

def blankRanges : List (Nat × Nat) := [(0x09, 0x0A), (0x0C, 0x0D), (0x20, 0x20)]

def wordRanges : List (Nat × Nat) := [(0x30, 0x39), (0x41, 0x5A), (0x5F, 0x5F), (0x61, 0x7A)]

/-- What lies between ranges that are in order and do not touch. -/
def gaps (low : Nat) : List (Nat × Nat) → List (Nat × Nat)
  | [] => [(low, 0x10FFFF)]
  | (lo, hi) :: rs => if low < lo then (low, lo - 1) :: gaps (hi + 1) rs else gaps (hi + 1) rs

/-- The set a letter after a backslash stands for. -/
def classOf? (letter : Nat) : Option (List (Nat × Nat)) :=
  if letter = 0x64 then some digitRanges
  else if letter = 0x73 then some blankRanges
  else if letter = 0x77 then some wordRanges
  else if letter = 0x44 then some (gaps 0 digitRanges)
  else if letter = 0x53 then some (gaps 0 blankRanges)
  else if letter = 0x57 then some (gaps 0 wordRanges)
  else none

/-! ## Sets in brackets -/

/-- The sets that have names in brackets. -/
def namedSets : List (String × List (Nat × Nat)) :=
  [("alnum", [(0x30, 0x39), (0x41, 0x5A), (0x61, 0x7A)]), ("alpha", [(0x41, 0x5A), (0x61, 0x7A)]),
    ("ascii", [(0, 0x7F)]), ("blank", [(0x09, 0x09), (0x20, 0x20)]), ("cntrl", [(0, 0x1F), (0x7F, 0x7F)]),
    ("digit", digitRanges), ("graph", [(0x21, 0x7E)]), ("lower", [(0x61, 0x7A)]),
    ("print", [(0x20, 0x7E)]), ("punct", [(0x21, 0x2F), (0x3A, 0x40), (0x5B, 0x60), (0x7B, 0x7E)]),
    ("space", [(0x09, 0x0D), (0x20, 0x20)]), ("upper", [(0x41, 0x5A)]), ("word", wordRanges),
    ("xdigit", [(0x30, 0x39), (0x41, 0x46), (0x61, 0x66)])]

/-- The text before a colon and a bracket, and what follows them. -/
def toColonBracket? : List Nat → Option (List Nat × List Nat)
  | [] => none
  | 0x3A :: 0x5D :: s => some ([], s)
  | c :: s => (toColonBracket? s).map fun (here, rest) => (c :: here, rest)

/-- The ranges of the set with a name, which may be taken as its complement. -/
def namedSet? : List Nat → Option (List (Nat × Nat))
  | 0x5E :: name => (namedSet? name).map (gaps 0)
  | name => (namedSets.find? fun (n, _) => n.toList.map Char.toNat == name).map Prod.snd

/-- One character of a set, perhaps escaped. -/
def readMember? : List Nat → Option (Nat × List Nat)
  | [] => none
  | 0x5C :: s => readEscape? s
  | c :: s => some (c, s)

/-- The ranges of a set up to its closing bracket, which is a member when it comes first. -/
def readRanges? : (fuel : Nat) → (isFirst : Bool) → List Nat → Option (List (Nat × Nat) × List Nat)
  | 0, _, _ => none
  | fuel + 1, isFirst, s =>
    let more (ranges : List (Nat × Nat)) (s : List Nat) : Option (List (Nat × Nat) × List Nat) :=
      (readRanges? fuel false s).map fun (rs, t) => (ranges ++ rs, t)
    let member : Option (List (Nat × Nat) × List Nat) := do
      let (lo, s) ← readMember? s
      match s with
      | 0x2D :: hi :: s =>
        if hi = 0x5D then more [(lo, lo)] (0x2D :: hi :: s)
        else do
          let (hi, s) ← readMember? (hi :: s)
          if hi < lo then none else more [(lo, hi)] s
      | s => more [(lo, lo)] s
    match s with
    | 0x5D :: rest => if isFirst then member else some ([], rest)
    | 0x5B :: 0x3A :: rest =>
      match toColonBracket? rest with
      | some (name, rest) => do more (← namedSet? name) rest
      | none => member
    | 0x5C :: letter :: rest =>
      match classOf? letter with
      | some ranges => more ranges rest
      | none => member
    | _ => member

/-- The set after an opening bracket, and what follows it. -/
def readSet? (anyCase : Bool) (s : List Nat) : Option (CharSet × List Nat) :=
  let (complement, body) := match s with
    | 0x5E :: s => (true, s)
    | s => (false, s)
  (readRanges? (body.length + 1) true body).map fun (ranges, rest) =>
    (⟨complement, ranges, anyCase⟩, rest)

/-! ## Repetitions -/

/-- The most a repetition may ask for. -/
def timesLimit : Nat := 1000

/-- A number without needless zeros. -/
def readCount? (s : List Nat) : Option (Nat × List Nat) :=
  let digits := s.takeWhile isDigit
  if digits.isEmpty || (digits.length > 1 && digits.head? == some 0x30) then none
  else some (digits.foldl (fun n d => n * 10 + (d - 0x30)) 0, s.drop digits.length)

/-- The bounds of a repetition after its opening brace; none when there is no repetition. -/
def readBounds? (s : List Nat) : Option ((Nat × Option Nat) × List Nat) := do
  let (low, s) ← readCount? s
  match s with
  | 0x7D :: s => return ((low, some low), s)
  | 0x2C :: 0x7D :: s => return ((low, none), s)
  | 0x2C :: s =>
    let (high, s) ← readCount? s
    match s with
    | 0x7D :: s => return ((low, some high), s)
    | _ => none
  | _ => none

/-- Whether the bounds of a repetition are in order and small enough. -/
def boundsAllowed : Nat × Option Nat → Bool
  | (low, none) => low ≤ timesLimit
  | (low, some high) => low ≤ high && high ≤ timesLimit

/-! ## Expressions -/

/-- A group while it is read: its finished alternatives, the parts of the current one, last first,
and the modes around it. -/
structure Group where
  finished : List Regex
  parts : List Regex
  outside : Modes

namespace Group

def opened (outside : Modes) : Group := ⟨[], [], outside⟩

def push (g : Group) (r : Regex) : Group := { g with parts := r :: g.parts }

/-- Starts another alternative. -/
def next (g : Group) : Group := { g with finished := seqs g.parts.reverse :: g.finished, parts := [] }

/-- The expression of all alternatives. -/
def whole (g : Group) : Regex := g.finished.foldl (fun r a => alt a r) (seqs g.parts.reverse)

end Group

/-- The modes that letters switch, up to a colon or a closing parenthesis; those after a minus are
switched off. The result tells whether a group starts. -/
def readModes? (on : Bool) (modes : Modes) : List Nat → Option (Modes × Bool × List Nat)
  | [] => none
  | c :: s =>
    if c = 0x69 then readModes? on { modes with anyCase := on } s
    else if c = 0x6D then readModes? on { modes with perLine := on } s
    else if c = 0x73 then readModes? on { modes with dotAll := on } s
    else if c = 0x55 then readModes? on modes s
    else if c = 0x2D && on && s.head? != some 0x29 && s.head? != some 0x3A then
      readModes? false modes s
    else if c = 0x3A then some (modes, true, s)
    else if c = 0x29 then some (modes, false, s)
    else none

/-- Any characters up to `\E` or the end. -/
def toQuoteEnd : List Nat → List Nat × List Nat
  | [] => ([], [])
  | 0x5C :: 0x45 :: s => ([], s)
  | c :: s => (c :: (toQuoteEnd s).1, (toQuoteEnd s).2)

/-- Reads an expression; `outer` are the groups around the current one, and `repeated` says that a
repetition has just been read. -/
def readFrom? : (fuel : Nat) → Modes → (outer : List Group) → Group → (repeated : Bool) → List Nat →
    Option Regex
  | 0, _, _, _, _, _ => none
  | _, _, outer, g, _, [] => if outer.isEmpty then some g.whole else none
  | fuel + 1, modes, outer, g, repeated, c :: s =>
    let part (r : Regex) (s : List Nat) := readFrom? fuel modes outer (g.push r) false s
    let letter (c : Nat) (s : List Nat) := part (.char (.one c modes.anyCase)) s
    let group (inside : Modes) (s : List Nat) :=
      readFrom? fuel inside (g :: outer) (.opened modes) false s
    let repetition (low : Nat) (high : Option Nat) (s : List Nat) :=
      if repeated then none
      else match g.parts with
        | [] => none
        | r :: parts =>
          let s := match s with
            | 0x3F :: s => s
            | s => s
          readFrom? fuel modes outer { g with parts := r.times low high :: parts } true s
    match c, s with
    | 0x28, 0x3F :: 0x50 :: 0x3C :: s => group modes ((s.dropWhile (· != 0x3E)).drop 1)
    | 0x28, 0x3F :: 0x3C :: s => group modes ((s.dropWhile (· != 0x3E)).drop 1)
    | 0x28, 0x3F :: s =>
      match readModes? true modes s with
      | none => none
      | some (inside, true, s) => group inside s
      | some (inside, false, s) => readFrom? fuel inside outer g false s
    | 0x28, s => group modes s
    | 0x7C, s => readFrom? fuel modes outer g.next false s
    | 0x29, s =>
      match outer with
      | [] => none
      | up :: outer => readFrom? fuel g.outside outer (up.push g.whole) false s
    | 0x5E, s => part (.anchor (if modes.perLine then .lineStart else .textStart)) s
    | 0x24, s => part (.anchor (if modes.perLine then .lineEnd else .textEnd)) s
    | 0x2E, s => part (.char ⟨true, if modes.dotAll then [] else [(0x0A, 0x0A)], false⟩) s
    | 0x5B, s =>
      match readSet? modes.anyCase s with
      | some (set, s) => part (.char set) s
      | none => none
    | 0x2A, s => repetition 0 none s
    | 0x2B, s => repetition 1 none s
    | 0x3F, s => repetition 0 (some 1) s
    | 0x7B, s =>
      match readBounds? s with
      | some (bounds, s) => if boundsAllowed bounds then repetition bounds.1 bounds.2 s else none
      | none => letter 0x7B s
    | 0x5C, 0x41 :: s => part (.anchor .textStart) s
    | 0x5C, 0x62 :: s => part (.anchor .wordEdge) s
    | 0x5C, 0x42 :: s => part (.anchor .noWordEdge) s
    | 0x5C, 0x7A :: s => part (.anchor .textEnd) s
    | 0x5C, 0x51 :: s =>
      let (quoted, s) := toQuoteEnd s
      let letters := quoted.map fun c => Regex.char (.one c modes.anyCase)
      readFrom? fuel modes outer { g with parts := letters.reverse ++ g.parts } false s
    | 0x5C, s =>
      match s.head?.bind classOf? with
      | some ranges => part (.char ⟨false, ranges, modes.anyCase⟩) s.tail
      | none =>
        match readEscape? s with
        | some (c, s) => letter c s
        | none => none
    | c, s => letter c s

/-- The expression of a notation, none when it is malformed. -/
def read? (s : List Nat) : Option Regex :=
  readFrom? (s.length + 1) .standard [] (.opened .standard) false s

end TextTemplate.Regex
