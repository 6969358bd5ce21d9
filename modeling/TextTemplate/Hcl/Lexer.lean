/-
The tokens of a text. What a byte means depends on what it stands in: the file or a sequence in a
template, a text in quotes, or a heredoc. These are nested, so the lexer keeps a stack of them. A text
that has a character no token starts with, or that ends inside of a template, is refused.

The characters of texts only have the form of UTF-8; those of comments may be any bytes.
-/
import TextTemplate.Hcl.Token
import TextTemplate.Text.Blank
import TextTemplate.Text.NameChar
import TextTemplate.Text.Number

namespace TextTemplate.Hcl

/-! ## Words -/

/-- The bytes of the character a text starts with, by its first byte alone. -/
def charWidth? : Text → Option Nat
  | [] => none
  | a :: s =>
    let width :=
      if a < 0x80 then 1 else if a < 0xC0 then 0 else if a < 0xE0 then 2
      else if a < 0xF0 then 3 else if a < 0xF8 then 4 else 0
    let tail := s.take (width - 1)
    if width = 0 || tail.length + 1 < width || !tail.all Rune.isTail then none else some width

/-- The length of a name, whose first character has to be a letter or an underscore. -/
def nameReach (first : Bool) : (fuel : Nat) → Text → Nat
  | _, [] => 0
  | 0, _ => 0
  | fuel + 1, b :: s =>
    let r := Rune.first b s
    let belongs :=
      if first then Rune.startsName r.code || r.code == 0x5F
      else Rune.continuesName r.code || r.code == 0x2D
    let width := r.bytes.length
    if r.isValid && belongs then width + nameReach false fuel (s.drop (width - 1)) else 0

/-- The name a text starts with, and what follows it. -/
def name? (s : Text) : Option (Text × Text) :=
  match nameReach true s.length s with
  | 0 => none
  | n => some (s.take n, s.drop n)

/-- How a number may go on: with digits and points, or with an exponent. -/
def numberStep : Text → Nat
  | b :: s =>
    if Text.isDigit b || b == 0x2E then 1
    else if b == 0x65 || b == 0x45 then
      match s with
      | 0x2B :: d :: _ => if Text.isDigit d then 3 else 0
      | 0x2D :: d :: _ => if Text.isDigit d then 3 else 0
      | d :: _ => if Text.isDigit d then 2 else 0
      | [] => 0
    else 0
  | [] => 0

/-- The length of a number and the points behind it. -/
def numberReach : (fuel : Nat) → Text → Nat
  | 0, _ => 0
  | fuel + 1, s =>
    match numberStep s with
    | 0 => 0
    | n => n + numberReach fuel (s.drop n)

/-- The number a text starts with. It does not end with a point. -/
def number? (s : Text) : Option (Text × Text) :=
  if s.head?.any Text.isDigit then
    let number := Text.dropEndWhile (· == 0x2E) (s.take (numberReach s.length s))
    some (number, s.drop number.length)
  else none

/-- The symbol a text starts with. -/
def symbol? (s : Text) : Option (Symbol × Text) :=
  (Symbol.spellings.find? fun (spelling, _) => (utf8 spelling).isPrefixOf s).map
    fun (spelling, symbol) => (symbol, s.drop (utf8 spelling).length)

/-- What follows a line break. -/
def newline? : Text → Option Text
  | 0x0A :: s => some s
  | 0x0D :: 0x0A :: s => some s
  | _ => none

/-- The start of a heredoc: whether it loses its indentation, its end mark and what follows. -/
def heredoc? (s : Text) : Option (Bool × Text × Text) :=
  match s with
  | 0x3C :: 0x3C :: s => do
    let (flush, s) := match s with
      | 0x2D :: s => (true, s)
      | s => (false, s)
    let (mark, s) ← name? s
    return (flush, mark, ← newline? s)
  | _ => none

/-! ## Templates -/

/-- Whether a value or a directive of a template starts here. -/
def startsSequence : Text → Bool
  | 0x24 :: 0x7B :: _ => true
  | 0x25 :: 0x7B :: _ => true
  | _ => false

/-- The length of the mark that stands for the start of a sequence, which is written with its sign
twice; nothing if there is none. -/
def escapedSequence : Text → Nat
  | 0x24 :: 0x24 :: 0x7B :: _ => 3
  | 0x25 :: 0x25 :: 0x7B :: _ => 3
  | _ => 0

/-- The start of a sequence as a token. -/
def sequence? : Text → Option (Token × Text)
  | 0x24 :: 0x7B :: 0x7E :: s => some (.insert true, s)
  | 0x24 :: 0x7B :: s => some (.insert false, s)
  | 0x25 :: 0x7B :: 0x7E :: s => some (.directive true, s)
  | 0x25 :: 0x7B :: s => some (.directive false, s)
  | _ => none

/-- The length of a stretch in quotes without signs of sequences, none when a character is bad. A
backslash takes the character behind it along. -/
def quotedReach : (fuel : Nat) → Text → Option Nat
  | 0, _ => some 0
  | fuel + 1, s =>
    match s with
    | [] => some 0
    | b :: r =>
      if b == 0x22 || b == 0x24 || b == 0x25 || b == 0x0A || b == 0x0D then some 0
      else do
        let width ← if b == 0x5C then
            match r with
            | 0x0A :: _ | 0x0D :: _ => none
            | r => (charWidth? r).map (· + 1)
          else charWidth? s
        return width + (← quotedReach fuel (s.drop width))

/-- The length of a stretch of a heredoc up to the end of the line or the start of a sequence, and
whether the line ends; none when a character is bad. -/
def heredocReach : (fuel : Nat) → Text → Option (Nat × Bool)
  | 0, _ => some (0, false)
  | fuel + 1, s =>
    match s with
    | [] => some (0, false)
    | 0x0A :: _ => some (1, true)
    | 0x0D :: 0x0A :: _ => some (2, true)
    | 0x0D :: _ => none
    | s =>
      if startsSequence s then some (0, false)
      else do
        let width ← match escapedSequence s with
          | 0 => charWidth? s
          | n => some n
        let (reach, ends) ← heredocReach fuel (s.drop width)
        return (width + reach, ends)

/-! ## The lexer -/

/-- What the lexer is in. -/
inductive Frame where
  /-- The file or a sequence, with so many braces open. -/
  | code (braces : Nat)
  | quoted
  /-- A heredoc with its end mark; `fresh` at the start of a line. -/
  | heredoc (mark : Text) (fresh : Bool)
  deriving DecidableEq, Repr

/-- What the lexer does at a place: it takes tokens and goes on behind them with another stack. -/
structure Step where
  tokens : List Token
  stack : List Frame
  rest : Text

/-- A step in a file or a sequence. -/
def codeStep? (braces : Nat) (outer : List Frame) (s : Text) : Option Step :=
  let stay (tokens : List Token) (rest : Text) : Option Step :=
    some ⟨tokens, .code braces :: outer, rest⟩
  let comment (s : Text) : Option Step :=
    match Text.cut? 0x0A s with
    | some (_, rest) => stay [.newline] rest
    | none => stay [] []
  let word : Option Step :=
    match number? s with
    | some (n, rest) => stay [.number n] rest
    | none => match name? s with
      | some (n, rest) => stay [.name n] rest
      | none => (symbol? s).bind fun (m, rest) => stay [.symbol m] rest
  match s with
  | 0x20 :: r => stay [] r
  | 0x09 :: r => stay [] r
  | 0x0A :: r => stay [.newline] r
  | 0x0D :: 0x0A :: r => stay [.newline] r
  | 0x23 :: r => comment r
  | 0x2F :: 0x2F :: r => comment r
  | 0x2F :: 0x2A :: r => match Text.cutAt? (utf8 "*/") r with
    | some (_, rest) => stay [] rest
    | none => none
  | 0x22 :: r => some ⟨[.quote], .quoted :: .code braces :: outer, r⟩
  | 0x7B :: r => some ⟨[.symbol .openBrace], .code (braces + 1) :: outer, r⟩
  | 0x7D :: r => match braces with
    | 0 => if outer.isEmpty then none else some ⟨[.sequenceEnd false], outer, r⟩
    | n + 1 => some ⟨[.symbol .closeBrace], .code n :: outer, r⟩
  | 0x7E :: 0x7D :: r =>
    if braces = 0 && !outer.isEmpty then some ⟨[.sequenceEnd true], outer, r⟩ else none
  | _ => match heredoc? s with
    | some (flush, mark, r) =>
      some ⟨[.heredoc flush], .heredoc mark true :: .code braces :: outer, r⟩
    | none => word

/-- A step in quotes. A lone sign of a sequence is a stretch of its own. -/
def quotedStep? (outer : List Frame) (s : Text) : Option Step :=
  let stretch (n : Nat) : Option Step :=
    some ⟨[.literal true (s.take n)], .quoted :: outer, s.drop n⟩
  match sequence? s with
  | some (t, rest) => some ⟨[t], .code 0 :: .quoted :: outer, rest⟩
  | none =>
    if escapedSequence s > 0 then stretch (escapedSequence s)
    else match s with
      | 0x22 :: r => some ⟨[.quoteEnd], outer, r⟩
      | 0x24 :: _ => stretch 1
      | 0x25 :: _ => stretch 1
      | s => match quotedReach s.length s with
        | some (n + 1) => stretch (n + 1)
        | _ => none

/-- A step in a heredoc. The end mark stands on a line of its own, blanks around it apart. -/
def heredocStep? (mark : Text) (fresh : Bool) (outer : List Frame) (s : Text) : Option Step :=
  match sequence? s with
  | some (t, rest) => some ⟨[t], .code 0 :: .heredoc mark false :: outer, rest⟩
  | none => do
    let (n, ends) ← heredocReach s.length s
    let line := s.take n
    if n = 0 then none
    else if ends && fresh && Text.trim line == mark then
      return ⟨[.heredocEnd, .newline], outer, s.drop n⟩
    else return ⟨[.literal false line], .heredoc mark ends :: outer, s.drop n⟩

def step? (stack : List Frame) (s : Text) : Option Step :=
  match stack with
  | .code braces :: outer => codeStep? braces outer s
  | .quoted :: outer => quotedStep? outer s
  | .heredoc mark fresh :: outer => heredocStep? mark fresh outer s
  | [] => none

/-- The tokens of a text; every step takes a byte, so the length of the text bounds them. -/
def tokensIn : (fuel : Nat) → List Frame → Text → Option (List Token)
  | 0, _, _ => none
  | fuel + 1, stack, s =>
    if s.isEmpty then (if stack.length = 1 then some [] else none)
    else do
      let step ← step? stack s
      let rest ← tokensIn fuel step.stack step.rest
      return step.tokens ++ rest

/-- The tokens of a file, none when it has a bad character. A byte order mark in front does not
count. -/
def tokens? (content : Text) : Option (List Token) :=
  let s := Text.dropStart (utf8 "\uFEFF") content
  tokensIn (s.length + 1) [.code 0] s

end TextTemplate.Hcl
