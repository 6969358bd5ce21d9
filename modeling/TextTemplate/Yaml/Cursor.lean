/-
Reading positions in a document: the characters ahead and where they stand. The moves over blanks,
comments and document marks that all of the lexer shares are here.
-/
import TextTemplate.Yaml.Character

namespace TextTemplate.Yaml

/-- A reading position. -/
structure Cursor where
  ahead : List Nat
  column : Nat
  line : Nat
  /-- How many characters are behind it. -/
  index : Nat
  /-- Whether a line break and only blanks since then are behind it. -/
  fresh : Bool
  deriving DecidableEq, Repr

namespace Cursor

def start (ahead : List Nat) : Cursor := ⟨ahead, 0, 0, 0, false⟩

/-- Whether a line ends here. -/
def atLineEnd (s : Cursor) : Bool := s.ahead.head?.all isBreak

/-- The position behind the next character. -/
def next (s : Cursor) : Cursor :=
  match s.ahead with
  | [] => s
  | c :: rest =>
    if isBreak c then ⟨rest, 0, s.line + 1, s.index + 1, true⟩
    else ⟨rest, s.column + 1, s.line, s.index + 1, s.fresh && isBlank c⟩

/-- The position `n` characters on. -/
def skip (s : Cursor) : Nat → Cursor
  | 0 => s
  | n + 1 => s.next.skip n

/-- The position behind the characters that satisfy `p`. -/
def skipWhile (p : Nat → Bool) (s : Cursor) : Cursor := s.skip (s.ahead.takeWhile p).length

/-- The end of the line. -/
def skipLine (s : Cursor) : Cursor := s.skipWhile (!isBreak ·)

/-- Whether the characters start with a mark of three that a gap follows. -/
def startsMark (mark : Nat) : List Nat → Bool
  | a :: b :: c :: rest => a == mark && b == mark && c == mark && atGap rest
  | _ => false

/-- Whether a mark of the start or end of a document stands here. -/
def atMark (s : Cursor) : Bool :=
  s.column == 0 && (startsMark 0x2D s.ahead || startsMark 0x2E s.ahead)

/-- The longest run of blanks and line feeds between comments that are passed together. -/
def commentGap : Nat := 512

/-- The end of the comment that starts here, or of the last of several with nothing between them. -/
def skipComments : (fuel : Nat) → Cursor → Cursor
  | 0, s => s
  | fuel + 1, s =>
    let s := s.skipLine
    let gap := s.ahead.takeWhile fun c => isBlank c || c == 0x0A
    if gap.head? == some 0x0A && gap.length < commentGap
        && (s.ahead.drop gap.length).head? == some 0x23 then
      skipComments fuel (s.skip gap.length)
    else s

/-- The position of the next token, blanks, comments and line breaks passed, and whether a key may
start there: in blocks it may at the start of a line. Where a key may start in a block, a tab is not
passed. -/
def toNext (flow : Bool) : (fuel : Nat) → (keyAllowed : Bool) → Cursor → Cursor × Bool
  | 0, keyAllowed, s => (s, keyAllowed)
  | fuel + 1, keyAllowed, s =>
    let s := if s.column == 0 && s.ahead.head? == some 0xFEFF then s.next else s
    let s := s.skipWhile fun c => c == 0x20 || (c == 0x09 && (flow || !keyAllowed))
    let s := if s.ahead.head? == some 0x23 then s.skipComments (fuel + 1) else s
    if s.ahead.head?.any isBreak then toNext flow fuel (keyAllowed || !flow) s.next
    else (s, keyAllowed)

/-- The position behind a comment on the line of what was just read. -/
def skipLineComment (s : Cursor) : Cursor :=
  if s.fresh then s
  else
    let blanks := s.ahead.takeWhile isBlank
    if (s.ahead.drop blanks.length).head? == some 0x23 then (s.skip blanks.length).skipLine else s

end Cursor
end TextTemplate.Yaml
