/-
The tokens of a text. Two things are only known behind a token: that a node on one line is a key,
which its colon tells, and that a block has ended, which the next line tells. So the lexer keeps for
each flow collection it is in, and for the blocks, the node that may still turn out to be a key, and
puts the tokens of a key, and of the mapping it starts, before it once the colon comes.

A text that is refused at some place still has the tokens before it, but a reader that looks ahead
cannot have the last of them.
-/
import TextTemplate.Yaml.ScalarReader
import TextTemplate.Yaml.Token

namespace TextTemplate.Yaml

/-- A node that may turn out to be a key. -/
structure KeyPlace where
  /-- The number of its first token. -/
  token : Nat
  line : Nat
  column : Nat
  index : Nat
  /-- Whether it has to be one, since it stands where the keys of its block stand. -/
  required : Bool
  deriving DecidableEq, Repr

/-- The state of the lexer. -/
structure Lexing where
  cursor : Cursor
  tokens : Array Token
  /-- The column of the block, −1 outside of all. -/
  indent : Int
  /-- The columns of the blocks around it, nearest first. -/
  outer : List Int
  /-- The node that may be a key of the innermost flow collection, or of the block. -/
  key : Option KeyPlace
  /-- Those of the collections around it, nearest first. -/
  outerKeys : List (Option KeyPlace)
  /-- Whether a key may start here. -/
  keyAllowed : Bool

namespace KeyPlace

/-- How far behind a key its colon may be. -/
def reach : Nat := 1024

/-- Whether a key here may still have its colon at a position. -/
def isOpen (k : KeyPlace) (s : Cursor) : Bool := k.line == s.line && s.index ≤ k.index + reach

end KeyPlace

namespace Lexing

def start (ahead : List Nat) : Lexing := ⟨.start ahead, #[], -1, [], none, [], true⟩

def inFlow (l : Lexing) : Bool := !l.outerKeys.isEmpty

/-- Adds a token, the lexer being at `s` behind it. -/
def put (l : Lexing) (t : Token) (s : Cursor) : Lexing :=
  { l with tokens := l.tokens.push t, cursor := s }

/-! ## Blocks and keys -/

/-- Ends the blocks that stand deeper than a column; `outer` are the blocks around the current
one. -/
def closeBlocks (column : Int) (indent : Int) (tokens : Array Token) :
    List Int → Int × List Int × Array Token
  | [] => (indent, [], tokens)
  | up :: outer =>
    if indent > column then closeBlocks column up (tokens.push .blockEnd) outer
    else (indent, up :: outer, tokens)

/-- Ends the blocks deeper than a column, outside of flow collections. -/
def unroll (l : Lexing) (column : Int) : Lexing :=
  if l.inFlow then l
  else
    let (indent, outer, tokens) := closeBlocks column l.indent l.tokens l.outer
    { l with indent := indent, outer := outer, tokens := tokens }

/-- Starts a block at a column with a token at some place, if it is deeper than the current one. -/
def roll (l : Lexing) (column place : Nat) (t : Token) : Lexing :=
  if l.inFlow || l.indent ≥ (column : Int) then l
  else { l with
    indent := column
    outer := l.indent :: l.outer
    tokens := l.tokens.insertIdxIfInBounds place t }

/-- Gives up the node that might be a key; none when it has to be one. -/
def dropKey? (l : Lexing) : Option Lexing :=
  match l.key with
  | none => some l
  | some k => if k.required then none else some { l with key := none }

/-- Notes that a key may start here, if one may. -/
def saveKey? (l : Lexing) : Option Lexing :=
  if !l.keyAllowed then some l
  else l.dropKey?.map fun l =>
    let s := l.cursor
    { l with key := some ⟨l.tokens.size, s.line, s.column, s.index,
        !l.inFlow && l.indent == (s.column : Int)⟩ }

/-! ## Directives, anchors and tags -/

def isNameChar (c : Nat) : Bool :=
  (0x30 ≤ c && c ≤ 0x39) || (0x41 ≤ c && c ≤ 0x5A) || (0x61 ≤ c && c ≤ 0x7A) || c == 0x5F || c == 0x2D

/-- Reads the name of an anchor or an alias behind its mark. -/
def readName? (s : Cursor) : Option (Text × Cursor) :=
  let name := s.ahead.takeWhile isNameChar
  let s := s.skip name.length
  let ends := atGap s.ahead || (s.ahead.head?.any ((utf8 "?:,]\x7d%@\u0060").map UInt8.toNat).contains)
  if name.isEmpty || !ends then none else some (Text.ofCodes name, s)

/-- How many bytes a character has whose first byte is given; none when no character starts so. -/
def widthOf? (b : Nat) : Option Nat :=
  if b < 0x80 then some 1
  else if 0xC0 ≤ b && b < 0xE0 then some 2
  else if 0xE0 ≤ b && b < 0xF0 then some 3
  else if 0xF0 ≤ b && b < 0xF8 then some 4
  else none

/-- The byte of a percent sign and two digits. -/
def percentByte? : List Nat → Option Nat
  | 0x25 :: a :: b :: _ => hexValue? [a, b]
  | _ => none

/-- Reads the bytes of one character, each behind a percent sign; `missing` of them are still to
come. -/
def readPercent? : (missing : Nat) → Cursor → Option (Text × Cursor)
  | 0, s => some ([], s)
  | missing + 1, s => do
    let b ← percentByte? s.ahead
    if !(0x80 ≤ b && b < 0xC0) then none
    else
      let (rest, s) ← readPercent? missing (s.skip 3)
      return (b.toUInt8 :: rest, s)

def isUriChar (c : Nat) : Bool :=
  isNameChar c || ((utf8 ";/?:@&=+$,.!~*'()[]").map UInt8.toNat).contains c

/-- Reads as much of a tag as may stand in one. -/
def readUri? : (fuel : Nat) → Cursor → Option (Text × Cursor)
  | 0, s => some ([], s)
  | fuel + 1, s =>
    match s.ahead with
    | [] => some ([], s)
    | c :: _ =>
      if c = 0x25 then do
        let b ← percentByte? s.ahead
        let width ← widthOf? b
        let (tail, s) ← readPercent? (width - 1) (s.skip 3)
        let (rest, s) ← readUri? fuel s
        return (b.toUInt8 :: tail ++ rest, s)
      else if isUriChar c then
        (readUri? fuel s.next).map fun (rest, s) => (c.toUInt8 :: rest, s)
      else some ([], s)

/-- Reads a tag that may not be empty. -/
def readUri1? (s : Cursor) : Option (Text × Cursor) :=
  (readUri? (s.ahead.length + 1) s).filter fun (uri, _) => !uri.isEmpty

/-- Reads the handle of a tag: a name between exclamation marks, of which the second may be
missing. -/
def readHandle? (s : Cursor) : Option (Text × Cursor) :=
  match s.ahead with
  | 0x21 :: rest =>
    let name := rest.takeWhile isNameChar
    let s := s.skip (name.length + 1)
    if s.ahead.head? = some 0x21 then some (Text.ofCodes (0x21 :: name ++ [0x21]), s.next)
    else some (Text.ofCodes (0x21 :: name), s)
  | _ => none

/-- Whether a handle has both its marks. -/
def isWholeHandle (handle : Text) : Bool := handle.length > 1 && handle.getLast? == some 0x21

/-- Reads a tag. -/
def readTag? (s : Cursor) : Option (Token × Cursor) := do
  let (t, s) ←
    if (s.ahead.drop 1).head? = some 0x3C then do
      let (uri, s) ← readUri1? (s.skip 2)
      if s.ahead.head? = some 0x3E then some (Token.tag [] uri, s.next) else none
    else do
      let (handle, s) ← readHandle? s
      if isWholeHandle handle then
        let (suffix, s) ← readUri1? s
        some (.tag handle suffix, s)
      else
        let (rest, s) ← readUri? (s.ahead.length + 1) s
        let suffix := handle.tail ++ rest
        some (if suffix.isEmpty then .tag [] handle else .tag (utf8 "!") suffix, s)
  if atGap s.ahead then return (t, s) else none

/-- Reads a number of at most two digits. -/
def readVersionNumber? (s : Cursor) : Option (Nat × Cursor) :=
  let digits := s.ahead.takeWhile fun c => 0x30 ≤ c && c ≤ 0x39
  if digits.isEmpty || digits.length > 2 then none
  else some (digits.foldl (fun n d => n * 10 + (d - 0x30)) 0, s.skip digits.length)

/-- Reads what a directive says behind its name. -/
def readDirective? (name : Text) (s : Cursor) : Option (Token × Cursor) :=
  let s := s.skipWhile isBlank
  if name = utf8 "YAML" then do
    let (major, s) ← readVersionNumber? s
    if s.ahead.head? != some 0x2E then none
    let (minor, s) ← readVersionNumber? s.next
    return (.version major minor, s)
  else if name = utf8 "TAG" then do
    let (handle, s) ← readHandle? s
    if !(isWholeHandle handle || handle = utf8 "!") then none
    if !(s.ahead.head?.any isBlank) then none
    let (uri, s) ← readUri1? (s.skipWhile isBlank)
    if atGap s.ahead then return (.tagHandle handle uri, s) else none
  else none

/-- Reads a directive with its line. -/
def directive? (s : Cursor) : Option (Token × Cursor) := do
  let s := s.next
  let name := s.ahead.takeWhile isNameChar
  let s := s.skip name.length
  if name.isEmpty || !atGap s.ahead then none
  let (t, s) ← readDirective? (Text.ofCodes name) s
  let s := s.skipWhile isBlank
  let s := if s.ahead.head? = some 0x23 then s.skipLine else s
  if s.atLineEnd then return (t, s.next) else none

/-! ## Tokens -/

/-- A dash that starts an item. -/
def blockEntry? (l : Lexing) : Option Lexing :=
  let s := l.cursor
  if !l.inFlow && !l.keyAllowed then none
  else do
    let l ← (l.roll s.column l.tokens.size .blockSequence).dropKey?
    return { l.put .blockEntry s.next with keyAllowed := true }

/-- A question mark before a key. -/
def keyMark? (l : Lexing) : Option Lexing :=
  let s := l.cursor
  if !l.inFlow && !l.keyAllowed then none
  else do
    let l ← (l.roll s.column l.tokens.size .blockMapping).dropKey?
    return { l.put .key s.next with keyAllowed := !l.inFlow }

/-- A colon before a value, behind a key that may have had no mark so far. -/
def valueMark? (l : Lexing) : Option Lexing :=
  let s := l.cursor
  match l.key.filter fun k => k.required || k.isOpen s with
  | some k =>
    if !k.isOpen s then none
    else
      let l := { l with tokens := l.tokens.insertIdxIfInBounds k.token .key, key := none }
      let l := l.roll k.column k.token .blockMapping
      some { l.put .value s.next with keyAllowed := false }
  | none =>
    if !l.inFlow && !l.keyAllowed then none
    else
      let l := { l with key := none }.roll s.column l.tokens.size .blockMapping
      some { l.put .value s.next with keyAllowed := !l.inFlow }

/-- The start of a flow collection. -/
def openFlow? (l : Lexing) (t : Token) : Option Lexing := do
  let l ← l.saveKey?
  return { l.put t l.cursor.next with
    key := none, outerKeys := l.key :: l.outerKeys, keyAllowed := true }

/-- The end of a flow collection. -/
def closeFlow? (l : Lexing) (t : Token) : Option Lexing := do
  let l ← l.dropKey?
  let l := { l.put t l.cursor.next with keyAllowed := false }
  match l.outerKeys with
  | [] => return l
  | key :: outer => return { l with key := key, outerKeys := outer }

/-- A mark of the start or end of a document. -/
def documentMark? (l : Lexing) (t : Token) : Option Lexing := do
  let l ← (l.unroll (-1)).dropKey?
  return { l.put t (l.cursor.skip 3) with keyAllowed := false }

/-- A token that may be or start a key. -/
def nodeToken? (l : Lexing) (read : Cursor → Option (Token × Cursor)) : Option Lexing := do
  let l ← l.saveKey?
  let (t, s) ← read l.cursor
  return { l.put t s with keyAllowed := false }

/-- A plain scalar; behind a line break a key may start. -/
def plain? (l : Lexing) : Option Lexing := do
  let l ← l.saveKey?
  let s := l.cursor
  let (v, broken, s) ← readPlain l.inFlow (l.indent + 1).toNat (s.ahead.length + 1) .none s
  return { l.put (.scalar true (Text.ofCodes v)) s with keyAllowed := broken }

/-- A scalar in quotes. -/
def quoted? (l : Lexing) (isDouble : Bool) : Option Lexing :=
  l.nodeToken? fun s => (readQuoted isDouble (s.ahead.length + 1) s.next).map fun (v, s) =>
    (.scalar false (Text.ofCodes v), s)

/-- A block scalar. -/
def blockScalar? (l : Lexing) (literal : Bool) : Option Lexing := do
  let l ← l.dropKey?
  let (v, s) ← readBlockScalar literal l.indent l.cursor.next
  return { l.put (.scalar false (Text.ofCodes v)) s with keyAllowed := true }

/-- The token that starts with the next character, and the comment behind it. -/
def inner? (l : Lexing) : Option Lexing :=
  let s := l.cursor
  let rest := s.ahead.tail
  let read : Option Lexing :=
    match s.ahead with
    | [] => none
    | 0x5B :: _ => l.openFlow? .flowSequence
    | 0x7B :: _ => l.openFlow? .flowMapping
    | 0x5D :: _ => l.closeFlow? .flowSequenceEnd
    | 0x7D :: _ => l.closeFlow? .flowMappingEnd
    | 0x2C :: _ => l.dropKey?.map fun l => { l.put .flowEntry s.next with keyAllowed := true }
    | c :: _ =>
      if c = 0x3F && (l.inFlow || atGap rest) then l.keyMark?
      else if c = 0x3A && (l.inFlow || atGap rest) then l.valueMark?
      else if c = 0x2A then
        l.nodeToken? fun s => (readName? s.next).map fun (name, s) => (.alias name, s)
      else if c = 0x26 then
        l.nodeToken? fun s => (readName? s.next).map fun (name, s) => (.anchor name, s)
      else if c = 0x21 then l.nodeToken? readTag?
      else if c = 0x7C && !l.inFlow then l.blockScalar? true
      else if c = 0x3E && !l.inFlow then l.blockScalar? false
      else if c = 0x27 then l.quoted? false
      else if c = 0x22 then l.quoted? true
      else if startsPlain l.inFlow s.ahead then l.plain?
      else none
  read.map fun l => { l with cursor := l.cursor.skipLineComment }

/-- Reads one more token; none when there is none. -/
def step? (l : Lexing) : Option Lexing :=
  let (s, keyAllowed) := l.cursor.toNext l.inFlow (l.cursor.ahead.length + 1) l.keyAllowed
  let l := { l with cursor := s, keyAllowed := keyAllowed }.unroll s.column
  if s.ahead.isEmpty then
    (l.unroll (-1)).dropKey?.map fun l => { l.put .streamEnd s with keyAllowed := false }
  else if s.column == 0 && s.ahead.head? == some 0x25 then do
    let l ← (l.unroll (-1)).dropKey?
    let (t, s) ← directive? s
    return { l.put t s with keyAllowed := false }
  else if s.column == 0 && Cursor.startsMark 0x2D s.ahead then l.documentMark? .documentStart
  else if s.column == 0 && Cursor.startsMark 0x2E s.ahead then l.documentMark? .documentEnd
  else if s.ahead.head? == some 0x2D && atGap s.ahead.tail then l.blockEntry?
  else l.inner?

/-- How many tokens a reader looks ahead behind the one it needs. -/
def lookahead : Nat := 2

/-- The tokens that can be had when the next one cannot be read: those with enough others behind
them, up to one of which it is still not known whether it is a key. -/
def before (l : Lexing) : List Token :=
  let waiting := (l.key :: l.outerKeys).filterMap fun key =>
    (key.filter fun k => k.required || k.isOpen l.cursor).map KeyPlace.token
  l.tokens.toList.take (waiting.foldl min (l.tokens.size - lookahead))

/-- The tokens from a state on. -/
def run : (fuel : Nat) → Lexing → List Token
  | 0, l => l.before
  | fuel + 1, l =>
    match l.step? with
    | none => l.before
    | some l => if l.tokens.back? = some .streamEnd then l.tokens.toList else run fuel l

end Lexing

/-- The tokens of a text that a reader can have. -/
def tokens (s : List Nat) : List Token := Lexing.run (s.length + 1) (.start s)

end TextTemplate.Yaml
