/-
Selectors: the section headings of layout files, which say what paths a section is for. `*` stands
for any characters but slashes, `**` for any at all, `?` for one character, `[ab]` and `[!ab]` for
one in or out of a set, `{a,b}` for one of several texts, `{1..4}` for a number of a range. A
selector is written as a regular expression, and a path fits when the expression matches it. The
marks keep their meaning inside sets and groups that do not close, so the expression is put together
as text and read as a whole.
-/
import TextTemplate.Regex.Reader
import TextTemplate.Text.Number

namespace TextTemplate.EditorConfig

/-- The code points of a literal. -/
def literal (s : String) : List Nat := s.toList.map Char.toNat

/-- A code point as an expression that matches it alone. -/
def quoted (c : Nat) : List Nat :=
  if (literal "\\.+*?()|[]\x7b\x7d^$").contains c then [0x5C, c] else [c]

/-- What follows an opening mark up to its end: the characters before `last`, `stop` or the end of
the selector, the rest from there on, and whether `stop` was met first. A backslash before either
keeps it from being an end. -/
def toEnd (last stop previous : Nat) : List Nat → List Nat × List Nat × Bool
  | [] => ([], [], false)
  | c :: s =>
    if c = last && previous != 0x5C then ([], c :: s, false)
    else if c = stop && previous != 0x5C then ([], c :: s, true)
    else
      let (here, rest, stopped) := toEnd last stop c s
      (c :: here, rest, stopped)

/-- The bounds of a range of numbers, as they are written. -/
def rangeBounds? (inner : List Nat) : Option (Text × Text) := do
  let (lo, hi) ← Text.cutAt? (utf8 "..") (Text.ofCodes inner)
  let isNumber (s : Text) : Bool := match s with
    | 0x2D :: s => (Text.readNat? s).isSome
    | 0x2B :: s => (Text.readNat? s).isSome
    | s => (Text.readNat? s).isSome
  if isNumber lo && isNumber hi then some (lo, hi) else none

/-- A choice between the numbers of a range. -/
def numbers (lo hi : Int) : List Nat :=
  let before := (List.range (hi - lo).toNat).flatMap fun (n : Nat) =>
    (Text.ofInt (lo + Int.ofNat n)).codes ++ literal "|"
  literal "(?:" ++ before ++ (Text.ofInt hi).codes ++ literal ")"

/-- How often a character stands `width` times in a row, at the start or after a character other
than a backslash; what one occurrence takes up, `taken` of it still to pass, is not part of
another. -/
def countMarks (mark width : Nat) : (taken : Nat) → (isStart : Bool) → List Nat → Nat
  | _, _, [] => 0
  | taken + 1, _, _ :: s => countMarks mark width taken false s
  | 0, isStart, c :: s =>
    let marks := List.replicate width mark
    if isStart && marks.isPrefixOf (c :: s) then 1 + countMarks mark width (width - 1) false s
    else if c != 0x5C && marks.isPrefixOf s then 1 + countMarks mark width width false s
    else countMarks mark width 0 false s

/-- Whether there are as many opening braces as closing ones. -/
def isBalanced (s : List Nat) : Bool :=
  let count (mark : Nat) : Nat := countMarks mark 1 0 true s + countMarks mark 2 0 true s
  count 0x7B == count 0x7D

/-- Where the reader of a selector is: how many groups are open, whether a backslash is waiting for
its character, and whether a set is open. -/
structure Place where
  depth : Nat
  escaped : Bool
  inSet : Bool
  deriving DecidableEq, Repr

/-- The expression of what is left of a selector; none when a number in it is out of range. -/
def expression? (balanced : Bool) : (fuel : Nat) → Place → (previous : Nat) → List Nat →
    Option (List Nat)
  | 0, _, _, _ => some []
  | _, _, _, [] => some []
  | fuel + 1, p, previous, c :: s =>
    let put (out : List Nat) (p : Place) (s : List Nat) : Option (List Nat) :=
      (expression? balanced fuel p c s).map (out ++ ·)
    match c, s with
    | 0x2A, 0x2A :: s => put (literal ".*") p s
    | 0x2A, s => put (literal "[^/]*") p s
    | 0x2F, 0x2A :: 0x2A :: 0x2F :: s => put (literal "(?:/|/.*/)") p s
    | 0x2F, s => put [0x2F] p s
    | 0x3F, s => put (literal "[^/]") p s
    | 0x5B, s =>
      if p.inSet then put (literal "\\[") p s
      else match toEnd 0x5D 0x2F 0x5B s with
        | (here, rest, true) => put (literal "\\[" ++ here ++ [0x2F]) p rest.tail
        | _ =>
          match s with
          | 0x21 :: s => put (literal "[^") { p with inSet := true } s
          | 0x5E :: s => put (literal "[^") { p with inSet := true } s
          | s => put (literal "[") { p with inSet := true } s
    | 0x5D, s =>
      if p.inSet && previous == 0x5C then put (literal "\\]") p s
      else put (literal "]") { p with inSet := false } s
    | 0x7B, s =>
      match toEnd 0x7D 0x2C 0x7B s with
      | (inner, _ :: rest, false) =>
        match rangeBounds? inner with
        | some (lo, hi) => do
          let lo ← Text.readInt64? lo
          let hi ← Text.readInt64? hi
          put (numbers lo hi) p rest
        | none => do
          let inner ← expression? (isBalanced inner) fuel ⟨0, false, false⟩ 0 inner
          put (literal "\\\x7b" ++ inner ++ literal "\\\x7d") p rest
      | _ =>
        if balanced then put (literal "(?:") { p with depth := p.depth + 1 } s
        else put (literal "\\\x7b") p s
    | 0x7D, s =>
      if p.depth = 0 then put (literal "\\\x7d") p s
      else if p.escaped then put [0x7D] { p with escaped := false } s
      else put (literal ")") { p with depth := p.depth - 1 } s
    | 0x2C, s => if p.depth = 0 || p.escaped then put [0x2C] p s else put (literal "|") p s
    | 0x5C, s =>
      if p.escaped then put (quoted c) { p with escaped := false } s
      else put [] { p with escaped := true } s
    | c, s => put (quoted c) { p with escaped := false } s

/-- The regular expression of a selector, none when there is none. -/
def regex? (selector : Text) : Option Regex := do
  let s := selector.codes
  let body ← expression? (isBalanced s) s.length ⟨0, false, false⟩ 0 s
  Regex.read? (literal "^" ++ body ++ literal "$")

/-- The selector of a section heading, which is taken from the directory of its file when it has
a slash and from anywhere below it when it has none. -/
def anchored (heading : Text) : Text :=
  if heading.head? = some 0x2F then heading
  else if heading.contains 0x2F then utf8 "/" ++ heading
  else utf8 "/**/" ++ heading

/-- Whether a section is for a path, which starts with a slash; none when its heading cannot be
read. -/
def selects? (heading path : Text) : Option Bool :=
  (regex? (anchored heading)).map (·.hasMatch path.codes)

end TextTemplate.EditorConfig
