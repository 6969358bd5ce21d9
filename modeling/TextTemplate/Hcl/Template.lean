/-
Templates as they are read: stretches of text with marks between them, which put values in, choose
one of two stretches or repeat one. Put together, the parts of a template are one expression.

A mark may take away the blanks of the stretch before it or behind it, which in a heredoc is one
line at most. A heredoc may lose its indentation, as many characters as every line starts with in
blanks; lines of nothing but blanks neither count nor change.
-/
import TextTemplate.Hcl.Syntax
import TextTemplate.Hcl.Token
import TextTemplate.Text.Blank
import TextTemplate.Text.Cluster

namespace TextTemplate.Hcl

/-! ## Stretches -/

/-- The value of hexadecimal digits. -/
def hexValue? (digits : Text) : Option Nat :=
  let value (b : UInt8) : Option Nat :=
    if 0x30 ≤ b && b ≤ 0x39 then some (b.toNat - 0x30)
    else if 0x61 ≤ b && b ≤ 0x66 then some (b.toNat - 0x57)
    else if 0x41 ≤ b && b ≤ 0x46 then some (b.toNat - 0x37)
    else none
  digits.foldl (fun n b => n.bind fun n => (value b).map (n * 16 + ·)) (some 0)

/-- The character of a code point in so many hexadecimal digits. -/
def codeEscape? (width : Nat) (s : Text) : Option Text :=
  if s.length < width then none
  else (hexValue? (s.take width)).bind fun c =>
    if c > 0x10FFFF || (0xD800 ≤ c && c ≤ 0xDFFF) then none else some (Rune.encode c)

/-- What an escape behind a backslash stands for, and its length. -/
def backslash? : Text → Option (Text × Nat)
  | 0x6E :: _ => some ([0x0A], 1)
  | 0x72 :: _ => some ([0x0D], 1)
  | 0x74 :: _ => some ([0x09], 1)
  | 0x22 :: _ => some ([0x22], 1)
  | 0x5C :: _ => some ([0x5C], 1)
  | 0x75 :: s => (codeEscape? 4 s).map (·, 5)
  | 0x55 :: s => (codeEscape? 8 s).map (·, 9)
  | _ => none

/-- What a stretch stands for; `skip` bytes belong to an escape that is done. Backslashes count in
quotes, and a sign of sequences that is written twice before a brace stands for one. -/
def unescape? (quoted : Bool) : (skip : Nat) → Text → Option Text
  | _, [] => some []
  | n + 1, _ :: s => unescape? quoted n s
  | 0, 0x5C :: s =>
    if quoted then do
      let (here, n) ← backslash? s
      return here ++ (← unescape? quoted n s)
    else (unescape? quoted 0 s).map (0x5C :: ·)
  | 0, b :: s =>
    if b == 0x24 || b == 0x25 then
      match s with
      | c :: 0x7B :: _ =>
        if b == c then (unescape? quoted 2 s).map ([b, 0x7B] ++ ·)
        else (unescape? quoted 0 s).map (b :: ·)
      | c :: _ =>
        if b == c then (unescape? quoted 1 s).map ([b, b] ++ ·)
        else (unescape? quoted 0 s).map (b :: ·)
      | [] => some [b]
    else (unescape? quoted 0 s).map (b :: ·)

/-! ## Parts -/

/-- What stands between the stretches of a template. -/
inductive Mark where
  | value (e : Expr)
  | ifStart (condition : Expr)
  | otherwise
  | ifEnd
  | forStart (key : Option Text) (value : Text) (items : Expr)
  | forEnd

/-- A part of a template. -/
inductive TemplatePart where
  | text (s : Text)
  /-- A mark, and whether blanks before and behind it go. -/
  | mark (m : Mark) (trimBefore trimBehind : Bool)

namespace TemplatePart

/-- Takes away the blanks that marks ask to go. -/
def trim (trimStart : Bool) : List TemplatePart → List TemplatePart
  | [] => []
  | text s :: rest =>
    let s := if trimStart then s.trimStart else s
    let s := match rest with
      | mark _ true _ :: _ => s.trimEnd
      | _ => s
    text s :: trim false rest
  | mark m before behind :: rest => mark m before behind :: trim behind rest

def endsLine (s : Text) : Bool := s.getLast? == some 0x0A

/-- Whether a stretch is a line of nothing but blanks. -/
def isBlankLine (s : Text) : Bool := s.isBlank && endsLine s

/-- The blanks at the start of each line that counts; `fresh` at the start of a line. -/
def margins (fresh : Bool) : List TemplatePart → List Nat
  | [] => []
  | text s :: rest =>
    let here := if fresh && !isBlankLine s then
        [(Text.clusters (s.take (s.length - s.trimStart.length))).length]
      else []
    here ++ margins (endsLine s) rest
  | mark _ _ _ :: rest => (if fresh then [0] else []) ++ margins false rest

/-- Takes characters away from the start of each line that counts. -/
def cutMargins (n : Nat) (fresh : Bool) : List TemplatePart → List TemplatePart
  | [] => []
  | text s :: rest =>
    let cut := if fresh && !isBlankLine s then ((Text.clusters s).drop n).flatten else s
    text cut :: cutMargins n (endsLine s) rest
  | mark m before behind :: rest => mark m before behind :: cutMargins n false rest

/-- Takes the indentation away. -/
def flush (parts : List TemplatePart) : List TemplatePart :=
  cutMargins ((margins true parts).min?.getD 0) true parts

/-- Makes one stretch of stretches that stand side by side. -/
def meld : List TemplatePart → List TemplatePart
  | [] => []
  | text s :: rest => match meld rest with
    | text t :: rest => text (s ++ t) :: rest
    | rest => text s :: rest
  | mark m before behind :: rest => mark m before behind :: meld rest

/-- A template of parts that may be missing. -/
def template (parts : List Expr) : Expr :=
  .template (if parts.isEmpty then [.literal (.text [])] else parts)

/-- The expressions of parts up to one that closes or divides a choice or a repetition. -/
def exprs : (fuel : Nat) → List TemplatePart → Option (List Expr × List TemplatePart)
  | 0, _ => none
  | _ + 1, [] => some ([], [])
  | fuel + 1, text s :: rest => do
    let (es, rest) ← exprs fuel rest
    return (.literal (.ofText s) :: es, rest)
  | fuel + 1, mark (.value e) _ _ :: rest => do
    let (es, rest) ← exprs fuel rest
    return (e :: es, rest)
  | fuel + 1, mark (.ifStart c) _ _ :: rest => do
    let (yes, rest) ← exprs fuel rest
    let (no, rest) ← match rest with
      | mark .otherwise _ _ :: rest => exprs fuel rest
      | rest => some ([], rest)
    match rest with
    | mark .ifEnd _ _ :: rest =>
      let (es, rest) ← exprs fuel rest
      return (.conditional c (template yes) (template no) :: es, rest)
    | _ => none
  | fuel + 1, mark (.forStart key value items) _ _ :: rest => do
    let (body, rest) ← exprs fuel rest
    match rest with
    | mark .forEnd _ _ :: rest =>
      let (es, rest) ← exprs fuel rest
      return (.joined (.forEach key value items none (template body) false none) :: es, rest)
    | _ => none
  | _ + 1, rest => some ([], rest)

/-- The expression of a template; a template of one value is that value. -/
def toExpr? (flushed : Bool) (parts : List TemplatePart) : Option Expr :=
  let parts := trim false parts
  let parts := meld (if flushed then flush parts else parts)
  match parts with
  | [mark (.value e) _ _] => some (.wrapped e)
  | parts =>
    match exprs (parts.length + 1) parts with
    | some (es, []) => some (template es)
    | _ => none

end TemplatePart
end TextTemplate.Hcl
