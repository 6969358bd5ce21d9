/-
The composed normal form of texts. A text is taken apart into bases and marks, the marks behind a
base are put into the order of their classes, and what has a composite is put together, so that
texts which look the same are the same. A base has at most thirty marks: more of them are parted by
U+034F. Bytes that are not UTF-8 stay where they are and nothing joins over them.
-/
import TextTemplate.Text.CombiningClass
import TextTemplate.Text.Composite
import TextTemplate.Text.Rune

namespace TextTemplate

namespace Rune

/-! ## The syllables of Hangul -/

def isHangulL (c : Nat) : Bool := 0x1100 ≤ c && c < 0x1113

def isHangulV (c : Nat) : Bool := 0x1161 ≤ c && c < 0x1176

def isHangulT (c : Nat) : Bool := 0x11A8 ≤ c && c < 0x11C3

def isSyllable (c : Nat) : Bool := 0xAC00 ≤ c && c < 0xD7A4

/-- The letters of a syllable. -/
def letters (c : Nat) : List Nat :=
  let n := c - 0xAC00
  let front := [0x1100 + n / 588, 0x1161 + n % 588 / 28]
  if n % 28 = 0 then front else front ++ [0x11A7 + n % 28]

/-! ## Taking apart and putting together -/

/-- A code point taken apart, in at most so many steps. -/
def apartIn : (steps : Nat) → Nat → List Nat
  | 0, c => [c]
  | steps + 1, c =>
    if c < 0xC0 then [c]
    else if isSyllable c then letters c
    else match Composite.parts[c]? with
      | some cs => cs.flatMap (apartIn steps)
      | none => [c]

/-- A code point taken apart as far as it can be. No chain of composites is longer than four. -/
def apart (c : Nat) : List Nat := apartIn 8 c

/-- What two code points make together. -/
def made? (a b : Nat) : Option Nat :=
  if isHangulL a && isHangulV b then some (0xAC00 + (a - 0x1100) * 588 + (b - 0x1161) * 28)
  else if isSyllable a && (a - 0xAC00) % 28 == 0 && isHangulT b then some (a + (b - 0x11A7))
  else Composite.made[(a, b)]?

/-- Whether a code point may join the one before it. -/
def joins (c : Nat) : Bool :=
  combiningClass c != 0 || isHangulV c || isHangulT c || Composite.joining.contains c

/-- How many code points in a row may join one base. -/
def maxJoined : Nat := 30

/-- Parts longer rows of joining code points, of which `n` stand before. -/
def partRows : (n : Nat) → List Nat → List Nat
  | _, [] => []
  | n, c :: cs =>
    let pieces := apart c
    let lead := (pieces.takeWhile joins).length
    if n + lead > maxJoined then 0x34F :: c :: partRows lead cs
    else if lead = 0 then c :: partRows (pieces.reverse.takeWhile joins).length cs
    else c :: partRows (n + lead) cs

/-- Puts the marks of each base into the order of their classes; `marks` are those behind the
current base, last first. -/
def orderMarks (marks : List Nat) : List Nat → List Nat
  | [] => sorted
  | c :: cs =>
    if combiningClass c = 0 then sorted ++ c :: orderMarks [] cs else orderMarks (c :: marks) cs
where
  sorted : List Nat := marks.reverse.mergeSort fun a b => combiningClass a ≤ combiningClass b

/-- Puts together what follows a base: `kept` are the marks behind it that it does not take, last
first. A mark reaches the base over those of smaller classes only. -/
def joinBehind (base : Nat) (kept : List Nat) : List Nat → List Nat
  | [] => base :: kept.reverse
  | c :: cs =>
    let cls := combiningClass c
    let reaches := match kept with
      | [] => true
      | k :: _ => combiningClass k < cls
    match if reaches then made? base c else none with
    | some m => joinBehind m kept cs
    | none =>
      if cls = 0 then base :: (kept.reverse ++ joinBehind c [] cs)
      else joinBehind base (c :: kept) cs

/-- Puts together code points in the order of their classes. -/
def join : List Nat → List Nat
  | [] => []
  | c :: cs => if combiningClass c = 0 then joinBehind c [] cs else c :: join cs

/-- The composed normal form of code points. -/
def normal (cs : List Nat) : List Nat := join (orderMarks [] ((partRows 0 cs).flatMap apart))

end Rune

namespace Text

/-- The composed normal form of characters; `stretch` are those before them that are UTF-8 and may
still join, last first. -/
def normalGo (stretch : List Nat) : List Rune → Text
  | [] => ofCodes (Rune.normal stretch.reverse)
  | r :: rs =>
    if r.isValid then normalGo (r.code :: stretch) rs
    else ofCodes (Rune.normal stretch.reverse) ++ r.bytes ++ normalGo [] rs

/-- The composed normal form of a text. Below U+0300 nothing joins. -/
def normal (s : Text) : Text :=
  if s.all (· < 0xCC) then s else normalGo [] s.runes

end Text
end TextTemplate
