/-
Regular expressions over code points. An expression at a place of a text reaches the places where a
match from there can end; a text has a match when some place reaches one. `reach` works with all
ends at once, so no choice is ever taken back, and a repetition is the closure of its body.
-/
import TextTemplate.Text.Case

namespace TextTemplate

/-- A set of code points: those in the ranges, or those out of them, perhaps without regard to
case. -/
structure CharSet where
  complement : Bool
  ranges : List (Nat × Nat)
  anyCase : Bool
  deriving DecidableEq, Repr

namespace CharSet

def inRanges (s : CharSet) (c : Nat) : Bool := s.ranges.any fun (lo, hi) => lo ≤ c && c ≤ hi

def mem (s : CharSet) (c : Nat) : Bool :=
  (s.inRanges c || (s.anyCase && (s.inRanges (Rune.lowerCode c) || s.inRanges (Rune.upperCode c))))
    != s.complement

/-- The set of one code point. -/
def one (c : Nat) (anyCase : Bool) : CharSet := ⟨false, [(c, c)], anyCase⟩

end CharSet

/-- Conditions on a place that need no characters. -/
inductive Anchor where
  | textStart
  | textEnd
  | lineStart
  | lineEnd
  /-- A place between a letter, digit or underscore and anything else. -/
  | wordEdge
  | noWordEdge
  deriving DecidableEq, Repr

/-- Regular expressions. -/
inductive Regex where
  | empty
  | char (s : CharSet)
  | anchor (a : Anchor)
  | seq (a b : Regex)
  | alt (a b : Regex)
  | star (a : Regex)
  deriving Repr

namespace Anchor

/-- Whether the code point at a place is part of a word. -/
def isWord (s : Array Nat) (i : Nat) : Bool :=
  match s[i]? with
  | some c => (0x30 ≤ c && c ≤ 0x39) || (0x41 ≤ c && c ≤ 0x5A) || (0x61 ≤ c && c ≤ 0x7A) || c == 0x5F
  | none => false

def holds (s : Array Nat) (i : Nat) : Anchor → Bool
  | textStart => i == 0
  | textEnd => i == s.size
  | lineStart => i == 0 || s[i - 1]? == some 0x0A
  | lineEnd => i == s.size || s[i]? == some 0x0A
  | wordEdge => (i != 0 && isWord s (i - 1)) != isWord s i
  | noWordEdge => (i != 0 && isWord s (i - 1)) == isWord s i

end Anchor

namespace Regex

/-- The places reached from `fresh` by any number of steps, beside those seen before. -/
def closure (step : Nat → List Nat) : (fuel : Nat) → (seen fresh : List Nat) → List Nat
  | 0, seen, _ => seen
  | fuel + 1, seen, fresh =>
    let next := (fresh.flatMap step).eraseDups.filter fun i => !seen.contains i
    if next.isEmpty then seen else closure step fuel (seen ++ next) next

/-- The places where a match that starts at a place can end. -/
def reach (s : Array Nat) : Regex → Nat → List Nat
  | empty, i => [i]
  | char set, i =>
    match s[i]? with
    | some c => if set.mem c then [i + 1] else []
    | none => []
  | anchor a, i => if a.holds s i then [i] else []
  | seq a b, i => ((reach s a i).flatMap (reach s b)).eraseDups
  | alt a b, i => (reach s a i ++ reach s b i).eraseDups
  | star a, i => closure (reach s a) (s.size + 1) [i] [i]

/-- Whether a text has a match. -/
def hasMatch (r : Regex) (s : List Nat) : Bool :=
  let s := s.toArray
  (List.range (s.size + 1)).any fun i => !(reach s r i).isEmpty

/-- One expression after the other. -/
def seqs (rs : List Regex) : Regex := rs.foldr seq empty

/-- At least `low` matches one after the other, and at most `high`. -/
def times (r : Regex) (low : Nat) : (high : Option Nat) → Regex
  | none => seqs (List.replicate low r ++ [star r])
  | some high =>
    seqs (List.replicate low r
      ++ [(List.replicate (high - low) r).foldr (fun r rest => alt (seq r rest) empty) empty])

end Regex
end TextTemplate
