/-
Charts of coded characters. A chart gives a character the number under which a character set has it.
It is written down as runs: a first code and the characters of that code and the codes after it, a
full stop standing for a code without a character. No chart here holds an ASCII character.
-/
import Std.Data.HashMap

namespace TextTemplate

/-- The characters of consecutive codes. -/
structure Chart.Run where
  start : Nat
  chars : String

/-- The codes of a character set by character. -/
abbrev Chart := Std.HashMap Nat Nat

namespace Chart.Run

/-- The characters of a list with the codes from `code` on. -/
def entriesFrom : Nat → List Char → List (Nat × Nat)
  | _, [] => []
  | code, c :: cs =>
    if c = '.' then entriesFrom (code + 1) cs else (c.toNat, code) :: entriesFrom (code + 1) cs

/-- The characters of a run with their codes. -/
def entries (r : Chart.Run) : List (Nat × Nat) := entriesFrom r.start r.chars.toList

end Chart.Run

namespace Chart

/-- The chart with further characters; one it has already keeps its code. -/
def addAll (chart : Chart) (entries : List (Nat × Nat)) : Chart :=
  entries.foldl (fun chart (c, code) => chart.insertIfNew c code) chart

/-- The chart of some runs in which a character has its first code. -/
def ofFirst (runs : List Run) : Chart :=
  runs.foldl (fun chart r => addAll chart r.entries) ∅

/-- The chart of some runs in which a character has its last code. -/
def ofLast (runs : List Run) : Chart :=
  runs.foldl (fun chart r => r.entries.foldl (fun chart (c, code) => chart.insert c code) chart) ∅

end Chart
end TextTemplate
