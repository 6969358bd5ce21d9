/-
Decimal integers of 64 bits: an optional sign and digits. A text that is anything else, or a number
out of range, is none.
-/
import TextTemplate.Text.Basic

namespace TextTemplate.Text

/-- A decimal digit. -/
def isDigit (b : UInt8) : Bool := 0x30 ≤ b && b ≤ 0x39

/-- The number of a text of digits. -/
def readNat? (s : Text) : Option Nat :=
  if s.isEmpty then none
  else s.foldl (fun n b => n.bind fun n =>
    if isDigit b then some (n * 10 + (b.toNat - 0x30)) else none) (some 0)

/-- The integer of a text, if it has 64 bits. -/
def readInt64? (s : Text) : Option Int :=
  let value := match s with
    | 0x2D :: s => (readNat? s).map fun n => -(n : Int)
    | 0x2B :: s => (readNat? s).map fun n => (n : Int)
    | s => (readNat? s).map fun n => (n : Int)
  value.filter fun n => -Int.ofNat (Nat.pow 2 63) ≤ n && n < Int.ofNat (Nat.pow 2 63)

end TextTemplate.Text
