/-
The natural order of names: as people sort them, with numbers inside a name compared as numbers. It
is for names of ASCII characters. Letters compare by code; behind a digit they come before what is no
letter, elsewhere after it.
-/
import TextTemplate.Text.Basic

namespace TextTemplate.Text

def isAsciiDigit (b : UInt8) : Bool := 0x30 ≤ b && b ≤ 0x39

def isAsciiLetter (b : UInt8) : Bool := (0x41 ≤ b && b ≤ 0x5A) || (0x61 ≤ b && b ≤ 0x7A)

/-- The number that some digits add to a number, in 64 bits. -/
def extendNumber (n : Int64) (digits : Text) : Int64 :=
  digits.foldl (fun n b => n * 10 + Int64.ofNat (b.toNat - 0x30)) n

/-- Compares two names from where they differ; `before` is what they share, last first. -/
def naturalLtHere (before a b : Text) : Bool :=
  match a, b with
  | [], _ => !b.isEmpty
  | _, [] => false
  | x :: _, y :: _ =>
    if isAsciiLetter x && isAsciiLetter y then x < y
    else if isAsciiLetter x || isAsciiLetter y then
      if before.head?.any isAsciiDigit then isAsciiLetter x else isAsciiLetter y
    else
      let behindNumber := (x == 0x30 || y == 0x30) && (before.takeWhile isAsciiDigit).any (· != 0x30)
      let start : Int64 := if behindNumber then 1 else 0
      let da := a.takeWhile isAsciiDigit
      let db := b.takeWhile isAsciiDigit
      let na := extendNumber start da
      let nb := extendNumber start db
      if na != nb then na < nb
      else if da.length != db.length then da.length < db.length
      else x < y

/-- Whether a name comes before another behind what they share. -/
def naturalLtFrom (before : Text) : Text → Text → Bool
  | x :: a, y :: b => if x = y then naturalLtFrom (x :: before) a b else naturalLtHere before (x :: a) (y :: b)
  | a, b => naturalLtHere before a b

/-- Whether a name comes before another in natural order. -/
def naturalLt (a b : Text) : Bool := naturalLtFrom [] a b

end TextTemplate.Text
