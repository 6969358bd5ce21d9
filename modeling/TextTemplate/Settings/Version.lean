/-
Numerals in version texts. A numeral is a decimal or a hexadecimal number with an optional point
and exponent, where underscores may stand between digits, or a name of infinity or of no number.
What is asked of it is whether it is at least ten when rounded to double precision: a numeral that
double precision cannot hold, and a text that is no numeral, count as recent versions.
-/
import TextTemplate.Text.Number

namespace TextTemplate

/-- What a text says as a numeral. -/
inductive Numeral where
  | malformed
  | notANumber
  | infinite (negative : Bool)
  /-- `mantissa * base ^ exponent`. -/
  | finite (negative : Bool) (mantissa base : Nat) (exponent : Int)
  deriving DecidableEq, Repr

namespace Numeral

/-- An ASCII letter in lower case. -/
def lowerByte (b : UInt8) : UInt8 := if 0x41 ≤ b && b ≤ 0x5A then b + 0x20 else b

/-- The value of a digit of a numeral, hexadecimal or not. -/
def digit? (hex : Bool) (b : UInt8) : Option Nat :=
  let c := lowerByte b
  if Text.isDigit b then some (b.toNat - 0x30)
  else if hex && 0x61 ≤ c && c ≤ 0x66 then some (c.toNat - 0x57)
  else none

/-- The digits of a numeral read so far. -/
structure Digits where
  mantissa : Nat
  /-- Digits behind the point. -/
  places : Nat
  sawPoint : Bool
  sawDigit : Bool

/-- Reads digits, underscores and at most one point. -/
def digits (hex : Bool) (d : Digits) : Text → Digits × Text
  | [] => (d, [])
  | b :: s =>
    if b = 0x5F then digits hex d s
    else if b = 0x2E && !d.sawPoint then digits hex { d with sawPoint := true } s
    else match digit? hex b with
      | some v =>
        digits hex
          { d with
            mantissa := d.mantissa * (if hex then 16 else 10) + v
            places := if d.sawPoint then d.places + 1 else d.places
            sawDigit := true } s
      | none => (d, b :: s)

/-- Whether underscores stand only between digits; `previous` is the kind of the byte before: a
digit, an underscore, or something else. -/
def underscoresOk (hex : Bool) (previous : UInt8) : Text → Bool
  | [] => previous != 0x5F
  | b :: s =>
    if (digit? hex b).isSome then underscoresOk hex 0x30 s
    else if b = 0x5F then previous == 0x30 && underscoresOk hex 0x5F s
    else previous != 0x5F && underscoresOk hex 0x21 s

/-- The largest exponent that is told apart from larger ones. -/
def exponentCap : Nat := 10000

/-- The value of an exponent's digits. -/
def exponentOf (s : Text) : Nat :=
  s.foldl (fun e b => if Text.isDigit b && e < exponentCap then e * 10 + (b.toNat - 0x30) else e) 0

/-- Reads the exponent behind the digits, if there is one; nothing when it is malformed. -/
def exponent? (hex : Bool) (s : Text) : Option (Option Int) :=
  match s with
  | [] => some none
  | b :: s =>
    if lowerByte b != (if hex then 0x70 else 0x65) then none
    else
      let (negative, s) := match s with
        | 0x2D :: s => (true, s)
        | 0x2B :: s => (false, s)
        | s => (false, s)
      if (s.head?.map Text.isDigit).getD false && s.all (fun b => Text.isDigit b || b == 0x5F) then
        some (some (if negative then -Int.ofNat (exponentOf s) else Int.ofNat (exponentOf s)))
      else none

/-- Reads a number behind its sign. -/
def number (negative : Bool) (s : Text) : Numeral :=
  let (hex, body) := match s with
    | 0x30 :: x :: c :: r => if lowerByte x = 0x78 then (true, c :: r) else (false, s)
    | _ => (false, s)
  let (d, rest) := digits hex ⟨0, 0, false, false⟩ body
  if !d.sawDigit || (s.contains 0x5F && !underscoresOk hex (if hex then 0x30 else 0x21) body) then
    malformed
  else match exponent? hex rest with
    | none => malformed
    | some none =>
      if hex then malformed else finite negative d.mantissa 10 (-Int.ofNat d.places)
    | some (some e) =>
      if hex then finite negative d.mantissa 2 (e - 4 * Int.ofNat d.places)
      else finite negative d.mantissa 10 (e - Int.ofNat d.places)

/-- Reads a text. -/
def read (s : Text) : Numeral :=
  let (signed, negative, body) := match s with
    | 0x2D :: r => (true, true, r)
    | 0x2B :: r => (true, false, r)
    | _ => (false, false, s)
  let word := body.map lowerByte
  if word = utf8 "inf" || word = utf8 "infinity" then infinite negative
  else if !signed && word = utf8 "nan" then notANumber
  else number negative body

/-- Whether `mantissa * base ^ exponent` is at least `num / den`. -/
def atLeast (mantissa base : Nat) (exponent : Int) (num den : Nat) : Bool :=
  match exponent with
  | .ofNat e => num ≤ mantissa * base.pow e * den
  | .negSucc e => num * base.pow (e + 1) ≤ mantissa * den

/-- Numbers this large exceed double precision. -/
def overflowBound : Nat := Nat.pow 2 1024 - Nat.pow 2 970

/-- Whether a numeral is at least ten in double precision. Ten less half a unit in the last place
below it is rounded up to ten. -/
def isAtLeastTen : Numeral → Bool
  | malformed => true
  | notANumber => false
  | infinite negative => !negative
  | finite negative mantissa base exponent =>
    if mantissa = 0 then false
    else if exponent > 2000 then true
    else if exponent < -4000 - 4 * Int.ofNat (Nat.log2 mantissa) then false
    else atLeast mantissa base exponent overflowBound 1
      || (!negative && atLeast mantissa base exponent (10 * Nat.pow 2 50 - 1) (Nat.pow 2 50))

end Numeral
end TextTemplate
