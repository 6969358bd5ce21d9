/-
Numbers in decimal. A number is written without an exponent and with as few digits as tell it from
the other numbers of its precision; it is read from digits with an optional point, sign and
exponent, and the infinities have names.
-/
import TextTemplate.Hcl.Number
import TextTemplate.Text.Number

namespace TextTemplate.Hcl

/-- The decimal fraction `0.d₁d₂…` times a power of ten; the last digit is not zero. -/
structure Digits where
  digits : Array Nat
  /-- How many digits stand before the point. -/
  point : Int
  deriving DecidableEq, Repr

namespace Digits

/-- Digits without zeros at their end. -/
def trimmed (digits : List Nat) (point : Int) : Digits :=
  ⟨((digits.reverse.dropWhile (· == 0)).reverse).toArray, point⟩

/-- The digits of a natural number. -/
def ofNat (n : Nat) : List Nat := (Nat.toDigits 10 n).map fun c => c.toNat - 0x30

/-- All digits of `m * 2 ^ e`. -/
def ofBinary (m : Nat) (e : Int) : Digits :=
  if m = 0 then ⟨#[], 0⟩
  else if e ≥ 0 then
    let ds := ofNat (m <<< e.toNat)
    trimmed ds ds.length
  else
    let down := min (-e).toNat (Number.trailingZeros m)
    let places := (-e).toNat - down
    let ds := ofNat ((m >>> down) * Nat.pow 5 places)
    trimmed ds (Int.ofNat ds.length - places)

/-- The digit at a place, zero behind the last. -/
def get (d : Digits) (i : Nat) : Nat := d.digits[i]?.getD 0

/-- The first `n` digits. -/
def roundDown (d : Digits) (n : Nat) : Digits :=
  if n ≥ d.digits.size then d else trimmed (d.digits.toList.take n) d.point

/-- The first `n` digits and one more in the last place. -/
def roundUp (d : Digits) (n : Nat) : Digits :=
  if n ≥ d.digits.size then d
  else
    match ((d.digits.toList.take n).reverse.dropWhile (· == 9)) with
    | [] => ⟨#[1], d.point + 1⟩
    | last :: rest => ⟨((last + 1) :: rest).reverse.toArray, d.point⟩

/-- The nearest of both, and of two the one with an even last digit. -/
def round (d : Digits) (n : Nat) : Digits :=
  let next := d.get n
  let up := if next == 5 && n + 1 == d.digits.size then n > 0 && d.get (n - 1) % 2 == 1 else next ≥ 5
  if up then d.roundUp n else d.roundDown n

/-- The shortest start of digits that lies between two bounds, rounded to the side on which it
does. The bounds count when they are `inclusive`. Looked at are the `left` places from `i` on. -/
def shorten (lower upper : Digits) (inclusive : Bool) (d : Digits) : (left i : Nat) → Digits
  | 0, _ => d
  | left + 1, i =>
    let m := d.get i
    let l := lower.get i
    let u := upper.get i
    let down := l != m || (inclusive && i + 1 == lower.digits.size)
    let up := m != u && (inclusive || m + 1 < u || i + 1 < upper.digits.size)
    if down && up then d.round (i + 1)
    else if down then d.roundDown (i + 1)
    else if up then d.roundUp (i + 1)
    else shorten lower upper inclusive d left (i + 1)

/-- The digits that tell `m * 2 ^ e` from its neighbours of the same precision. The bounds are half a
unit of the last place away, and count for an even mantissa, to which a half is rounded. -/
def shortest (precision m : Nat) (e : Int) : Digits :=
  let d := ofBinary m e
  if m = 0 then d
  else
    let bits := Number.bitLength m
    let wide := precision + 1
    let (m, e) := if bits ≤ wide then (m <<< (wide - bits), e - (wide - bits : Nat))
      else (m >>> (bits - wide), e + (bits - wide : Nat))
    shorten (ofBinary (m - 1) e) (ofBinary (m + 1) e) (m / 2 % 2 == 0) d d.digits.size 0

/-- The decimal text. -/
def render (d : Digits) : Text :=
  let text (ds : List Nat) : Text := ds.map fun n => (0x30 + n).toUInt8
  let ds := d.digits.toList
  let whole :=
    if d.point ≤ 0 then [0]
    else ds.take d.point.toNat ++ List.replicate (d.point.toNat - ds.length) 0
  let places :=
    if d.point ≤ 0 then List.replicate (if ds.isEmpty then 0 else (-d.point).toNat) 0 ++ ds
    else ds.drop d.point.toNat
  text whole ++ if places.isEmpty then [] else utf8 "." ++ text places

end Digits

namespace Number

/-- The decimal text of a number. -/
def render (a : Number) : Text :=
  match a.magnitude with
  | .infinite => if a.negative then utf8 "-Inf" else utf8 "+Inf"
  | .finite m e => (if a.negative then utf8 "-" else []) ++ (Digits.shortest a.precision m e).render

/-- Whether two numbers have the same decimal text; the two zeros are the same. -/
def same (a b : Number) : Bool :=
  a.sign == b.sign &&
    match a.magnitude, b.magnitude with
    | .infinite, .infinite => true
    | .finite m e, .finite n f =>
      Digits.shortest a.precision m e == Digits.shortest b.precision n f
    | _, _ => false

/-! ## Reading -/

/-- Multiplies `z` by `f ^ n`; squares of `f` keep more bits than `z`. -/
def powGo (precision : Nat) (n : Nat) (z f : Number) : Option Number :=
  if n = 0 then some z
  else do
    let z ← if n % 2 = 1 then mulTo? precision z f else some z
    powGo precision (n / 2) z (← mulTo? (precision + 64) f f)
termination_by n

/-- A power of five, exact up to the largest of 64 bits. -/
def powerOfFive? (precision n : Nat) : Option Number :=
  if n ≤ 27 then some (rounded precision false (Nat.pow 5 n) 0)
  else powGo precision (n - 27) (rounded precision false (Nat.pow 5 27) 0)
    (rounded (precision + 64) false 5 0)

/-- The number `m * 2 ^ two * 5 ^ five`, if its power of two can be written. -/
def scaled? (negative : Bool) (m : Nat) (two five : Int) : Option Number :=
  let p := writtenPrecision
  let place := two + bitLength m
  if m = 0 then some (zero p negative)
  else if place < minPlace || place > maxPlace then none
  else if five = 0 then some (rounded p negative m two)
  else do
    let power ← powerOfFive? (p + 64) five.natAbs
    let whole : Number := ⟨negative, .finite m two, p⟩
    if five < 0 then divTo? p whole power else mulTo? p whole power

/-- Digits with an optional point, and how many are behind it. -/
def readMantissa? (s : Text) : Option (Nat × Nat × Text) :=
  let whole := s.takeWhile Text.isDigit
  let rest := s.drop whole.length
  let (places, rest) := match rest with
    | 0x2E :: r => (r.takeWhile Text.isDigit, r.dropWhile Text.isDigit)
    | r => ([], r)
  (Text.readNat? (whole ++ places)).map fun m => (m, places.length, rest)

/-- Reads a number without a sign: an exponent behind `e` is one of ten, behind `p` one of two. -/
def readUnsigned? (negative : Bool) (s : Text) : Option Number := do
  let (m, places, rest) ← readMantissa? s
  let (exponent, ofTen) ← match rest with
    | [] => some (0, true)
    | c :: r =>
      if c = 0x65 || c = 0x45 then (Text.readInt64? r).map (·, true)
      else if c = 0x70 || c = 0x50 then (Text.readInt64? r).map (·, false)
      else none
  scaled? negative m (exponent - places) (if ofTen then exponent - places else -places)

/-- Reads a number. -/
def read? (s : Text) : Option Number :=
  let (negative, s) := match s with
    | 0x2D :: s => (true, s)
    | 0x2B :: s => (false, s)
    | s => (false, s)
  if s = utf8 "Inf" || s = utf8 "inf" then some (infinity writtenPrecision negative)
  else readUnsigned? negative s

end Number
end TextTemplate.Hcl
