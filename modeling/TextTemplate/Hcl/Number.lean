/-
Numbers: binary fractions that keep so many bits, and the infinities. What does not fit is rounded
to the nearest, and to the even one of two. A zero has a sign, and what has no value, such as the
difference of two infinities, is none.
-/
import TextTemplate.Text.Basic

namespace TextTemplate.Hcl

/-- The size of a number without its sign. -/
inductive Magnitude where
  /-- `mantissa * 2 ^ exponent`. -/
  | finite (mantissa : Nat) (exponent : Int)
  | infinite
  deriving DecidableEq, Repr

/-- A number. -/
structure Number where
  negative : Bool
  magnitude : Magnitude
  /-- How many bits its mantissa may have. -/
  precision : Nat
  deriving DecidableEq, Repr

namespace Number

/-- The precision of numbers that are written down. -/
def writtenPrecision : Nat := 512

/-- The precision of numbers that count. -/
def countPrecision : Nat := 64

/-- The bits of a mantissa. -/
def bitLength (n : Nat) : Nat := if n = 0 then 0 else Nat.log2 n + 1

/-- The zeros at the end of the bits of a mantissa that is not zero. -/
def trailingZeros (n : Nat) : Nat := Nat.log2 (n ^^^ (n - 1))

/-- A mantissa cut to so many bits, and how many bits are cut off it. -/
def roundBits (precision m : Nat) : Nat × Nat :=
  let cut := bitLength m - precision
  if cut = 0 then (m, 0)
  else
    let kept := m >>> cut
    let rest := m - (kept <<< cut)
    let half := 1 <<< (cut - 1)
    let up := rest > half || (rest == half && kept % 2 == 1)
    (if up then kept + 1 else kept, cut)

/-- The place of the highest bit lies between these. -/
def maxPlace : Int := 2147483647

def minPlace : Int := -2147483648

def zero (precision : Nat) (negative : Bool) : Number := ⟨negative, .finite 0 0, precision⟩

def infinity (precision : Nat) (negative : Bool) : Number := ⟨negative, .infinite, precision⟩

/-- The number nearest to `m * 2 ^ e`; one that is too large is infinite, one too small is zero. -/
def rounded (precision : Nat) (negative : Bool) (m : Nat) (e : Int) : Number :=
  if m = 0 then zero precision negative
  else
    let (kept, cut) := roundBits precision m
    let place := e + cut + bitLength kept
    if place > maxPlace then infinity precision negative
    else if place < minPlace then zero precision negative
    else ⟨negative, .finite kept (e + cut), precision⟩

/-- A number that counts. -/
def ofNat (n : Nat) : Number := rounded countPrecision false n 0

def isZero (a : Number) : Bool :=
  match a.magnitude with
  | .finite m _ => m == 0
  | .infinite => false

def sign (a : Number) : Int := if a.isZero then 0 else if a.negative then -1 else 1

/-! ## Order -/

/-- Whether `m * 2 ^ e < n * 2 ^ f`; the places of the highest bits decide unless they agree. -/
def finiteLt (m : Nat) (e : Int) (n : Nat) (f : Int) : Bool :=
  if m = 0 || n = 0 then m < n
  else
    let place := e + bitLength m
    let otherPlace := f + bitLength n
    if place ≠ otherPlace then place < otherPlace
    else (m <<< (e - f).toNat) < (n <<< (f - e).toNat)

def magnitudeLt : Magnitude → Magnitude → Bool
  | .finite m e, .finite n f => finiteLt m e n f
  | .finite _ _, .infinite => true
  | .infinite, _ => false

def lt (a b : Number) : Bool :=
  if a.sign ≠ b.sign then a.sign < b.sign
  else if a.sign = 0 then false
  else if a.negative then magnitudeLt b.magnitude a.magnitude
  else magnitudeLt a.magnitude b.magnitude

/-! ## Arithmetic -/

def neg (a : Number) : Number := { a with negative := !a.negative }

/-- The sum of two finite numbers, the first of which has the larger exponent. A second one that
is too small to matter but for the rounding counts as a bit far below. -/
def sumFrom (precision : Nat) (a : Bool × Nat × Int) (b : Bool × Nat × Int) : Number :=
  let (s, m, e) := a
  let (t, n, f) := b
  let far : Nat := precision + bitLength n + 4
  let (n, f) := if (e - f).toNat > far then (1, e - (precision + 4)) else (n, f)
  let m : Int := (m <<< (e - f).toNat : Nat)
  let total := (if s then -m else m) + (if t then -(n : Int) else n)
  rounded precision (total < 0) total.natAbs f

/-- The sum. -/
def add? (a b : Number) : Option Number :=
  let precision := max a.precision b.precision
  match a.magnitude, b.magnitude with
  | .infinite, .infinite =>
    if a.negative = b.negative then some (infinity precision a.negative) else none
  | .infinite, _ => some (infinity precision a.negative)
  | _, .infinite => some (infinity precision b.negative)
  | .finite m e, .finite n f =>
    if m = 0 && n = 0 then some (zero precision (a.negative && b.negative))
    else if n = 0 then some { a with precision }
    else if m = 0 then some { b with precision }
    else if e ≥ f then some (sumFrom precision (a.negative, m, e) (b.negative, n, f))
    else some (sumFrom precision (b.negative, n, f) (a.negative, m, e))

def sub? (a b : Number) : Option Number := a.add? b.neg

/-- The product with so many bits. -/
def mulTo? (precision : Nat) (a b : Number) : Option Number :=
  let negative := a.negative != b.negative
  match a.magnitude, b.magnitude with
  | .finite m e, .finite n f => some (rounded precision negative (m * n) (e + f))
  | _, _ => if a.isZero || b.isZero then none else some (infinity precision negative)

/-- The bits a number needs. -/
def neededBits (a : Number) : Nat :=
  match a.magnitude with
  | .finite m _ => if m = 0 then 0 else bitLength m - trailingZeros m
  | .infinite => 0

/-- The product: it has the bits it needs, at most those of a number that is written down. -/
def mul? (a b : Number) : Option Number :=
  (mulTo? writtenPrecision a b).map fun c =>
    { c with precision := max (max a.precision b.precision) c.neededBits }

/-- The quotient of two finite numbers, the second of which is not zero. One more bit tells that
there is a rest. -/
def ratio (precision : Nat) (negative : Bool) (m : Nat) (e : Int) (n : Nat) (f : Int) : Number :=
  let shift := precision + 2 + bitLength n - bitLength m
  let q := (m <<< shift) / n
  let rest := (m <<< shift) % n
  rounded precision negative (2 * q + if rest = 0 then 0 else 1) (e - f - shift - 1)

/-- The quotient with so many bits; what is not zero divided by zero is infinite. -/
def divTo? (precision : Nat) (a b : Number) : Option Number :=
  let negative := a.negative != b.negative
  match a.magnitude, b.magnitude with
  | .infinite, .infinite => none
  | .infinite, _ => some (infinity precision negative)
  | _, .infinite => some (zero precision negative)
  | .finite m e, .finite n f =>
    if n = 0 then (if m = 0 then none else some (infinity precision negative))
    else some (ratio precision negative m e n f)

def div? (a b : Number) : Option Number := divTo? (max a.precision b.precision) a b

/-- The whole part of a number, with so many bits; an infinity has none. -/
def truncated? (precision : Nat) (a : Number) : Option Number :=
  match a.magnitude with
  | .infinite => none
  | .finite m e =>
    if e ≥ 0 then some (rounded precision (a.negative && m != 0) m e)
    else
      let whole := m >>> (-e).toNat
      some (rounded precision (a.negative && whole != 0) whole 0)

/-- The rest of a division that is carried to a whole number toward zero; a division by zero leaves
all. It is computed with the bits of the dividend. -/
def mod? (a b : Number) : Option Number :=
  if b.isZero then some a
  else do
    let whole ← (← a.div? b).truncated? a.precision
    a.sub? (← mulTo? a.precision b whole)

/-- The natural number it is, if it is one of at most 63 bits. -/
def toNat? (a : Number) : Option Nat :=
  match a.magnitude with
  | .infinite => none
  | .finite m e =>
    if m = 0 then some 0
    else if a.negative || e + bitLength m > 63 then none
    else if e ≥ 0 then some (m <<< e.toNat)
    else if (-e).toNat ≤ trailingZeros m then some (m >>> (-e).toNat)
    else none

end Number
end TextTemplate.Hcl
