/-
What an unquoted scalar means: nothing, a truth value, a number, a time, or the text itself. A
writer quotes a text whenever a reader could take it for something else, also for what older
readers take for truth values or for numbers of base sixty.
-/
import TextTemplate.Settings.Version
import TextTemplate.Text.Number

namespace TextTemplate.Yaml

/-- What an unquoted scalar means. -/
inductive Meaning where
  | null
  | bool (b : Bool)
  /-- An integer, and whether it needs all of 64 bits without a sign. -/
  | integer (wide : Bool)
  | real
  | time
  | text
  deriving DecidableEq, Repr

/-! ## Numbers -/

/-- Whether the text has digits of a base only, and at least one. -/
def allDigits (base : Nat) (s : Text) : Bool :=
  !s.isEmpty && s.all fun b => (Numeral.digit? true b).any (· < base)

/-- The value of digits of a base. -/
def digitsValue (base : Nat) (s : Text) : Nat :=
  s.foldl (fun n b => n * base + (Numeral.digit? true b).getD 0) 0

/-- The number behind a sign: after `0x`, `0o` or `0b`, after a zero in base eight, else in base
ten. -/
def magnitude? (s : Text) : Option Nat :=
  let inBase (base : Nat) (digits : Text) :=
    if allDigits base digits then some (digitsValue base digits) else none
  match s with
  | [0x30] => some 0
  | 0x30 :: b :: digits =>
    let mark := Numeral.lowerByte b
    if mark = 0x78 then inBase 16 digits
    else if mark = 0x6F then inBase 8 digits
    else if mark = 0x62 then inBase 2 digits
    else inBase 8 (b :: digits)
  | s => inBase 10 s

/-- An integer of 64 bits, signed or not, from its size; the answer tells whether it is too large for
a signed one. -/
def fitting? (sign : Option UInt8) (size : Option Nat) : Option Bool :=
  size.bind fun n =>
    if sign = some 0x2D then if n ≤ Nat.pow 2 63 then some false else none
    else if n < Nat.pow 2 63 then some false
    else if sign.isNone && n < Nat.pow 2 64 then some true
    else none

/-- The sign of a numeral, and what follows it. -/
def splitSign : Text → Option UInt8 × Text
  | 0x2D :: s => (some 0x2D, s)
  | 0x2B :: s => (some 0x2B, s)
  | s => (none, s)

/-- Whether the text is an integer, and whether it is too large for a signed one. The sign may also
stand behind `0b` or `0o`. -/
def integer? (s : Text) : Option Bool :=
  let (sign, size) := splitSign s
  let late (base : Nat) (s : Text) : Option Bool :=
    let (sign, digits) := splitSign s
    fitting? sign (if allDigits base digits then some (digitsValue base digits) else none)
  match fitting? sign (magnitude? size) with
  | some wide => some wide
  | none =>
    match s with
    | 0x30 :: 0x62 :: s => late 2 s
    | 0x30 :: 0x6F :: s => late 8 s
    | _ => none

/-- The text without its sign. -/
def unsigned (s : Text) : Text := (splitSign s).2

/-- Whether the text is a decimal with an optional point and exponent. -/
def isDecimal (s : Text) : Bool :=
  let s := unsigned s
  let whole := s.takeWhile Text.isDigit
  let rest := s.drop whole.length
  let (places, rest) := match rest with
    | 0x2E :: r => (r.takeWhile Text.isDigit, r.dropWhile Text.isDigit)
    | r => ([], r)
  (!whole.isEmpty || !places.isEmpty) && match rest with
    | [] => true
    | b :: e => Numeral.lowerByte b == 0x65 && allDigits 10 (unsigned e)

/-- Whether a numeral is one of double precision. -/
def isDouble (s : Text) : Bool :=
  match Numeral.read s with
  | .malformed => false
  | .notANumber | .infinite _ => true
  | .finite _ mantissa base exponent =>
    mantissa == 0 || exponent < -4000 - 4 * Int.ofNat (Nat.log2 mantissa)
      || (exponent ≤ 2000 && !Numeral.atLeast mantissa base exponent Numeral.overflowBound 1)

/-! ## Times -/

/-- A number of one or two digits. -/
def shortNumber? : Text → Option (Nat × Text)
  | a :: b :: s =>
    if !Text.isDigit a then none
    else if Text.isDigit b then some ((a.toNat - 0x30) * 10 + (b.toNat - 0x30), s)
    else some (a.toNat - 0x30, b :: s)
  | [a] => if Text.isDigit a then some (a.toNat - 0x30, []) else none
  | [] => none

/-- Drops a byte that has to be there. -/
def expect (b : UInt8) : Text → Option Text
  | c :: s => if c = b then some s else none
  | [] => none

def daysIn (year month : Nat) : Nat :=
  if month = 2 then
    if year % 4 = 0 ∧ (year % 100 ≠ 0 ∨ year % 400 = 0) then 29 else 28
  else if month ∈ [4, 6, 9, 11] then 30 else 31

/-- Reads a date. -/
def date? (s : Text) : Option Text := do
  let year := s.take 4
  if !(year.length == 4 && year.all Text.isDigit) then none
  let s ← expect 0x2D (s.drop 4)
  let (month, s) ← shortNumber? s
  let s ← expect 0x2D s
  let (day, s) ← shortNumber? s
  if 1 ≤ month ∧ month ≤ 12 ∧ 1 ≤ day ∧ day ≤ daysIn (digitsValue 10 year) month then some s
  else none

/-- Reads the time of a day, with fractions of a second. -/
def clock? (s : Text) : Option Text := do
  let (hour, s) ← shortNumber? s
  let s ← expect 0x3A s
  let (minute, s) ← shortNumber? s
  let s ← expect 0x3A s
  let (second, s) ← shortNumber? s
  if hour ≥ 24 ∨ minute ≥ 60 ∨ second ≥ 60 then none
  match s with
  | b :: d :: r =>
    if (b = 0x2E || b = 0x2C) && Text.isDigit d then some (r.dropWhile Text.isDigit) else some s
  | s => some s

/-- Reads a zone: `Z`, or hours and minutes with a sign. -/
def zone? : Text → Option Text
  | 0x5A :: s => some s
  | [sign, a, b, 0x3A, c, d] =>
    if (sign = 0x2B || sign = 0x2D) && [a, b, c, d].all Text.isDigit
        && digitsValue 10 [a, b] ≤ 24 && digitsValue 10 [c, d] < 60 then some []
    else none
  | _ => none

/-- Whether the text is a date, or a date and a time. -/
def isTime (s : Text) : Bool :=
  match date? s with
  | none => false
  | some [] => true
  | some (0x20 :: s) => clock? s == some []
  | some (b :: s) => (b == 0x54 || b == 0x74) && (clock? s).bind zone? == some []

/-! ## Meanings -/

def nullWords : List Text := ["", "~", "null", "Null", "NULL"].map utf8

def trueWords : List Text := ["true", "True", "TRUE"].map utf8

def falseWords : List Text := ["false", "False", "FALSE"].map utf8

/-- The words for infinity and for no number. -/
def numberWords : List Text :=
  [".nan", ".NaN", ".NAN", ".inf", ".Inf", ".INF", "+.inf", "+.Inf", "+.INF", "-.inf", "-.Inf",
    "-.INF"].map utf8

/-- The meaning of an unquoted scalar. -/
def meaning (s : Text) : Meaning :=
  if nullWords.contains s then .null
  else if trueWords.contains s then .bool true
  else if falseWords.contains s then .bool false
  else if numberWords.contains s then .real
  else match s with
    | [] => .null
    | b :: _ =>
      if b = 0x2E then if isDouble s then .real else .text
      else if Text.isDigit b || b = 0x2B || b = 0x2D then
        let plain := s.filter (· != 0x5F)
        if isTime s then .time
        else match integer? plain with
          | some wide => .integer wide
          | none => if isDecimal plain && isDouble plain then .real else .text
      else .text

/-! ## Texts that need quotes -/

/-- What older readers take for a truth value. -/
def oldBoolWords : List Text :=
  ["y", "Y", "yes", "Yes", "YES", "on", "On", "ON", "n", "N", "no", "No", "NO", "off", "Off",
    "OFF"].map utf8

/-- Parts of base sixty behind colons, with places behind the last. -/
def sixties : List Text → Bool
  | [] => false
  | [p] =>
    let (digits, places) := (p.takeWhile (· != 0x2E), p.dropWhile (· != 0x2E))
    isPart digits && places.tail.all fun b => Text.isDigit b || b == 0x5F
  | p :: ps => isPart p && sixties ps
where
  isPart (p : Text) : Bool :=
    match p with
    | [a] => Text.isDigit a
    | [a, b] => 0x30 ≤ a && a ≤ 0x35 && Text.isDigit b
    | _ => false

/-- What older readers take for a number of base sixty. -/
def isSixty (s : Text) : Bool :=
  match Text.pieces 0x3A (unsigned s) with
  | first :: rest =>
    (first.head?.any Text.isDigit) && first.all (fun b => Text.isDigit b || b == 0x5F)
      && sixties rest
  | [] => false

/-- Whether a reader takes the unquoted text for the text itself. -/
def isPlainText (s : Text) : Bool := meaning s == .text && !isSixty s && !oldBoolWords.contains s

end TextTemplate.Yaml
