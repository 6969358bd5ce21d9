/-
Flags on a command line. A flag is given by its name behind two dashes or by its letter behind one;
letters of flags that take no value may stand together. A value stands behind an equals sign, right
behind a letter, or as the next argument. Arguments that are no flags may stand anywhere, and behind
two dashes everything is one.
-/
import TextTemplate.Settings.Version
import TextTemplate.Text.Quoted

namespace TextTemplate.CommandLine

/-- What a flag takes. -/
inductive FlagKind where
  | text
  /-- A text, any number of times. -/
  | texts
  | integer
  /-- True or false; given alone it is true. -/
  | switch
  deriving DecidableEq, Repr

/-- A flag of a command. -/
structure Flag where
  name : Text
  letter : Option UInt8
  kind : FlagKind
  /-- The value it has when it is not given. -/
  default : Text
  usage : Text
  deriving DecidableEq, Repr

/-- Why a command line cannot be read. -/
inductive FlagError where
  | badSyntax (argument : Text)
  | unknown (name : Text)
  | unknownLetter (letter : UInt8) (letters : Text)
  | valueMissing (argument : Text)
  | valueMissingAt (letter : UInt8) (letters : Text)
  | invalidValue (flag : Flag) (value reason : Text)
  deriving DecidableEq, Repr

/-- A byte between single quotes, as the character of its number. -/
def quotedLetter (b : UInt8) : Text :=
  let inside :=
    if b = 0x27 then utf8 "\\'"
    else if b = 0x22 then utf8 "\""
    else Rune.quoted ⟨b.toNat, Rune.encode b.toNat⟩
  utf8 "'" ++ inside ++ utf8 "'"

/-- A flag by letter and name. -/
def Flag.label (f : Flag) : Text :=
  match f.letter with
  | some letter => utf8 "-" ++ [letter] ++ utf8 ", --" ++ f.name
  | none => utf8 "--" ++ f.name

def FlagError.message : FlagError → Text
  | badSyntax argument => utf8 "bad flag syntax: " ++ argument
  | unknown name => utf8 "unknown flag: --" ++ name
  | unknownLetter letter letters =>
    utf8 "unknown shorthand flag: " ++ quotedLetter letter ++ utf8 " in -" ++ letters
  | valueMissing argument => utf8 "flag needs an argument: " ++ argument
  | valueMissingAt letter letters =>
    utf8 "flag needs an argument: " ++ quotedLetter letter ++ utf8 " in -" ++ letters
  | invalidValue flag value reason =>
    utf8 "invalid argument " ++ value.quoted ++ utf8 " for " ++ flag.label.quoted ++ utf8 " flag: "
      ++ reason

/-! ## Values -/

/-- The words for true and false. -/
def readSwitch? (s : Text) : Option Bool :=
  if (["1", "t", "T", "TRUE", "true", "True"].map utf8).contains s then some true
  else if (["0", "f", "F", "FALSE", "false", "False"].map utf8).contains s then some false
  else none

/-- How the reading of an integer ends. -/
inductive IntegerFault where
  | malformed
  | outOfRange
  deriving DecidableEq, Repr

/-- The value of digits of a base with underscores between them; a value over 64 bits ends the
reading. -/
def magnitudeOf (base : Nat) : (n : Nat) → Text → Except IntegerFault Nat
  | n, [] => .ok n
  | n, b :: s =>
    if b = 0x5F then magnitudeOf base n s
    else match Numeral.digit? true b with
      | none => .error .malformed
      | some d =>
        if d ≥ base then .error .malformed
        else if n * base + d ≥ Nat.pow 2 64 then .error .outOfRange
        else magnitudeOf base (n * base + d) s

/-- The base of an integer behind its sign, and its digits. -/
def baseOf (s : Text) : Nat × Text :=
  match s with
  | 0x30 :: b :: c :: digits =>
    let mark := Numeral.lowerByte b
    if mark = 0x62 then (2, c :: digits)
    else if mark = 0x6F then (8, c :: digits)
    else if mark = 0x78 then (16, c :: digits)
    else (8, b :: c :: digits)
  | 0x30 :: digits => (8, digits)
  | digits => (10, digits)

/-- Whether underscores stand only between digits, or behind the mark of a base. -/
def underscoresFit (s : Text) : Bool :=
  match s with
  | 0x30 :: b :: digits =>
    let mark := Numeral.lowerByte b
    if mark = 0x62 || mark = 0x6F || mark = 0x78 then
      Numeral.underscoresOk (mark == 0x78) 0x30 digits
    else Numeral.underscoresOk false 0x5E s
  | s => Numeral.underscoresOk false 0x5E s

/-- Checks an integer of 64 bits in base ten, or with the mark of another base. -/
def checkInteger (s : Text) : Except IntegerFault Unit :=
  let (negative, digits) := match s with
    | 0x2D :: r => (true, r)
    | 0x2B :: r => (false, r)
    | r => (false, r)
  if digits.isEmpty then .error .malformed
  else
    let (base, rest) := baseOf digits
    match magnitudeOf base 0 rest with
    | .error e => .error e
    | .ok n =>
      if rest.contains 0x5F && !underscoresFit digits then .error .malformed
      else if n > Nat.pow 2 63 || (n = Nat.pow 2 63 && !negative) then .error .outOfRange
      else .ok ()

/-- What is wrong with a value of a kind. -/
def FlagKind.fault? (kind : FlagKind) (value : Text) : Option Text :=
  let parsing (reader : String) (what : String) :=
    utf8 "strconv." ++ utf8 reader ++ utf8 ": parsing " ++ value.quoted ++ utf8 ": " ++ utf8 what
  match kind with
  | text | texts => none
  | switch => if (readSwitch? value).isSome then none else some (parsing "ParseBool" "invalid syntax")
  | integer =>
    match checkInteger value with
    | .ok () => none
    | .error .malformed => some (parsing "ParseInt" "invalid syntax")
    | .error .outOfRange => some (parsing "ParseInt" "value out of range")

/-! ## Command lines -/

/-- A command line: the flags given with their values, and the other arguments, both in order. -/
structure Line where
  given : List (Text × Text)
  arguments : List Text
  deriving DecidableEq, Repr

namespace Line

def addFlag (l : Line) (f : Flag) (value : Text) : Except FlagError Line :=
  match f.kind.fault? value with
  | some reason => .error (.invalidValue f value reason)
  | none => .ok { l with given := l.given ++ [(f.name, value)] }

/-- The last value given to a flag, or else its default. -/
def value (l : Line) (f : Flag) : Text :=
  ((l.given.reverse.find? (·.1 == f.name)).map Prod.snd).getD f.default

/-- All the values given to a flag. -/
def values (l : Line) (f : Flag) : List Text :=
  (l.given.filter (·.1 == f.name)).map Prod.snd

def isOn (l : Line) (f : Flag) : Bool := (readSwitch? (l.value f)).getD false

end Line

/-- Where the value of a flag is found. -/
inductive ValuePlace where
  | here (value : Text)
  /-- It is the next argument. -/
  | next
  deriving DecidableEq, Repr

/-- Reads a flag by name: the flag, and where its value is. -/
def readNamed (flags : List Flag) (argument : Text) : Except FlagError (Flag × ValuePlace) :=
  let body := argument.drop 2
  if body.head? = some 0x2D || body.head? = some 0x3D then .error (.badSyntax argument)
  else
    let (name, value?) := match Text.cut? 0x3D body with
      | some (name, value) => (name, some value)
      | none => (body, none)
    match flags.find? (·.name == name) with
    | none => .error (.unknown name)
    | some f =>
      match value? with
      | some value => .ok (f, .here value)
      | none => .ok (f, if f.kind = .switch then .here (utf8 "true") else .next)

/-- Reads letters of flags: the flags with values, and the last letters when the value of their flag
is the next argument. -/
def readLetters (flags : List Flag) : Text → Except FlagError (List (Flag × Text) × Option (Flag × Text))
  | [] => .ok ([], none)
  | letter :: rest =>
    if (utf8 "test.").isPrefixOf (letter :: rest) then .ok ([], none)
    else match flags.find? (·.letter == some letter) with
      | none => .error (.unknownLetter letter (letter :: rest))
      | some f =>
        match rest with
        | 0x3D :: c :: value => .ok ([(f, c :: value)], none)
        | _ =>
          if f.kind = .switch then
            (readLetters flags rest).map fun (fs, last) => ((f, utf8 "true") :: fs, last)
          else if rest.isEmpty then .ok ([], some (f, letter :: rest))
          else .ok ([(f, rest)], none)

/-- Gives flags their values in order. -/
def addFlags : Line → List (Flag × Text) → Except FlagError Line
  | l, [] => .ok l
  | l, (f, value) :: rest => (l.addFlag f value).bind fun l => addFlags l rest

/-- Reads the arguments of a command behind those in `l`. -/
def readFrom (flags : List Flag) (l : Line) : List Text → Except FlagError Line
  | [] => .ok l
  | argument :: rest =>
    match argument with
    | 0x2D :: 0x2D :: [] => .ok { l with arguments := l.arguments ++ rest }
    | 0x2D :: 0x2D :: _ =>
      match readNamed flags argument, rest with
      | .error e, _ => .error e
      | .ok (f, .here value), rest => (l.addFlag f value).bind fun l => readFrom flags l rest
      | .ok (_, .next), [] => .error (.valueMissing argument)
      | .ok (f, .next), value :: rest => (l.addFlag f value).bind fun l => readFrom flags l rest
    | 0x2D :: c :: letters =>
      match readLetters flags (c :: letters) with
      | .error e => .error e
      | .ok (given, last) =>
        match addFlags l given with
        | .error e => .error e
        | .ok l =>
          match last, rest with
          | none, rest => readFrom flags l rest
          | some (_, letters), [] => .error (.valueMissingAt (letters.headD 0) letters)
          | some (f, _), value :: rest => (l.addFlag f value).bind fun l => readFrom flags l rest
    | _ => readFrom flags { l with arguments := l.arguments ++ [argument] } rest

/-- Reads the arguments of a command. -/
def read (flags : List Flag) (arguments : List Text) : Except FlagError Line :=
  readFrom flags ⟨[], []⟩ arguments

end TextTemplate.CommandLine
