/-
Terminal styles: the escape sequences around emphasised text, and diagnostics and callers written
with them.
-/
import TextTemplate.Diagnostic

namespace TextTemplate.Console

/-- A text between two escape sequences, each given by its parameters. -/
def styled (start stop s : Text) : Text :=
  utf8 "\x1b[" ++ start ++ utf8 "m" ++ s ++ utf8 "\x1b[" ++ stop ++ utf8 "m"

def bold (s : Text) : Text := styled (utf8 "1") (utf8 "22") s

def faint (s : Text) : Text := styled (utf8 "2") (utf8 "22") s

/-- A bold text in a color. -/
def boldIn (color : Nat) (s : Text) : Text := styled (Text.ofNat color ++ utf8 ";1") (utf8 "0;22") s

def red : Nat := 31

def yellow : Nat := 33

def brightRed : Nat := 91

/-- A diagnostic as compilers print it: `file(line,col): severity code: text`. -/
def diagnostic (d : Diagnostic) (color : Bool) : Text :=
  let severity :=
    if color then boldIn (if d.isWarning then yellow else red) d.severity else d.severity
  let code := if d.code.isEmpty then [] else utf8 " " ++ d.code
  let place :=
    if d.file.isEmpty then []
    else d.file ++ utf8 "(" ++ Text.ofInt d.line.toInt ++ utf8 "," ++ Text.ofInt d.column.toInt
      ++ utf8 "): "
  place ++ severity ++ code ++ utf8 ": " ++ d.text

/-! ## Callers -/

/-- The part of a path behind its last slash. -/
def fileName (path : Text) : Text := Text.afterLast 0x2F path

/-- The place of a call: package, file name and line. -/
def caller (package path : Text) (line : Int) (color : Bool) : Text :=
  let name := fileName path
  let number := Text.ofInt line
  if color then
    package ++ faint (utf8 ":") ++ bold name ++ faint (utf8 ":") ++ boldIn brightRed number
  else package ++ utf8 ":" ++ name ++ utf8 ":" ++ number

/-- The package and the function of a qualified name, which is cut at the first dot of its last
path element. A receiver type that ended up in the package goes to the function. -/
def splitFunction (name : Text) : Text × Text :=
  let element := Text.afterLast 0x2F name
  match Text.cut? 0x2E element with
  | none => (name, [])
  | some (package, function) =>
    let package := name.take (name.length - element.length) ++ package
    match Text.cutAt? (utf8 ".(") package with
    | none => (package, function)
    | some (package, rest) =>
      let receiver := match Text.cutAt? (utf8 ".(") rest with
        | some (receiver, _) => receiver
        | none => rest
      (package, utf8 "(" ++ receiver ++ utf8 "." ++ function)

end TextTemplate.Console
