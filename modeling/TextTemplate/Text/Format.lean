/-
Formatted texts: a pattern in which `%s` and `%d` stand for the next argument and `%%` for a
percent sign. A place without an argument and arguments without a place are shown in the result.
-/
import TextTemplate.Text.Basic

namespace TextTemplate

/-- An argument of a pattern. -/
inductive FormatArg where
  | text (s : Text)
  | number (n : Int)
  deriving DecidableEq, Repr

namespace FormatArg

def render : FormatArg → Text
  | text s => s
  | number n => Text.ofInt n

/-- An argument with its type, as complaints show it. -/
def typed : FormatArg → Text
  | text s => utf8 "string=" ++ s
  | number n => utf8 "int=" ++ Text.ofInt n

/-- Whether a place takes the argument. -/
def fits (verb : UInt8) : FormatArg → Bool
  | text _ => verb == 0x73
  | number _ => verb == 0x64

end FormatArg

namespace Text

/-- What stands at a place of the pattern. -/
def formatPlace (verb : UInt8) : Option FormatArg → Text
  | none => utf8 "%!" ++ [verb] ++ utf8 "(MISSING)"
  | some a => if a.fits verb then a.render else utf8 "%!" ++ [verb] ++ utf8 "(" ++ a.typed ++ utf8 ")"

/-- The pattern with its arguments put in. -/
def format : Text → List FormatArg → Text
  | [], [] => []
  | [], args => utf8 "%!(EXTRA " ++ join (utf8 ", ") (args.map FormatArg.typed) ++ utf8 ")"
  | 0x25 :: 0x25 :: s, args => 0x25 :: format s args
  | 0x25 :: verb :: s, args => formatPlace verb args.head? ++ format s args.tail
  | b :: s, args => b :: format s args

end Text
end TextTemplate
