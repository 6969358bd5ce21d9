/-
The help of a command: what it does, how it is called, and its flags by name, with what they take,
what they are for and their defaults in columns.
-/
import TextTemplate.CommandLine.Flags
import TextTemplate.NameMap

namespace TextTemplate.CommandLine

/-- A command: its name, what it is called with, what it does, and its flags. -/
structure Command where
  name : Text
  operands : Text
  summary : Text
  flags : List Flag
  deriving DecidableEq, Repr

/-- The word for the value of a flag; a switch has none. -/
def FlagKind.valueName : FlagKind → Text
  | text => utf8 " string"
  | texts => utf8 " stringArray"
  | integer => utf8 " int"
  | switch => []

/-- The default as it is shown, if it says something. -/
def Flag.shownDefault (f : Flag) : Text :=
  let shown (s : Text) := utf8 " (default " ++ s ++ utf8 ")"
  match f.kind with
  | .text => if f.default.isEmpty then [] else shown f.default.quoted
  | .texts => []
  | .integer => if f.default = utf8 "0" then [] else shown f.default
  | .switch => if f.default = utf8 "false" then [] else shown f.default

/-- The first column of a flag. -/
def Flag.head (f : Flag) : Text :=
  (if f.letter.isSome then utf8 "  " else utf8 "      ") ++ f.label ++ f.kind.valueName

namespace Command

/-- The flag that asks for help. -/
def helpFlag (c : Command) : Flag :=
  ⟨utf8 "help", some 0x68, .switch, utf8 "false", utf8 "help for " ++ c.name⟩

/-- The flags of a command and the one that asks for help. -/
def allFlags (c : Command) : List Flag := c.flags ++ [c.helpFlag]

/-- The flags by name in columns. -/
def flagLines (c : Command) : Text :=
  let flags := c.allFlags.mergeSort fun f g => !g.name.blt f.name
  let width := flags.foldl (fun w f => max w f.head.length) 0
  flags.flatMap fun f =>
    f.head ++ List.replicate (width - f.head.length + 3) 0x20 ++ f.usage ++ f.shownDefault ++ utf8 "\n"

/-- The help of a command. -/
def help (c : Command) : Text :=
  c.summary ++ utf8 "\n\nUsage:\n  " ++ c.name ++ utf8 " " ++ c.operands ++ utf8 " [flags]\n\nFlags:\n"
    ++ c.flagLines

end Command
end TextTemplate.CommandLine
