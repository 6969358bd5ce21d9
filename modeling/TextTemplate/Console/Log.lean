/-
Log lines for a terminal: time, level, caller and message, then the fields in order of their names
with the error first. An event is a list of named values of which the last of a name counts, so
a field may take the place of one of the fixed parts.
-/
import TextTemplate.NameMap
import TextTemplate.Path
import TextTemplate.Text.Case
import TextTemplate.Text.Number
import TextTemplate.Text.Quoted

namespace TextTemplate.Console

/-- How much an event matters, least first. Levels without a name have numbers only. -/
inductive Level where
  | trace
  | debug
  | info
  | warn
  | error
  | fatal
  | panic
  | none
  | disabled
  | numbered (n : Int)
  deriving DecidableEq, Repr

namespace Level

def number : Level → Int
  | trace => -1
  | debug => 0
  | info => 1
  | warn => 2
  | error => 3
  | fatal => 4
  | panic => 5
  | none => 6
  | disabled => 7
  | numbered n => n

/-- The levels with names. -/
def named : List Level := [trace, debug, info, warn, error, fatal, panic, none, disabled]

def name : Level → Text
  | trace => utf8 "trace"
  | debug => utf8 "debug"
  | info => utf8 "info"
  | warn => utf8 "warn"
  | error => utf8 "error"
  | fatal => utf8 "fatal"
  | panic => utf8 "panic"
  | none => []
  | disabled => utf8 "disabled"
  | numbered n => Text.ofInt n

def ofNumber (n : Int) : Level := (named.find? (·.number == n)).getD (numbered n)

/-- The level of a name, whatever its letter case, or of a number of eight bits; any other text has
no level. -/
def ofName (s : Text) : Level :=
  match named.find? fun l => l.name.eqFold s, Text.readInt64? s with
  | some l, _ => l
  | Option.none, some n => if -128 ≤ n && n ≤ 127 then ofNumber n else none
  | Option.none, Option.none => none

/-- Three letters for a level, if it has them. -/
def letters? : Level → Option Text
  | trace => some (utf8 "TRC")
  | debug => some (utf8 "DBG")
  | info => some (utf8 "INF")
  | warn => some (utf8 "WRN")
  | error => some (utf8 "ERR")
  | fatal => some (utf8 "FTL")
  | panic => some (utf8 "PNC")
  | _ => Option.none

/-- The color of the letters, none when they stay as they are. -/
def color? : Level → Option Nat
  | trace => some 34
  | info => some 32
  | warn => some 33
  | error | fatal | panic => some 31
  | _ => Option.none

end Level

/-- Something to be logged. -/
structure LogEvent where
  level : Level
  message : Text
  fields : List (Text × Text)

/-- A text in a color, when colors are on. -/
def colored (on : Bool) (color : Nat) (s : Text) : Text :=
  if on then utf8 "\x1b[" ++ Text.ofNat color ++ utf8 "m" ++ s ++ utf8 "\x1b[0m" else s

/-- Whether a value has to be quoted to stand on a line. -/
def needsQuotes (s : Text) : Bool :=
  s.any fun b => b ≤ 0x20 || b > 0x7E || b == 0x5C || b == 0x22

namespace LogEvent

/-- The named values of an event at a time, the fixed parts among them. -/
def values (e : LogEvent) (time : Text) : NameMap Text :=
  let fields := e.fields.map fun (k, v) => (k.sanitize, v.sanitize)
  let all := [(utf8 "level", e.level.name)] ++ fields ++ [(utf8 "time", time)]
    ++ if e.message.isEmpty then [] else [(utf8 "message", e.message.sanitize)]
  all.foldl (fun m (k, v) => m.insert k v) []

/-- The letters of a level; one without letters shows the first three bytes of its name. -/
def levelPart (color : Bool) (level : Text) : Text :=
  let l := Level.ofName level
  match l.letters?, l.color? with
  | some letters, some c => colored color c letters
  | some letters, none => letters
  | none, _ =>
    if level.isEmpty then utf8 "???"
    else Text.upper (level.take 3)

def callerPart (color : Bool) (caller : Text) : Text :=
  if caller.isEmpty then []
  else colored color 1 ((Path.rel? (utf8 "/") caller).getD caller) ++ colored color 36 (utf8 " >")

def messagePart (color : Bool) (level message : Text) : Text :=
  let loud := [Level.info, .warn, .error, .fatal, .panic].any (·.name == level)
  if message.isEmpty then [] else if loud then colored color 1 message else message

/-- The names of the fields in the order they are written. -/
def fieldNames (values : NameMap Text) : List Text :=
  let fixed := [utf8 "level", utf8 "time", utf8 "message", utf8 "caller"]
  let names := sortTexts (values.names.filter (!fixed.contains ·))
  if names.contains (utf8 "error") then
    utf8 "error" :: names.filter fun n => !n.isEmpty && n != utf8 "error"
  else names

def field (color : Bool) (name value : Text) : Text :=
  let value := if needsQuotes value then Text.quoted value else value
  let value := if name = utf8 "error" then colored color 31 (colored color 1 value) else value
  colored color 36 (name ++ utf8 "=") ++ value

/-- The line of an event. -/
def render (e : LogEvent) (time : Text) (color : Bool) : Text :=
  let values := e.values time
  let value (name : String) := (values.find? (utf8 name)).getD []
  let parts := [colored color 90 (value "time"), levelPart color (value "level"),
    callerPart color (value "caller"), messagePart color (value "level") (value "message")]
  let fields := (fieldNames values).map fun n => field color n ((values.find? n).getD [])
  Text.join (utf8 " ") (parts.filter (!·.isEmpty) ++ fields) ++ utf8 "\n"

end LogEvent

/-- Whether a logger of a level lets events of another one through: none that are disabled, and none
below a trace. -/
def Level.passes (logger event : Level) : Bool :=
  event != disabled && trace.number ≤ event.number && logger.number ≤ event.number

/-- The lines of the events a logger of a level lets through. -/
def logLines (level : Level) (time : Text) (color : Bool) (events : List LogEvent) : Text :=
  (events.filter fun e => level.passes e.level).flatMap (·.render time color)

end TextTemplate.Console
