/-
The tokens of attributes and blocks. Texts in quotes and heredocs are templates, whose tokens are
literal stretches and, between them, the tokens of what is put in.
-/
import TextTemplate.Text.Basic

namespace TextTemplate.Hcl

/-- A mark or an operator. -/
inductive Symbol where
  | openBrace | closeBrace | openBracket | closeBracket | openParen | closeParen
  | dot | comma | ellipsis | assign | fatArrow | question | colon | doubleColon
  | plus | minus | star | slash | percent | bang
  | equal | notEqual | less | greater | lessEqual | greaterEqual | and | or
  deriving DecidableEq, Repr

/-- How symbols are written; a longer one comes before those it starts with. Braces are not among
them, since a template asks what they close. -/
def Symbol.spellings : List (String × Symbol) := [
  ("...", .ellipsis), ("==", .equal), ("!=", .notEqual), ("<=", .lessEqual),
  (">=", .greaterEqual), ("&&", .and), ("||", .or), ("::", .doubleColon), ("=>", .fatArrow),
  ("[", .openBracket), ("]", .closeBracket), ("(", .openParen), (")", .closeParen), (".", .dot),
  (",", .comma), ("=", .assign), ("?", .question), (":", .colon), ("+", .plus), ("-", .minus),
  ("*", .star), ("/", .slash), ("%", .percent), ("!", .bang), ("<", .less), (">", .greater)]

/-- A token of a file. -/
inductive Token where
  | name (s : Text)
  | number (s : Text)
  | symbol (s : Symbol)
  | newline
  | quote
  | quoteEnd
  /-- The start of a heredoc, whose lines lose their indentation if `flush` is set. -/
  | heredoc (flush : Bool)
  | heredocEnd
  /-- A stretch of a template as it is written. -/
  | literal (quoted : Bool) (raw : Text)
  /-- The start of a value in a template; blanks before it go if `trim` is set. -/
  | insert (trim : Bool)
  /-- The start of a directive in a template. -/
  | directive (trim : Bool)
  /-- The end of either; blanks behind it go if `trim` is set. -/
  | sequenceEnd (trim : Bool)
  deriving DecidableEq, Repr

end TextTemplate.Hcl
