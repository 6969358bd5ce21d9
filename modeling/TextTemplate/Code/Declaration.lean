/-
Declarations: the writer's vocabulary of namespaces, types, members and statements. A builder that
opens a scope answers with what closes it; closing a scope a second time does nothing.
-/
import TextTemplate.Code.Writer

namespace TextTemplate

/-! ## Access and modifiers -/

/-- Who can see a declaration. -/
inductive Access where
  | isPublic
  | isPrivate
  | isInternal
  | isProtected
  | isProtectedInternal
  | isPrivateProtected
  deriving DecidableEq, Repr

namespace Access

def text : Access → Text
  | isPublic => utf8 "public"
  | isPrivate => utf8 "private"
  | isInternal => utf8 "internal"
  | isProtected => utf8 "protected"
  | isProtectedInternal => utf8 "protected internal"
  | isPrivateProtected => utf8 "private protected"

/-- The access of a number, if it has one. -/
def ofNumber? : Int → Option Access
  | 0 => some isPublic
  | 1 => some isPrivate
  | 2 => some isInternal
  | 3 => some isProtected
  | 4 => some isProtectedInternal
  | 5 => some isPrivateProtected
  | _ => none

/-- What is said of a number without an access. -/
def unknown (n : Int) : Text := utf8 "codewriter: unknown access " ++ Text.ofInt n

end Access

/-- A set of declaration keywords, one bit each. -/
abbrev Modifiers := Nat

namespace Modifiers

/-- The keywords with their bits, in the order they are written. -/
def keywords : List (Nat × Text) :=
  [(2, utf8 "abstract"), (4, utf8 "static"), (8, utf8 "sealed"), (16, utf8 "override"),
    (32, utf8 "virtual"), (64, utf8 "readonly"), (128, utf8 "partial")]

def isPartial : Modifiers := 128

/-- Whether all bits of a non-empty set are in the set. -/
def has (m : Modifiers) (flag : Nat) : Bool := flag != 0 && m &&& flag == flag

def format (m : Modifiers) : Text :=
  Text.join (utf8 " ") ((keywords.filter fun (bit, _) => has m bit).map Prod.snd)

end Modifiers

/-- The head of a declaration: access and modifiers, with a blank behind each. -/
def declarationHead (access : Access) (mods : Modifiers) : Text :=
  let words := Modifiers.format mods
  if words.isEmpty then access.text ++ utf8 " " else access.text ++ utf8 " " ++ words ++ utf8 " "

/-- A parameter of a method. -/
structure Parameter where
  type : Text
  name : Text
  deriving DecidableEq, Repr

def Parameter.list (ps : List Parameter) : Text :=
  Text.join (utf8 ", ") (ps.map fun p => p.type ++ utf8 " " ++ p.name)

/-! ## Comments -/

/-- The width summary comments are wrapped to. -/
def summaryWidth : Nat := 40

/-- Puts words on lines of at most `width` bytes as far as the words allow; `current` is the line
being filled. -/
def fillLines (width : Nat) (current : Text) : List Text → List Text
  | [] => [current]
  | word :: words =>
    if current.length + 1 + word.length > width then current :: fillLines width word words
    else fillLines width (current ++ utf8 " " ++ word) words

/-- The words of a line on lines of a given width; without words it is one empty line. -/
def wrapWords (width : Nat) (line : Text) : List Text :=
  match line.words with
  | [] => [[]]
  | word :: words => fillLines width word words

/-- A character in the text of an element of a documentation comment. -/
def Rune.escapeElement (r : Rune) : Text :=
  match r.code with
  | 0x22 => utf8 "&#34;"
  | 0x27 => utf8 "&#39;"
  | 0x26 => utf8 "&amp;"
  | 0x3C => utf8 "&lt;"
  | 0x3E => utf8 "&gt;"
  | 0x09 => utf8 "&#x9;"
  | 0x0A => utf8 "&#xA;"
  | 0x0D => utf8 "&#xD;"
  | c => if c < 0x20 || c == 0xFFFE || c == 0xFFFF || !r.isValid then encode replacement else r.bytes

/-! ## Scopes -/

/-- What closes a structure: the line that ends it, whether an empty line follows, and whether it
has been closed. -/
structure Scope where
  closeTag : Text
  trailingLine : Bool
  closed : Bool
  deriving DecidableEq, Repr

namespace Scope

/-- Closed by a brace. -/
def brace : Scope := ⟨utf8 "\x7d", false, false⟩

/-- Closed by a brace and an empty line. -/
def braceLine : Scope := ⟨utf8 "\x7d", true, false⟩

/-- Closes a scope, the first time. -/
def close (s : Scope) (w : Writer) : Writer × Scope :=
  if s.closed then (w, s)
  else
    let w := w.closeScope s.closeTag
    (if s.trailingLine then w.rawWriteLine [] else w, { s with closed := true })

end Scope

namespace Writer

/-- The opening of a braced part. -/
def openBrace (w : Writer) : Writer := w.openScope (utf8 "\x7b")

def block (w : Writer) : Writer × Scope := (w.openBrace, .brace)

/-! ## Lines -/

def usingLine (w : Writer) (name : Text) : Writer :=
  let w := w.writeLine (utf8 "using " ++ name ++ utf8 ";")
  { w with usings := w.usings + 1 }

def comment (w : Writer) (text : Text) : Writer := w.writeLine (utf8 "//" ++ text)

/-- A documentation comment, wrapped; a blank text gives none. -/
def summary (w : Writer) (text : Text) : Writer :=
  if text.isBlank then w
  else
    let lines := (Text.pieces 0x0A (Text.replace [0x0D, 0x0A] [0x0A] text)).flatMap
      (wrapWords summaryWidth)
    let w := w.writeLine (utf8 "/// <summary>")
    let w := lines.foldl
      (fun w line => w.writeLine (utf8 "/// " ++ line.runes.flatMap Rune.escapeElement)) w
    w.writeLine (utf8 "/// </summary>")

def attributeLine (w : Writer) (text : Text) : Writer :=
  w.writeLine (utf8 "[" ++ text ++ utf8 "]")

/-! ## Types -/

def namespaceBlock (w : Writer) (name : Text) : Writer × Scope :=
  (w.writeLine (utf8 "namespace " ++ name)).block

/-- A namespace for the rest of the file. -/
def fileScopedNamespace (w : Writer) (name : Text) : Writer :=
  (w.writeLine (utf8 "namespace " ++ name ++ utf8 ";")).blankLine 1

/-- A line one level further in. -/
def innerLine (w : Writer) (s : Text) : Writer := (w.addIndent.writeLine s).popIndent

def classType (w : Writer) (name base : Text) (access : Access) (mods : Modifiers) :
    Writer × Scope :=
  let w := w.writeLine (declarationHead access mods ++ utf8 "class " ++ name)
  let w := if base.isEmpty then w else w.innerLine (utf8 ": " ++ base)
  w.block

def interfaceType (w : Writer) (name base : Text) (access : Access) : Writer × Scope :=
  let head := access.text ++ utf8 " interface " ++ name
    ++ if base.isEmpty then [] else utf8 " : " ++ base
  ((w.writeLine head).openBrace, .braceLine)

def beginEnum (w : Writer) (name : Text) (access : Access) : Writer × Scope :=
  ((w.writeLine (declarationHead access 0 ++ utf8 "enum " ++ name)).openBrace, .braceLine)

/-- The tags of an enumeration, a comma behind each but the last. -/
def enumTags (w : Writer) : List Text → Writer
  | [] => w
  | [tag] => w.writeLine tag
  | tag :: tags => enumTags (w.writeLine (tag ++ utf8 ",")) tags

def enum (w : Writer) (name : Text) (access : Access) (tags : List Text) : Writer :=
  let (w, scope) := w.beginEnum name access
  (scope.close (w.enumTags tags)).1

/-! ## Members -/

def method (w : Writer) (name type : Text) (access : Access) (mods : Modifiers)
    (ps : List Parameter) : Writer × Scope :=
  ((w.writeLine (declarationHead access mods ++ type ++ utf8 " " ++ name ++ utf8 "("
    ++ Parameter.list ps ++ utf8 ")")).openBrace, .braceLine)

def emptyMethod (w : Writer) (name type : Text) (access : Access) (mods : Modifiers)
    (ps : List Parameter) : Writer :=
  let (w, scope) := w.method name type access mods ps
  (scope.close w).1

def localMethod (w : Writer) (name : Text) (isStatic : Bool) (type : Text)
    (ps : List Parameter) : Writer × Scope :=
  (w.writeLine ((if isStatic then utf8 "static " else []) ++ type ++ utf8 " " ++ name ++ utf8 "("
    ++ Parameter.list ps ++ utf8 ")")).block

/-- A constructor; with a base it hands all its parameters on. -/
def constructorBlock (w : Writer) (name base : Text) (access : Access) (mods : Modifiers)
    (ps : List Parameter) : Writer × Scope :=
  let w := w.writeLine (declarationHead access mods ++ name ++ utf8 "(" ++ Parameter.list ps
    ++ utf8 ")")
  let w := if base.isEmpty then w
    else w.innerLine (utf8 ": base(" ++ Text.join (utf8 ", ") (ps.map Parameter.name) ++ utf8 ")")
  (w.openBrace, .braceLine)

def staticConstructor (w : Writer) (name : Text) : Writer × Scope :=
  ((w.writeLine (utf8 "static " ++ name ++ utf8 "()")).openBrace, .braceLine)

/-- A property with a getter and a setter, whose access is written where it differs. -/
def autoProperty (w : Writer) (type name initializer : Text) (access setter : Access)
    (mods : Modifiers) : Writer :=
  let setter := if setter = access then [] else setter.text ++ utf8 " "
  let line := declarationHead access mods ++ type ++ utf8 " " ++ name ++ utf8 " \x7b get; "
    ++ setter ++ utf8 "set; \x7d"
  w.writeLine (line ++ if initializer.isEmpty then [] else utf8 " = " ++ initializer ++ utf8 ";")

/-- A property with a getter that is one expression. -/
def readonlyProperty (w : Writer) (type name value : Text) (access : Access)
    (mods : Modifiers) : Writer :=
  let w := w.writeLine (declarationHead access mods ++ type ++ utf8 " " ++ name)
  (w.openBrace.writeLine (utf8 "get => " ++ value ++ utf8 ";")).closeScope (utf8 "\x7d")

/-! ## Conditions -/

/-- A part of the source under a condition. -/
def pragmaIf (w : Writer) (condition : Text) : Writer × Scope :=
  ((w.writeLine (utf8 "#if " ++ condition)).addIndent, ⟨utf8 "#endif", false, false⟩)

def pragmaElse (w : Writer) : Writer := (w.popIndent.writeLine (utf8 "#else")).addIndent

/-- The line of an if statement. -/
def ifLine (w : Writer) (condition : Text) : Writer :=
  w.writeLine (utf8 "if (" ++ condition ++ utf8 ")")

def elseIfLine (w : Writer) (condition : Text) : Writer :=
  w.writeLine (utf8 "else if (" ++ condition ++ utf8 ")")

def elseLine (w : Writer) : Writer := w.writeLine (utf8 "else")

end Writer
end TextTemplate
