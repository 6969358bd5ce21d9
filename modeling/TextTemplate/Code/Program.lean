/-
Programs for the code writer: lists of operations, run one after the other. Scopes that operations
open are numbered in the order they are opened, and a later operation closes them by number. An
operation that names an unknown access writes nothing of its own; inside the body of a condition it
ends the body, and the braces are closed all the same.
-/
import TextTemplate.Code.Declaration
import TextTemplate.Code.Literal

namespace TextTemplate

/-- One operation on a writer. An access is given by number. -/
inductive CodeOp where
  | write (text : Text)
  | writeLine (text : Text)
  | rawWrite (text : Text)
  | rawWriteLine (text : Text)
  | writeLiteral (text : Text)
  | writeBlock (text : Text)
  | pushIndent (text : Text)
  | openScope (text : Text)
  | closeScope (text : Text)
  | reset (text : Text)
  | comment (text : Text)
  | summary (text : Text)
  | attributeLine (text : Text)
  | setLineFile (file : Text)
  | ensureNewline
  | addIndent
  | popIndent
  | clearIndent
  | pragmaElse
  | lineDefault
  | lineHidden
  | blankLine (count : Int)
  | usingLine (name : Text)
  | fileScopedNamespace (name : Text)
  | linePragma (line : Int64) (file : Text)
  | enum (name : Text) (access : Int) (tags : List Text)
  | emptyMethod (name type : Text) (access : Int) (mods : Modifiers) (ps : List Parameter)
  | autoProperty (type name initializer : Text) (access setter : Int) (mods : Modifiers)
  | readonlyProperty (type name value : Text) (access : Int) (mods : Modifiers)
  | block
  | namespaceBlock (name : Text)
  | classType (name base : Text) (access : Int) (mods : Modifiers)
  | interfaceType (name base : Text) (access : Int)
  | beginEnum (name : Text) (access : Int)
  | method (name type : Text) (access : Int) (mods : Modifiers) (ps : List Parameter)
  | localMethod (name : Text) (isStatic : Bool) (type : Text) (ps : List Parameter)
  | constructorBlock (name base : Text) (access : Int) (mods : Modifiers) (ps : List Parameter)
  | staticConstructor (name : Text)
  | pragmaIf (condition : Text)
  | close (scope : Int)
  | ifThen (condition : Text) (body : List CodeOp) (otherwise : Option (List CodeOp))
  | elseIf (condition : Text) (body : List CodeOp) (otherwise : Option (List CodeOp))
  | otherwise (body : List CodeOp)
  | nested (ops : List CodeOp) (splice : Bool)
  | quote (text : Text)
  | quoteEscaped (text : Text)
  | lineFile (file : Text)
  deriving Inhabited

/-- A writer and the scopes opened on it, in the order of their numbers. -/
structure Session where
  writer : Writer
  scopes : List Scope
  deriving DecidableEq, Repr

namespace Session

def ofWriter (w : Writer) : Session := ⟨w, []⟩

/-- Closes a scope by number; a number without a scope closes nothing. -/
def close (s : Session) (n : Int) : Session :=
  match n with
  | .ofNat k =>
    match s.scopes[k]? with
    | none => s
    | some scope =>
      let (w, scope) := scope.close s.writer
      ⟨w, s.scopes.set k scope⟩
  | .negSucc _ => s

end Session

mutual

/-- What an operation answers. -/
inductive CodeAnswer where
  | nothing
  | scope (number : Nat)
  | text (t : Text)
  | literal (l : Literal)
  | unknownAccess (number : Int)
  | steps (all : List CodeStep)

/-- An operation that was run: the writer before and after it, and the answer. -/
inductive CodeStep where
  | mk (before after : Writer) (answer : CodeAnswer)

end

namespace CodeOp

/-- Runs an operation that only writes. -/
def written (s : Session) (f : Writer → Writer) : Session × CodeAnswer :=
  ({ s with writer := f s.writer }, .nothing)

/-- Runs an operation that opens a scope. -/
def opened (s : Session) (f : Writer → Writer × Scope) : Session × CodeAnswer :=
  let (w, scope) := f s.writer
  (⟨w, s.scopes ++ [scope]⟩, .scope s.scopes.length)

/-- Runs an operation with the access of a number, if it has one. -/
def withAccess (s : Session) (n : Int) (f : Access → Session × CodeAnswer) :
    Session × CodeAnswer :=
  match Access.ofNumber? n with
  | some a => f a
  | none => (s, .unknownAccess n)

/-- Opens the braces of a statement's body. -/
def enterBody (s : Session) : Session := { s with writer := s.writer.openBrace }

/-- Closes the braces of a statement's body. -/
def leaveBody (s : Session) : Session := { s with writer := (Scope.brace.close s.writer).1 }

mutual

/-- Runs one operation. -/
def run : CodeOp → Session → Session × CodeAnswer
  | .write text, s => written s (·.write text)
  | .writeLine text, s => written s (·.writeLine text)
  | .rawWrite text, s => written s (·.rawWrite text)
  | .rawWriteLine text, s => written s (·.rawWriteLine text)
  | .writeLiteral text, s => written s (·.writeLiteral text)
  | .writeBlock text, s => written s (·.writeBlock text)
  | .pushIndent text, s => written s (·.pushIndent text)
  | .openScope text, s => written s (·.openScope text)
  | .closeScope text, s => written s (·.closeScope text)
  | .reset text, s => written s (·.reset text)
  | .comment text, s => written s (·.comment text)
  | .summary text, s => written s (·.summary text)
  | .attributeLine text, s => written s (·.attributeLine text)
  | .setLineFile file, s => written s fun w => { w with lineFile := file }
  | .ensureNewline, s => written s Writer.ensureNewline
  | .addIndent, s => written s Writer.addIndent
  | .popIndent, s => written s Writer.popIndent
  | .clearIndent, s => written s Writer.clearIndent
  | .pragmaElse, s => written s Writer.pragmaElse
  | .lineDefault, s => written s Writer.lineDefault
  | .lineHidden, s => written s Writer.lineHidden
  | .blankLine count, s => written s (·.blankLine count)
  | .usingLine name, s => written s (·.usingLine name)
  | .fileScopedNamespace name, s => written s (·.fileScopedNamespace name)
  | .linePragma line file, s => written s (·.linePragma line file)
  | .enum name access tags, s => withAccess s access fun a => written s (·.enum name a tags)
  | .emptyMethod name type access mods ps, s =>
    withAccess s access fun a => written s (·.emptyMethod name type a mods ps)
  | .autoProperty type name initializer access setter mods, s =>
    withAccess s setter fun b => withAccess s access fun a =>
      written s (·.autoProperty type name initializer a b mods)
  | .readonlyProperty type name value access mods, s =>
    withAccess s access fun a => written s (·.readonlyProperty type name value a mods)
  | .block, s => opened s Writer.block
  | .namespaceBlock name, s => opened s (·.namespaceBlock name)
  | .classType name base access mods, s =>
    withAccess s access fun a => opened s (·.classType name base a mods)
  | .interfaceType name base access, s =>
    withAccess s access fun a => opened s (·.interfaceType name base a)
  | .beginEnum name access, s => withAccess s access fun a => opened s (·.beginEnum name a)
  | .method name type access mods ps, s =>
    withAccess s access fun a => opened s (·.method name type a mods ps)
  | .localMethod name isStatic type ps, s => opened s (·.localMethod name isStatic type ps)
  | .constructorBlock name base access mods ps, s =>
    withAccess s access fun a => opened s (·.constructorBlock name base a mods ps)
  | .staticConstructor name, s => opened s (·.staticConstructor name)
  | .pragmaIf condition, s => opened s (·.pragmaIf condition)
  | .close scope, s => (s.close scope, .nothing)
  | .ifThen condition body none, s =>
    runBody body (enterBody { s with writer := s.writer.ifLine condition })
  | .ifThen condition body (some other), s =>
    match runBody body (enterBody { s with writer := s.writer.ifLine condition }) with
    | (s, .nothing) => runBody other (enterBody { s with writer := s.writer.elseLine })
    | failed => failed
  | .elseIf condition body none, s =>
    runBody body (enterBody { s with writer := s.writer.elseIfLine condition })
  | .elseIf condition body (some other), s =>
    match runBody body (enterBody { s with writer := s.writer.elseIfLine condition }) with
    | (s, .nothing) => runBody other (enterBody { s with writer := s.writer.elseLine })
    | failed => failed
  | .otherwise body, s => runBody body (enterBody { s with writer := s.writer.elseLine })
  | .nested ops splice, s =>
    let (inner, steps) := runSteps ops (.ofWriter s.writer.nested)
    ({ s with writer := if splice then s.writer.rawWrite inner.writer.out else s.writer },
      .steps steps)
  | .quote text, s => (s, .literal (s.writer.quote text))
  | .quoteEscaped text, s => (s, .literal (s.writer.quoteEscaped text))
  | .lineFile file, s => (s, .text (s.writer.layout.lineFile file))

/-- Runs the rest of a body and closes its braces. -/
def runBody : List CodeOp → Session → Session × CodeAnswer
  | [], s => (leaveBody s, .nothing)
  | op :: ops, s =>
    match op.run s with
    | (s, .unknownAccess n) => (leaveBody s, .unknownAccess n)
    | (s, _) => runBody ops s

/-- Runs operations one after the other and keeps each with its answer. -/
def runSteps : List CodeOp → Session → Session × List CodeStep
  | [], s => (s, [])
  | op :: ops, s =>
    let (s', answer) := op.run s
    let (last, steps) := runSteps ops s'
    (last, .mk s.writer s'.writer answer :: steps)

end

end CodeOp
end TextTemplate
