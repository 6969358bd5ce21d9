/-
Finding templates: the files under a root directory that fit one of some globs. Paths are taken
from the root and must not lead out of it; they come back in increasing order, each once, with the
content of the file.
-/
import TextTemplate.Files
import TextTemplate.Files.Glob

namespace TextTemplate

namespace Files

/-- What is in a directory, by name, and whether it is a directory itself. -/
def children (fs : Files) (name : Text) : List (Text × Bool) :=
  let path := match fs.workDir with
    | none => memoryPath (Path.clean name)
    | some dir => (fs.diskPath dir name).toOption.getD []
  (fs.entries.filter fun e => memoryPath (Path.dir e.1) == path).map fun e =>
    (Path.base e.1, e.2 == .directory)

end Files

/-- A directory of a tree, seen as a tree of its own. -/
structure Subtree where
  files : Files
  root : Text

namespace Subtree

/-- The path in the whole tree, unless it leads out of the root. -/
def place? (t : Subtree) (rel : Text) : Option Text :=
  let base := Path.clean t.root
  let path := Path.join [base, rel]
  if base.isPrefixOf path then some path else none

/-- What a path leads to; a slash at its end does not count. -/
def entry? (t : Subtree) (rel : Text) : Option Entry :=
  let rel := if rel.length > 1 then Text.dropEnd (utf8 "/") rel else rel
  (t.place? rel).bind fun path => (t.files.find path).toOption

def isDirectory (t : Subtree) (rel : Text) : Bool := t.entry? rel == some .directory

def children (t : Subtree) (rel : Text) : List (Text × Bool) :=
  match t.place? rel with
  | none => []
  | some path => if t.files.isDirectory path then t.files.children path else []

/-- Everything below a directory at most `fuel` levels down: its files, or else the directories
with itself. -/
def below (t : Subtree) (wantFiles : Bool) : (fuel : Nat) → Text → List Text
  | 0, _ => []
  | fuel + 1, dir =>
    (if wantFiles then [] else [dir]) ++ (t.children dir).flatMap fun (name, isDir) =>
      let path := Path.join [dir, name]
      if isDir then t.below wantFiles fuel path else if wantFiles then [path] else []

/-- What fits the last element of a pattern in a directory: files when `last` is set, else
directories. Nothing is given when the pattern is bad. -/
def matchIn (t : Subtree) (dir element : Text) (last : Bool) : Option (List Text) :=
  if element.isEmpty then some (if !last && t.isDirectory dir then [dir] else [])
  else if element = utf8 "**" then
    some (if t.isDirectory dir then t.below last (t.files.entries.length + 1) dir else [])
  else do
    let fits ← (t.children dir).filterM fun (name, _) => Glob.matchElement element name
    return (fits.filter (·.2 != last)).map fun (name, _) => Path.join [dir, name]

/-- The same in each of some directories. -/
def matchInAll (t : Subtree) (element : Text) (last : Bool) : List Text → Option (List Text)
  | [] => some []
  | dir :: dirs => do
    let here ← t.matchIn dir element last
    let rest ← t.matchInAll element last dirs
    return here ++ rest

/-- The text of a choice behind the directory it was made in. -/
def behind (dir pattern : Text) : Text :=
  if dir.isEmpty ∨ dir = utf8 "." then pattern else dir ++ utf8 "/" ++ pattern

/-- The paths that fit a pattern, which is taken apart in at most `fuel` steps: from the last slash
or the last list in braces backwards. -/
def glob (t : Subtree) : (fuel : Nat) → (pattern : Text) → (last : Bool) → Option (List Text)
  | 0, _, _ => some []
  | fuel + 1, pattern, last =>
    match Glob.firstMeta? pattern with
    | none =>
      let path := Glob.unescape pattern
      some <| match t.entry? path with
        | none => []
        | some e => if last && e == .directory then [] else [path]
    | some start =>
      let splitAt : Option Nat → Option (List Text)
        | none => t.matchIn (utf8 ".") pattern last
        | some i =>
          let dir := pattern.take i
          let element := pattern.drop (i + 1)
          if i ≤ start then t.matchIn dir element last
          else (t.glob fuel dir false).bind (t.matchInAll element last)
      match Glob.lastSplit? pattern with
      | none => splitAt none
      | some i =>
        if pattern[i]? = some 0x2F then splitAt (some i)
        else match Glob.opening? (pattern.take i) with
          | none => splitAt (Glob.lastSlash? (pattern.take i))
          | some o => do
            let front := pattern.take o
            let rest := pattern.drop (i + 1)
            let choices := Glob.choices ((pattern.take i).drop (o + 1))
            let slash := (Glob.lastSplit? front).filter fun k => front[k]? == some 0x2F
            let dirs ← match slash with
              | none => some [[]]
              | some k => t.glob fuel (front.take k) false
            let start := match slash with
              | none => front
              | some k => front.drop (k + 1)
            let found ← (dirs.flatMap fun d => choices.map fun c => behind d (start ++ c ++ rest)).mapM
              fun p => t.glob fuel p last
            return found.flatten

/-- The files that fit a pattern. -/
def filesMatching (t : Subtree) (pattern : Text) : Option (List Text) :=
  t.glob (2 * pattern.length + 2) pattern true

end Subtree

/-! ## Templates -/

/-- A template file: its path from the root, its path, and its text. -/
structure TemplateFile where
  rel : Text
  path : Text
  content : Text
  deriving DecidableEq, Repr

/-- Why templates cannot be found. -/
inductive FindError where
  | rootNotFound
  | canceled
  | invalidGlob (glob : Text)
  | badGlob (glob : Text)
  | unreadable (path : Text) (error : FileError)
  deriving DecidableEq, Repr

def FindError.message : FindError → Text
  | rootNotFound => utf8 "template root not found"
  | canceled => utf8 "context canceled"
  | invalidGlob glob => utf8 "invalid template glob '" ++ glob ++ utf8 "'"
  | badGlob glob => utf8 "matching '" ++ glob ++ utf8 "': syntax error in pattern"
  | unreadable path error =>
    utf8 "reading template '" ++ path ++ utf8 "': " ++ error.message

/-- The glob of all templates. -/
def defaultGlobs : List Text := [utf8 "**/*.tt"]

/-- The paths that fit one of some globs, in the order they are found. -/
def matchGlobs (t : Subtree) (canceled : Bool) : List Text → Except FindError (List Text)
  | [] => .ok []
  | glob :: globs =>
    if canceled then .error .canceled
    else if !Glob.isValid glob then .error (.invalidGlob glob)
    else match t.filesMatching glob with
      | none => .error (.badGlob glob)
      | some here => (matchGlobs t canceled globs).map (here ++ ·)

/-- Reads the files at paths from the root. -/
def readTemplates (files : Files) (root : Text) : List Text → Except FindError (List TemplateFile)
  | [] => .ok []
  | rel :: rels =>
    let path := Path.join [root, rel]
    match files.read path with
    | .error e => .error (.unreadable path e)
    | .ok content => (readTemplates files root rels).map (⟨rel, path, content⟩ :: ·)

/-- The templates under a root that fit one of the globs; without globs, all templates. -/
def findTemplates (files : Files) (root : Text) (globs : List Text) (canceled : Bool) :
    Except FindError (List TemplateFile) :=
  if !files.isDirectory root then .error .rootNotFound
  else
    match matchGlobs ⟨files, root⟩ canceled (if globs.isEmpty then defaultGlobs else globs) with
    | .error e => .error e
    | .ok rels => readTemplates files root (sortTexts rels.eraseDups)

end TextTemplate
