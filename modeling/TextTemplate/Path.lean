/-
File paths with slashes. A path is cleaned by working out its elements: empty ones and `.` go, and
`..` takes the element before it away; what cannot be taken away stays in front of a relative path
and vanishes at the root. All operations here are on the text of a path alone.
-/
import TextTemplate.Text.Basic

namespace TextTemplate.Path

def isAbs (p : Text) : Bool := p.head? == some 0x2F

/-- Works out the elements of a path; `done` holds the elements kept so far, last first. -/
def resolve (rooted : Bool) (done : List Text) : List Text → List Text
  | [] => done.reverse
  | e :: es =>
    if e.isEmpty || e = utf8 "." then resolve rooted done es
    else if e = utf8 ".." then
      match done with
      | [] => if rooted then resolve rooted [] es else resolve rooted [e] es
      | d :: ds => if d = utf8 ".." then resolve rooted (e :: d :: ds) es else resolve rooted ds es
    else resolve rooted (e :: done) es

/-- The elements of a path that count. -/
def elements (p : Text) : List Text := resolve (isAbs p) [] (Text.pieces 0x2F p)

/-- The path of a list of elements. -/
def ofElements (rooted : Bool) (es : List Text) : Text :=
  if rooted then utf8 "/" ++ Text.join (utf8 "/") es
  else if es.isEmpty then utf8 "."
  else Text.join (utf8 "/") es

/-- The shortest path with the same elements. -/
def clean (p : Text) : Text := ofElements (isAbs p) (elements p)

/-- Joins paths with slashes and cleans the result; empty ones are left out. -/
def join (ps : List Text) : Text :=
  let ps := ps.filter (!·.isEmpty)
  if ps.isEmpty then [] else clean (Text.join (utf8 "/") ps)

/-- The last element of a path. -/
def base (p : Text) : Text :=
  if p.isEmpty then utf8 "."
  else
    let name := Text.afterLast 0x2F (Text.dropEndWhile (· == 0x2F) p)
    if name.isEmpty then utf8 "/" else name

/-- Everything but the last element of a path. -/
def dir (p : Text) : Text := clean (Text.dropEndWhile (· != 0x2F) p)

/-- The ending of the last element from its last dot on, empty without a dot. -/
def ext (p : Text) : Text :=
  let name := Text.afterLast 0x2F p
  if name.contains 0x2E then utf8 "." ++ Text.afterLast 0x2E name else []

/-- The path seen from a working directory. -/
def abs (workDir p : Text) : Text := if isAbs p then clean p else join [workDir, p]

/-- What is left of two lists behind their common start. -/
def afterCommon : List Text → List Text → List Text × List Text
  | b :: bs, t :: ts => if b = t then afterCommon bs ts else (b :: bs, t :: ts)
  | bs, ts => (bs, ts)

/-- The path that leads from `base` to `target`, if the texts of the two tell it. -/
def rel? (base target : Text) : Option Text :=
  if clean base = clean target then some (utf8 ".")
  else if isAbs base != isAbs target then none
  else
    let (up, down) := afterCommon (elements base) (elements target)
    if up.head? = some (utf8 "..") then none
    else some (Text.join (utf8 "/") (up.map (fun _ => utf8 "..") ++ down))

end TextTemplate.Path
