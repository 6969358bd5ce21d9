/-
Reading files of attributes and blocks. An attribute ends with its line, a block starts its braces
on the line of its name, and a block on one line holds at most one attribute.
-/
import TextTemplate.Hcl.ExprReader
import TextTemplate.Hcl.Lexer

namespace TextTemplate.Hcl

/-- Reads a text in quotes that is no template. -/
def readLabel : List Token → Option (Text × List Token)
  | .quoteEnd :: ts => some ([], ts)
  | .literal quoted raw :: ts => do
    let here ← unescape? quoted 0 raw
    let (rest, ts) ← readLabel ts
    return (here ++ rest, ts)
  | _ => none

/-- Reads labels up to the brace that opens a block. -/
def readLabels : (fuel : Nat) → List Text → List Token → Option (List Text × List Token)
  | 0, _, _ => none
  | fuel + 1, labels, ts =>
    match ts with
    | .symbol .openBrace :: r => some (labels, r)
    | .quote :: r => (readLabel r).bind fun (l, ts) => readLabels fuel (labels ++ [l]) ts
    | .name l :: r => readLabels fuel (labels ++ [l]) r
    | _ => none

/-- Passes the end of a line, which may be the end of the file. -/
def endOfItem? : List Token → Option (List Token)
  | [] => some []
  | .newline :: ts => some ts
  | _ => none

/-- Reads the expression of an attribute behind its equals sign. A token is passed within so many
steps, since each strength of operators takes one. -/
def readAttribute (ts : List Token) : Option (Expr × List Token) :=
  readExpr true (16 * (ts.length + 2)) ts

mutual

/-- Reads a body up to the end of the file, or to its brace when it is `nested`. -/
def readBody (nested : Bool) : (fuel : Nat) → Body → List Token → Option (Body × List Token)
  | 0, _, _ => none
  | fuel + 1, body, ts =>
    match ts with
    | [] => if nested then none else some (body, [])
    | .newline :: r => readBody nested fuel body r
    | .symbol .closeBrace :: r => if nested then some (body, r) else none
    | .name name :: .symbol .assign :: r => do
      let (e, ts) ← readAttribute r
      let ts ← endOfItem? ts
      readBody nested fuel (← body.addAttribute? name e) ts
    | .name name :: ts => do
      let (labels, ts) ← readLabels (ts.length + 1) [] ts
      let (inner, ts) ← readBlockBody fuel ts
      let ts ← endOfItem? ts
      readBody nested fuel (body.addBlock ⟨name, labels, inner⟩) ts
    | _ => none

/-- Reads the body of a block behind its brace: on lines of their own, or one attribute on the line
of the brace. -/
def readBlockBody : (fuel : Nat) → List Token → Option (Body × List Token)
  | 0, _ => none
  | fuel + 1, ts =>
    match ts with
    | .name name :: .symbol .assign :: r => do
      let (e, ts) ← readAttribute r
      return (⟨[(name, e)], []⟩, ← after? .closeBrace ts)
    | .name _ :: _ => none
    | ts => readBody true fuel .empty ts

end

/-- The body of a file, none when it cannot be read. -/
def readFile (content : Text) : Option Body :=
  (tokens? content).bind fun ts => (readBody false (ts.length + 2) .empty ts).map Prod.fst

end TextTemplate.Hcl
