/-
Reading expressions out of tokens. In parentheses, brackets and sequences of templates line breaks do
not count; in the braces of an object they part its entries. A name before a parenthesis is a call,
whatever name it is.
-/
import TextTemplate.Hcl.Template

namespace TextTemplate.Hcl

/-- The operators of each strength, weakest first. -/
def operators : List (List (Symbol × BinaryOp)) :=
  [[(.or, .or)], [(.and, .and)], [(.equal, .eq), (.notEqual, .ne)],
    [(.greaterEqual, .ge), (.lessEqual, .le), (.greater, .gt), (.less, .lt)],
    [(.plus, .add), (.minus, .sub)], [(.star, .mul), (.slash, .div), (.percent, .mod)]]

/-- Passes line breaks unless they count. -/
def skip (lines : Bool) (ts : List Token) : List Token :=
  if lines then ts else ts.dropWhile (· == .newline)

/-- What follows a symbol that has to be there. -/
def after? (s : Symbol) : List Token → Option (List Token)
  | .symbol t :: ts => if s = t then some ts else none
  | _ => none

/-- The operator of one strength that is here. -/
def operator? (ops : List (Symbol × BinaryOp)) : List Token → Option (BinaryOp × List Token)
  | .symbol s :: ts => (ops.find? (·.1 == s)).map fun (_, op) => (op, ts)
  | _ => none

/-- What follows a word that may be here. -/
def word? (word : String) : List Token → Option (List Token)
  | .name s :: ts => if s = utf8 word then some ts else none
  | _ => none

/-- The number of a token. -/
def numeral? (s : Text) : Option Expr := (Number.read? s).map fun n => .literal (.number n)

/-- The number of a token that stands behind a dot, which must not have a point. -/
def position? (s : Text) : Option Expr := if s.contains 0x2E then none else numeral? s

/-- The names a repetition gives to keys and values, up to the word before its collection. -/
def loopNames? (ts : List Token) : Option (Option Text × Text × List Token) :=
  match skip false ts with
  | .name first :: ts => do
    let (key, value, ts) ← match skip false ts with
      | .symbol .comma :: ts => match skip false ts with
        | .name second :: ts => some (some first, second, ts)
        | _ => none
      | ts => some (none, first, ts)
    return (key, value, ← word? "in" (skip false ts))
  | _ => none

/-- The attributes and positions behind a star that stands behind a dot. -/
def readAttributes (lines : Bool) : (fuel : Nat) → Expr → List Token → Option (Expr × List Token)
  | 0, _, _ => none
  | fuel + 1, each, ts =>
    match skip lines ts with
    | .symbol .dot :: r =>
      match skip lines r with
      | .name name :: ts => readAttributes lines fuel (.attribute each name) ts
      | .number n :: ts => (position? n).bind fun key =>
        readAttributes lines fuel (.index each key) ts
      | _ => none
    | _ => some (each, ts)

/-- What the name of a call goes on with: further names behind double colons. -/
def callNames? (lines : Bool) : (fuel : Nat) → List Token → Option (List Token)
  | 0, _ => none
  | fuel + 1, ts =>
    match skip lines ts with
    | .symbol .openParen :: ts => some ts
    | .symbol .doubleColon :: ts => match skip lines ts with
      | .name _ :: ts => callNames? lines fuel ts
      | _ => none
    | _ => none

mutual

/-- Reads an expression; `lines` says whether line breaks count. -/
def readExpr (lines : Bool) : (fuel : Nat) → List Token → Option (Expr × List Token)
  | 0, _ => none
  | fuel + 1, ts => do
    let (c, ts) ← readBinary lines fuel operators ts
    match skip lines ts with
    | .symbol .question :: r =>
      let (a, ts) ← readExpr lines fuel r
      let ts ← after? .colon (skip lines ts)
      let (b, ts) ← readExpr lines fuel ts
      return (.conditional c a b, ts)
    | _ => return (c, ts)

/-- Reads operators of the given strengths. -/
def readBinary (lines : Bool) : (fuel : Nat) → List (List (Symbol × BinaryOp)) → List Token →
    Option (Expr × List Token)
  | 0, _, _ => none
  | fuel + 1, [], ts => readTerm lines fuel ts
  | fuel + 1, ops :: stronger, ts => do
    let (a, ts) ← readBinary lines fuel stronger ts
    readOperands lines fuel ops stronger a ts

/-- Reads further operands of operators of one strength. -/
def readOperands (lines : Bool) : (fuel : Nat) → List (Symbol × BinaryOp) →
    List (List (Symbol × BinaryOp)) → Expr → List Token → Option (Expr × List Token)
  | 0, _, _, _, _ => none
  | fuel + 1, ops, stronger, a, ts =>
    match operator? ops (skip lines ts) with
    | none => some (a, ts)
    | some (op, rest) => do
      let (b, ts) ← readBinary lines fuel stronger rest
      readOperands lines fuel ops stronger (.binary op a b) ts

/-- Reads a term with what is asked of it. -/
def readTerm (lines : Bool) : (fuel : Nat) → List Token → Option (Expr × List Token)
  | 0, _ => none
  | fuel + 1, ts =>
    match skip lines ts with
    | .symbol .minus :: r => do
      let (e, ts) ← readTerm lines fuel r
      return (.unary .neg e, ts)
    | .symbol .bang :: r => do
      let (e, ts) ← readTerm lines fuel r
      return (.unary .not e, ts)
    | ts => do
      let (e, ts) ← readPrimary lines fuel ts
      readSteps lines fuel e ts

/-- Reads attributes and indexes behind a term. -/
def readSteps (lines : Bool) : (fuel : Nat) → Expr → List Token → Option (Expr × List Token)
  | 0, _, _ => none
  | fuel + 1, e, ts =>
    match skip lines ts with
    | .symbol .dot :: r =>
      match skip lines r with
      | .name name :: ts => readSteps lines fuel (.attribute e name) ts
      | .number n :: ts => (position? n).bind fun key => readSteps lines fuel (.index e key) ts
      | .symbol .star :: ts => do
        let (each, ts) ← readAttributes lines fuel .item ts
        readSteps lines fuel (.splat e each) ts
      | _ => none
    | .symbol .openBracket :: r =>
      match skip lines r with
      | .symbol .star :: r => do
        let ts ← after? .closeBracket (skip lines r)
        let (each, ts) ← readSteps lines fuel .item ts
        return (.splat e each, ts)
      | _ => do
        let (key, ts) ← readExpr false fuel r
        let ts ← after? .closeBracket (skip false ts)
        readSteps lines fuel (.index e key) ts
    | _ => some (e, ts)

/-- Reads a term by itself. -/
def readPrimary (lines : Bool) : (fuel : Nat) → List Token → Option (Expr × List Token)
  | 0, _ => none
  | fuel + 1, ts =>
    match ts with
    | .symbol .openParen :: r => do
      let (e, ts) ← readExpr false fuel r
      return (.wrapped e, ← after? .closeParen (skip false ts))
    | .symbol .openBracket :: r =>
      match word? "for" (skip false r) with
      | some r => readFor false fuel r
      | none => readItems fuel [] r
    | .symbol .openBrace :: r =>
      match word? "for" (skip false r) with
      | some r => readFor true fuel r
      | none => readEntries fuel [] r
    | .quote :: r => do
      let (parts, ts) ← readTemplate .quoteEnd fuel r
      return (← TemplatePart.toExpr? false parts, ts)
    | .heredoc flush :: r => do
      let (parts, ts) ← readTemplate .heredocEnd fuel r
      return (← TemplatePart.toExpr? flush parts, ts)
    | .number n :: r => (numeral? n).map fun e => (e, r)
    | .name name :: r =>
      match skip lines r with
      | .symbol .openParen :: _ | .symbol .doubleColon :: _ => do
        let ts ← callNames? lines (r.length + 1) r
        return (.invalid, ← readArguments fuel ts)
      | _ =>
        let e : Expr :=
          if name = utf8 "true" then .literal (.bool true)
          else if name = utf8 "false" then .literal (.bool false)
          else if name = utf8 "null" then .literal (.null .any)
          else .variableRef name
        some (e, r)
    | _ => none

/-- Reads a template up to the token that ends it. -/
def readTemplate (close : Token) : (fuel : Nat) → List Token →
    Option (List TemplatePart × List Token)
  | 0, _ => none
  | _ + 1, [] => none
  | fuel + 1, t :: ts =>
    if t = close then some ([], ts)
    else match t with
      | .literal quoted raw => do
        let s ← unescape? quoted 0 raw
        let (parts, ts) ← readTemplate close fuel ts
        return (.text s :: parts, ts)
      | .insert before => do
        let (e, ts) ← readExpr false fuel ts
        readBehind close fuel (.value e) before ts
      | .directive before => do
        let (m, ts) ← readDirective fuel ts
        readBehind close fuel m before ts
      | _ => none

/-- Reads a template behind a mark of it, whose sequence has to end here. -/
def readBehind (close : Token) : (fuel : Nat) → Mark → Bool → List Token →
    Option (List TemplatePart × List Token)
  | 0, _, _, _ => none
  | fuel + 1, m, before, ts =>
    match skip false ts with
    | .sequenceEnd behind :: ts => do
      let (parts, ts) ← readTemplate close fuel ts
      return (.mark m before behind :: parts, ts)
    | _ => none

/-- Reads a directive of a template. -/
def readDirective : (fuel : Nat) → List Token → Option (Mark × List Token)
  | 0, _ => none
  | fuel + 1, ts =>
    match skip false ts with
    | .name word :: ts =>
      if word = utf8 "else" then some (.otherwise, ts)
      else if word = utf8 "endif" then some (.ifEnd, ts)
      else if word = utf8 "endfor" then some (.forEnd, ts)
      else if word = utf8 "if" then (readExpr false fuel ts).map fun (c, ts) => (.ifStart c, ts)
      else if word = utf8 "for" then do
        let (key, value, ts) ← loopNames? ts
        let (items, ts) ← readExpr false fuel ts
        return (.forStart key value items, ts)
      else none
    | _ => none

/-- Reads the items of a tuple up to its bracket. -/
def readItems : (fuel : Nat) → List Expr → List Token → Option (Expr × List Token)
  | 0, _, _ => none
  | fuel + 1, items, ts =>
    match skip false ts with
    | .symbol .closeBracket :: r => some (.tuple items, r)
    | ts => do
      let (e, ts) ← readExpr false fuel ts
      match skip false ts with
      | .symbol .comma :: r => readItems fuel (items ++ [e]) r
      | .symbol .closeBracket :: r => some (.tuple (items ++ [e]), r)
      | _ => none

/-- Passes the arguments of a call up to its parenthesis. -/
def readArguments : (fuel : Nat) → List Token → Option (List Token)
  | 0, _ => none
  | fuel + 1, ts =>
    match skip false ts with
    | .symbol .closeParen :: r => some r
    | ts => do
      let (_, ts) ← readExpr false fuel ts
      match skip false ts with
      | .symbol .comma :: r => readArguments fuel r
      | .symbol .closeParen :: r => some r
      | .symbol .ellipsis :: r => after? .closeParen (skip false r)
      | _ => none

/-- Reads the entries of an object up to its brace; commas or line breaks stand between them. -/
def readEntries : (fuel : Nat) → List (Expr × Expr) → List Token → Option (Expr × List Token)
  | 0, _, _ => none
  | fuel + 1, entries, ts =>
    match skip false ts with
    | .symbol .closeBrace :: r => some (.object entries, r)
    | ts => do
      let (key, rest) ← readExpr true fuel ts
      let key := if ts.head? = some (.symbol .openParen) then key else key.asKey
      let ts ← match rest with
        | .symbol .assign :: r => some r
        | .symbol .colon :: r => some r
        | _ => none
      let (value, ts) ← readExpr true fuel ts
      let entries := entries ++ [(key, value)]
      match ts with
      | .symbol .comma :: r => readEntries fuel entries r
      | .newline :: r => readEntries fuel entries r
      | .symbol .closeBrace :: r => some (.object entries, r)
      | _ => none

/-- Reads a comprehension behind its first word. -/
def readFor (braces : Bool) : (fuel : Nat) → List Token → Option (Expr × List Token)
  | 0, _ => none
  | fuel + 1, ts => do
    let (key, value, ts) ← loopNames? ts
    let (items, ts) ← readExpr false fuel ts
    let ts ← after? .colon (skip false ts)
    let (a, ts) ← readExpr false fuel ts
    let (keyExpr, valueExpr, ts) ← if braces then do
        let ts ← after? .fatArrow (skip false ts)
        let (b, ts) ← readExpr false fuel ts
        some (some a, b, ts)
      else some (none, a, ts)
    let (group, ts) := match braces, skip false ts with
      | true, .symbol .ellipsis :: ts => (true, ts)
      | _, ts => (false, ts)
    let (condition, ts) ← match word? "if" (skip false ts) with
      | some ts => (readExpr false fuel ts).map fun (c, ts) => (some c, ts)
      | none => some (none, ts)
    let ts ← after? (if braces then .closeBrace else .closeBracket) (skip false ts)
    return (.forEach key value items keyExpr valueExpr group condition, ts)

end

end TextTemplate.Hcl
