/-
Globs: patterns for file paths. In a path element `?` stands for one character, `*` for any number
of them, `[a-z]` and `[!a-z]` for one in or out of a class; an element `**` stands for any number of
directories, `{a,b}` for one of several texts, and a backslash takes the special meaning away.
`Glob.isValid` says which texts are patterns at all.
-/
import TextTemplate.Text.Rune

namespace TextTemplate.Glob

/-! ## Validity

A pattern is read as code points; all its special characters are ASCII. -/

/-- Skips a character class up to the bracket that ends it. -/
def afterClass? : List Nat → Option (List Nat)
  | [] => none
  | [0x5C] => none
  | 0x5C :: _ :: s => afterClass? s
  | 0x5D :: s => some s
  | _ :: s => afterClass? s

theorem length_afterClass?_lt {s rest : List Nat} (h : afterClass? s = some rest) :
    rest.length < s.length := by
  fun_induction afterClass? s with
  | case1 | case2 => simp at h
  | case3 b s ih => have := ih h; simp only [List.length_cons]; omega
  | case4 s => simp only [Option.some.injEq] at h; subst h; simp
  | case5 b s _ _ _ ih => have := ih h; simp only [List.length_cons]; omega

/-- What follows the opening bracket of a class, without the mark of a complement. -/
def classBody : List Nat → List Nat
  | 0x5E :: s => s
  | 0x21 :: s => s
  | s => s

theorem length_classBody_le (s : List Nat) : (classBody s).length ≤ s.length := by
  unfold classBody
  split <;> simp

/-- Whether the text is a pattern inside `depth` open braces: escapes are complete, classes end
and are not empty, and braces match. -/
def validFrom (depth : Nat) (s : List Nat) : Bool :=
  match s with
  | [] => depth == 0
  | [0x5C] => false
  | 0x5C :: _ :: s => validFrom depth s
  | 0x5B :: s =>
    if (classBody s).head? == some 0x5D then false
    else match _h : afterClass? (classBody s) with
      | none => false
      | some rest => validFrom depth rest
  | 0x7B :: s => validFrom (depth + 1) s
  | 0x7D :: s => if depth = 0 then false else validFrom (depth - 1) s
  | _ :: s => validFrom depth s
termination_by s.length
decreasing_by
  all_goals simp only [List.length_cons]
  all_goals try omega
  have := length_afterClass?_lt _h
  have := length_classBody_le s
  omega

def isValid (pattern : Text) : Bool := validFrom 0 pattern.codes

/-! ## Lists in braces -/

/-- The text before the brace that closes one of `depth` open braces last, and the text after it. -/
def atClosing? (depth : Nat) : List Nat → Option (List Nat × List Nat)
  | [] => none
  | [0x5C] => none
  | 0x5C :: c :: s => (atClosing? depth s).map fun (h, t) => (0x5C :: c :: h, t)
  | 0x7B :: s => (atClosing? (depth + 1) s).map fun (h, t) => (0x7B :: h, t)
  | 0x7D :: s =>
    if depth ≤ 1 then some ([], s) else (atClosing? (depth - 1) s).map fun (h, t) => (0x7D :: h, t)
  | c :: s => (atClosing? depth s).map fun (h, t) => (c :: h, t)

/-- The pieces between the commas of a list in braces, nested braces left alone; `code` gives the
code of a character, as byte or code point. -/
def commaParts {α : Type} (code : α → Nat) : (depth : Nat) → List α → List (List α)
  | _, [] => [[]]
  | depth, [c] => if code c = 0x2C ∧ depth = 1 then [[], []] else [[c]]
  | depth, c :: d :: s =>
    if code c = 0x5C then
      match commaParts code depth s with
      | [] => [[c, d]]
      | p :: ps => (c :: d :: p) :: ps
    else if code c = 0x2C ∧ depth = 1 then [] :: commaParts code depth (d :: s)
    else
      let depth := if code c = 0x7B then depth + 1 else if code c = 0x7D then depth - 1 else depth
      match commaParts code depth (d :: s) with
      | [] => [[c]]
      | p :: ps => (c :: p) :: ps

/-! ## Path elements

Matching goes through pattern and name side by side. It fails as soon as a character does not fit and
then gives the last star one more character. A fault in the pattern counts where matching meets it. -/

/-- What a class says of a character: whether it is listed, and what of the pattern is not yet read.
`last` is the character a range may start at. -/
def scanClass (c : Nat) : (fuel : Nat) → (last : Option Nat) → List Nat → Bool × List Nat
  | 0, _, s => (false, s)
  | _, _, [] => (false, [])
  | fuel + 1, last, p :: s =>
    if p = 0x5D then (false, p :: s)
    else
      let start := last.filter fun _ => p == 0x2D && !s.isEmpty && s.head? != some 0x5D
      match start with
      | some lo =>
        let s := if s.head? = some 0x5C then s.drop 1 else s
        let hi := s.head?.getD Rune.replacement
        if lo ≤ c && c ≤ hi then (true, s.drop 1) else scanClass c fuel none (s.drop 1)
      | none =>
        let (p, s) := if p = 0x5C then (s.head?.getD Rune.replacement, s.drop 1) else (p, s)
        if p = c then (true, s) else scanClass c fuel (if p < 0x10FFFF then some p else none) s

/-- What one part of a pattern says of a character. -/
inductive Verdict where
  /-- The pattern has a fault. -/
  | bad
  | unfit
  /-- The character fits, and this is left of the pattern. -/
  | fit (rest : List Nat)

/-- What a class says of a character, behind the opening bracket. -/
def matchClass (c : Nat) (s : List Nat) : Verdict :=
  let complement := s.head? == some 0x21 || s.head? == some 0x5E
  let body := if complement then s.drop 1 else s
  if body.isEmpty || body.head? == some 0x5D then .bad
  else
    let (listed, rest) := scanClass c body.length none body
    if listed == complement then (if rest.isEmpty then .bad else .unfit)
    else match afterClass? rest with
      | none => .bad
      | some rest => .fit rest

/-- What a pattern starts with. -/
inductive Opening where
  | finished
  | star (rest : List Nat)
  | anyChar (rest : List Nat)
  | cls (rest : List Nat)
  | choice (body : List Nat)
  | char (c : Nat) (rest : List Nat)
  /-- A backslash with nothing behind it. -/
  | loose

/-- What a pattern starts with; two stars side by side are one. -/
def opening (pattern : List Nat) : Opening :=
  match pattern with
  | [] => .finished
  | c :: s =>
    if c = 0x2A then .star (if s.head? = some 0x2A then s.tail else s)
    else if c = 0x3F then .anyChar s
    else if c = 0x5B then .cls s
    else if c = 0x7B then .choice s
    else if c = 0x5C then
      match s with
      | [] => .loose
      | d :: s => .char d s
    else .char c s

/-- The first answer that is not a plain no, which is the answer when there is no other. -/
def firstAnswer (f : List Nat → Option Bool) : List (List Nat) → Option Bool
  | [] => some false
  | p :: ps =>
    match f p with
    | some false => firstAnswer f ps
    | answer => answer

/-- Whether a pattern fits the empty name, or nothing when it has a fault. -/
def matchEmpty : (fuel : Nat) → List Nat → Option Bool
  | 0, _ => some false
  | fuel + 1, s =>
    if s = [] ∨ s = [0x2A] ∨ s = [0x2A, 0x2A] then some true
    else match opening s with
      | .choice body =>
        match atClosing? 1 body with
        | none => none
        | some (inside, after) =>
          firstAnswer (fun p => matchEmpty fuel (p ++ after)) (commaParts id 1 inside)
      | _ => if validFrom 0 s then some false else none

/-- Whether a name fits a pattern, or nothing when that meets a fault, in at most `fuel` steps. `star`
holds the pattern behind the last star and what the name has from that star on. -/
def matchFrom : (fuel : Nat) → (star : Option (List Nat × List Nat)) → (pattern name : List Nat) →
    Option Bool
  | 0, _, _, _ => some false
  | fuel + 1, _, pattern, [] => matchEmpty (fuel + 1) pattern
  | fuel + 1, star, pattern, c :: name =>
    let retry : Option Bool := match star with
      | some (behind, _ :: held) => matchFrom fuel (some (behind, held)) behind held
      | _ => some false
    match opening pattern with
    | .finished => retry
    | .star s => matchFrom fuel (some (s, c :: name)) s (c :: name)
    | .anyChar s => matchFrom fuel star s name
    | .cls s =>
      match matchClass c s with
      | .bad => none
      | .unfit => retry
      | .fit s => matchFrom fuel star s name
    | .choice body =>
      match atClosing? 1 body with
      | none => none
      | some (inside, after) =>
        let chosen (p : List Nat) : Option Bool :=
          let star := star.map fun (behind, held) =>
            (behind.take (behind.length - (body.length + 1)) ++ (p ++ after), held)
          matchFrom fuel star (p ++ after) (c :: name)
        firstAnswer chosen (commaParts id 1 inside)
    | .loose => none
    | .char d s => if c = d then matchFrom fuel star s name else retry

/-- Whether a path element fits a pattern, or nothing when matching meets a fault in it. -/
def matchElement (pattern name : Text) : Option Bool :=
  let p := pattern.codes
  let n := name.codes
  matchFrom ((p.length + n.length + 2) * (n.length + 2) * (p.length + 2)) none p n

/-! ## Taking patterns apart -/

/-- Where the first special character is. -/
def firstMeta? : Text → Option Nat
  | [] => none
  | [0x5C] => none
  | 0x5C :: _ :: s => (firstMeta? s).map (· + 2)
  | b :: s =>
    if b = 0x2A ∨ b = 0x3F ∨ b = 0x5B ∨ b = 0x7B then some 0 else (firstMeta? s).map (· + 1)

/-- The text with escaped special characters as they are. -/
def unescape : Text → Text
  | [] => []
  | 0x5C :: b :: s =>
    if (utf8 "*?[]\x7b\x7d").contains b then b :: unescape s else 0x5C :: unescape (b :: s)
  | b :: s => b :: unescape s
termination_by s => s.length

/-- The last place of one of the given bytes that has no backslash before it. -/
def lastOf? (bytes s : Text) : Option Nat :=
  (List.range s.length).reverse.find? fun i =>
    (s[i]?.any bytes.contains) && (i == 0 || s[i - 1]? != some 0x5C)

/-- The last place of a slash or closing brace. -/
def lastSplit? (s : Text) : Option Nat := lastOf? [0x2F, 0x7D] s

def lastSlash? (s : Text) : Option Nat := lastOf? [0x2F] s

/-- The length of what stands before the opening brace, in a reversed text that is inside `depth`
braces. -/
def openingGo (depth : Nat) : Text → Option Nat
  | [] => none
  | b :: s =>
    let escaped := s.head? == some 0x5C
    if b = 0x7D && !escaped then openingGo (depth + 1) s
    else if b = 0x7B && !escaped then if depth = 1 then some s.length else openingGo (depth - 1) s
    else openingGo depth s

/-- Where the brace opens that closes right behind the text. -/
def opening? (s : Text) : Option Nat := openingGo 1 s.reverse

/-- The choices of a list in braces. A comma at its end gives no empty choice. -/
def choices (s : Text) : List Text :=
  let pieces := commaParts UInt8.toNat 1 s
  if pieces.getLast? = some [] then pieces.dropLast else pieces

end TextTemplate.Glob
