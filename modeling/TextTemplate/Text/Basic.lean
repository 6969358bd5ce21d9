/-
Texts. A template is read from bytes that need not be valid UTF-8, and what is cut from it is cut
at bytes, so a text of this library is a list of bytes; `utf8` gives the text of a literal. The
operations here are those every other module needs: cutting at a separator, replacing a pattern
everywhere, joining, and the decimal text of a number.
-/

namespace TextTemplate

/-- A text: its bytes, by convention UTF-8. -/
abbrev Text := List UInt8

/-- The UTF-8 bytes of a literal. -/
def utf8 (s : String) : Text := s.toList.flatMap String.utf8EncodeChar

namespace Text

/-- The decimal digits of a number. -/
def ofNat (n : Nat) : Text := utf8 (Nat.repr n)

/-- The decimal text of an integer, with a minus sign below zero. -/
def ofInt : Int → Text
  | .ofNat n => ofNat n
  | .negSucc n => utf8 "-" ++ ofNat (n + 1)

/-- Lexicographic order of the bytes. -/
def blt : Text → Text → Bool
  | _, [] => false
  | [], _ :: _ => true
  | a :: s, b :: t => a < b || (a == b && blt s t)

/-- The bytes before the first `sep` and those after it, or nothing when `sep` does not occur. -/
def cut? (sep : UInt8) : Text → Option (Text × Text)
  | [] => none
  | b :: s => if b = sep then some ([], s) else (cut? sep s).map fun (h, t) => (b :: h, t)

/-- The text before the first occurrence of the pattern and the text after that occurrence. -/
def cutAt? (pattern : Text) : Text → Option (Text × Text)
  | [] => if pattern.isEmpty then some ([], []) else none
  | b :: s =>
    if pattern.isPrefixOf (b :: s) then some ([], (b :: s).drop pattern.length)
    else (cutAt? pattern s).map fun (h, t) => (b :: h, t)

/-- The pieces between the occurrences of `sep`; a text without `sep` is one piece. -/
def pieces (sep : UInt8) : Text → List Text
  | [] => [[]]
  | b :: s =>
    if b = sep then [] :: pieces sep s
    else match pieces sep s with
      | [] => [[b]]
      | p :: ps => (b :: p) :: ps

/-- Replaces the occurrences of a non-empty pattern from left to right; the first argument counts
the bytes of the occurrence being passed. -/
def replaceGo (old new : Text) : Nat → Text → Text
  | _, [] => []
  | k + 1, _ :: s => replaceGo old new k s
  | 0, b :: s =>
    if old.isPrefixOf (b :: s) then new ++ replaceGo old new (old.length - 1) s
    else b :: replaceGo old new 0 s

/-- Replaces every occurrence of a non-empty pattern, from left to right. -/
def replace (old new s : Text) : Text := replaceGo old new 0 s

/-- The texts one after the other with a separator between them. -/
def join (sep : Text) (parts : List Text) : Text := (parts.intersperse sep).flatten

/-- The bytes after the last occurrence of `sep`, all of them when there is none. -/
def afterLast (sep : UInt8) (s : Text) : Text := (s.reverse.takeWhile (· ≠ sep)).reverse

/-- The text without a given ending, as it is when it does not end so. -/
def dropEnd (ending s : Text) : Text :=
  if ending.isSuffixOf s then s.take (s.length - ending.length) else s

/-- The text without a given start, as it is when it does not start so. -/
def dropStart (start s : Text) : Text :=
  if start.isPrefixOf s then s.drop start.length else s

/-- The text without the bytes at its end that satisfy `p`. -/
def dropEndWhile (p : UInt8 → Bool) (s : Text) : Text := (s.reverse.dropWhile p).reverse

end Text
end TextTemplate
