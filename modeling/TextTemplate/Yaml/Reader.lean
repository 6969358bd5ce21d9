/-
Reading documents out of tokens. Only the first document of a text is read. A tag is given by
a handle, which a directive can tie to the start of a longer tag; a node named by an anchor can be
used again by an alias, though not inside itself.
-/
import TextTemplate.Yaml.Lexer
import TextTemplate.Yaml.Node

namespace TextTemplate.Yaml

/-! ## Names and tags -/

/-- What is left to read, with the names and handles given so far. -/
structure Reading where
  ahead : List Token
  /-- The nodes with names in the order of their starts; one that is still being read is none. -/
  anchors : List (Text × Option Node)
  /-- What the handles of tags stand for. -/
  handles : List (Text × Text)

namespace Reading

/-- What is left behind the next token. -/
def next (r : Reading) : Reading := { r with ahead := r.ahead.tail }

/-- The node of a name. -/
def find? (r : Reading) (name : Text) : Option Node :=
  (r.anchors.reverse.find? (·.1 == name)).bind Prod.snd

/-- Starts a node that may have a name. -/
def name (r : Reading) : Option Text → Reading
  | none => r
  | some name => { r with anchors := r.anchors ++ [(name, none)] }

/-- Ends a node that may have a name, which was the given one of the named nodes. -/
def define (r : Reading) (slot : Nat) (n : Node) : Option Text → Reading
  | none => r
  | some name => { r with anchors := r.anchors.set slot (name, some n) }

end Reading

/-- The tags of the standard types, in their short form. -/
def shortTag (tag : Text) : Text :=
  let long := utf8 "tag:yaml.org,2002:"
  if long.isPrefixOf tag then utf8 "!!" ++ tag.drop long.length else tag

/-- The handles that are always there. -/
def standardHandles : List (Text × Text) :=
  [(utf8 "!", utf8 "!"), (utf8 "!!", utf8 "tag:yaml.org,2002:")]

/-- The tag behind a handle; none when the handle is not known, or stands for nothing. -/
def wholeTag? (handles : List (Text × Text)) (handle suffix : Text) : Option Text :=
  if handle.isEmpty then some (shortTag suffix)
  else (handles.find? (·.1 == handle)).map fun (_, uri) => shortTag (uri ++ suffix)

/-- An anchor and a tag in front of a node, the tag empty when there is none. -/
structure Properties where
  anchor : Option Text
  tag : Text
  deriving DecidableEq, Repr

/-- Reads the properties of a node, in either order. -/
def readProperties? (r : Reading) : Option (Properties × Reading) :=
  match r.ahead with
  | .anchor name :: .tag handle suffix :: _ => do
    return (⟨some name, ← wholeTag? r.handles handle suffix⟩, r.next.next)
  | .tag handle suffix :: .anchor name :: _ => do
    return (⟨some name, ← wholeTag? r.handles handle suffix⟩, r.next.next)
  | .anchor name :: _ => some (⟨some name, []⟩, r.next)
  | .tag handle suffix :: _ => do return (⟨none, ← wholeTag? r.handles handle suffix⟩, r.next)
  | _ => some (⟨none, []⟩, r)

/-! ## Nodes -/

/-- Whether a value or a key of a block is left out before this token. -/
def endsBlockPart : Token → Bool
  | .key | .value | .blockEnd => true
  | _ => false

/-- Whether a value in flow is left out before this token, which may end a collection. -/
def endsFlowPart (last : Token) (t : Token) : Bool := t == .flowEntry || t == last

mutual

/-- Reads a node. Blocks may start only where `block` says so, and a sequence without a start of its
own only where `dashes` says so. -/
def readNode? : (fuel : Nat) → (block dashes : Bool) → Reading → Option (Node × Reading)
  | 0, _, _, _ => none
  | fuel + 1, block, dashes, r =>
    match r.ahead with
    | .alias name :: _ => (r.find? name).map fun n => (.alias name n, r.next)
    | _ => do
      let (p, r) ← readProperties? r
      let slot := r.anchors.length
      let r := r.name p.anchor
      let done (n : Node) (r : Reading) : Node × Reading := (n, r.define slot n p.anchor)
      let items (read : Option (List Node × Reading)) : Option (Node × Reading) :=
        read.map fun (ns, r) => done (.sequence ns) r
      let entries (read : Option (List (Node × Node) × Reading)) : Option (Node × Reading) :=
        read.map fun (es, r) => done (.mapping p.tag es) r
      let empty : Option (Node × Reading) :=
        if p.anchor.isSome || !p.tag.isEmpty then some (done (.scalar p.tag true []) r) else none
      match r.ahead with
      | [] => none
      | .blockEntry :: _ => if dashes then items (readDashes? fuel r) else empty
      | .scalar plain value :: _ => some (done (.scalar p.tag plain value) r.next)
      | .flowSequence :: _ => items (readFlowItems? fuel true r.next)
      | .flowMapping :: _ => entries (readFlowEntries? fuel true r.next)
      | .blockSequence :: _ => if block then items (readItems? fuel r.next) else empty
      | .blockMapping :: _ => if block then entries (readEntries? fuel r.next) else empty
      | _ => empty

/-- Reads the items of a block sequence up to its end. -/
def readItems? : (fuel : Nat) → Reading → Option (List Node × Reading)
  | 0, _ => none
  | fuel + 1, r =>
    match r.ahead with
    | .blockEnd :: _ => some ([], r.next)
    | .blockEntry :: [] => none
    | .blockEntry :: t :: _ => do
      let (n, r) ←
        if t == .blockEntry || t == .blockEnd then some (Node.null, r.next)
        else readNode? fuel true false r.next
      let (ns, r) ← readItems? fuel r
      return (n :: ns, r)
    | _ => none

/-- Reads the items of a sequence that stands in the column of the mapping it is in. -/
def readDashes? : (fuel : Nat) → Reading → Option (List Node × Reading)
  | 0, _ => none
  | fuel + 1, r =>
    match r.ahead with
    | [] => none
    | .blockEntry :: [] => none
    | .blockEntry :: t :: _ => do
      let (n, r) ←
        if t == .blockEntry || endsBlockPart t then some (Node.null, r.next)
        else readNode? fuel true false r.next
      let (ns, r) ← readDashes? fuel r
      return (n :: ns, r)
    | _ => some ([], r)

/-- Reads what stands behind the mark of a key or a value in a block. -/
def readBlockPart? : (fuel : Nat) → Reading → Option (Node × Reading)
  | 0, _ => none
  | fuel + 1, r =>
    match r.ahead with
    | [] => none
    | t :: _ => if endsBlockPart t then some (Node.null, r) else readNode? fuel true true r

/-- Reads the entries of a block mapping up to its end. -/
def readEntries? : (fuel : Nat) → Reading → Option (List (Node × Node) × Reading)
  | 0, _ => none
  | fuel + 1, r =>
    match r.ahead with
    | .blockEnd :: _ => some ([], r.next)
    | .key :: _ => do
      let (k, r) ← readBlockPart? fuel r.next
      let (v, r) ← match r.ahead with
        | [] => none
        | .value :: _ => readBlockPart? fuel r.next
        | _ => some (Node.null, r)
      let (es, r) ← readEntries? fuel r
      return ((k, v) :: es, r)
    | _ => none

/-- Reads a part of an entry in flow, which may be left out before a comma or the end. -/
def readFlowPart? : (fuel : Nat) → (last : Token) → Reading → Option (Node × Reading)
  | 0, _, _ => none
  | fuel + 1, last, r =>
    match r.ahead with
    | [] => none
    | t :: _ => if endsFlowPart last t then some (Node.null, r) else readNode? fuel false false r

/-- Reads the value of an entry in flow, if there is one. -/
def readFlowValue? : (fuel : Nat) → (last : Token) → Reading → Option (Node × Reading)
  | 0, _, _ => none
  | fuel + 1, last, r =>
    match r.ahead with
    | [] => none
    | .value :: _ => readFlowPart? fuel last r.next
    | _ => some (Node.null, r)

/-- Reads the items of a flow sequence up to its end, a comma before each but the first. An item
with a key is a mapping of one entry. -/
def readFlowItems? : (fuel : Nat) → (isFirst : Bool) → Reading → Option (List Node × Reading)
  | 0, _, _ => none
  | fuel + 1, isFirst, r =>
    match r.ahead with
    | [] => none
    | .flowSequenceEnd :: _ => some ([], r.next)
    | t :: _ => do
      if !isFirst && t != .flowEntry then none
      let r := if isFirst then r else r.next
      match r.ahead with
      | [] => none
      | .flowSequenceEnd :: _ => return ([], r.next)
      | .key :: rest =>
        -- an empty key takes up the mark that follows it
        let (k, r) ←
          if rest.head?.any fun t => t == .value || endsFlowPart .flowSequenceEnd t then
            some (Node.null, r.next.next)
          else readNode? fuel false false r.next
        let (v, r) ← readFlowValue? fuel .flowSequenceEnd r
        let (ns, r) ← readFlowItems? fuel false r
        return (.mapping [] [(k, v)] :: ns, r)
      | _ =>
        let (n, r) ← readNode? fuel false false r
        let (ns, r) ← readFlowItems? fuel false r
        return (n :: ns, r)

/-- Reads the entries of a flow mapping up to its end, a comma before each but the first. -/
def readFlowEntries? : (fuel : Nat) → (isFirst : Bool) → Reading →
    Option (List (Node × Node) × Reading)
  | 0, _, _ => none
  | fuel + 1, isFirst, r =>
    match r.ahead with
    | [] => none
    | .flowMappingEnd :: _ => some ([], r.next)
    | t :: _ => do
      if !isFirst && t != .flowEntry then none
      let r := if isFirst then r else r.next
      match r.ahead with
      | [] => none
      | .flowMappingEnd :: _ => return ([], r.next)
      | .key :: rest =>
        let (k, r) ←
          if rest.head? == some .value then some (Node.null, r.next)
          else readFlowPart? fuel .flowMappingEnd r.next
        let (v, r) ← readFlowValue? fuel .flowMappingEnd r
        let (es, r) ← readFlowEntries? fuel false r
        return ((k, v) :: es, r)
      | _ =>
        let (k, r) ← readNode? fuel false false r
        let (es, r) ← readFlowEntries? fuel false r
        return ((k, Node.null) :: es, r)

end

/-! ## Documents -/

/-- Reads the directives in front of a document: at most one version, and a handle at most once. -/
def readDirectives? (hasVersion : Bool) (handles : List (Text × Text)) : List Token →
    Option (List (Text × Text) × List Token)
  | .version major minor :: ts =>
    if hasVersion || major != 1 || minor != 1 then none else readDirectives? true handles ts
  | .tagHandle handle uri :: ts =>
    if handles.any (·.1 == handle) then none
    else readDirectives? hasVersion (handles ++ [(handle, uri)]) ts
  | ts => some (handles, ts)

/-- Whether a document has ended before its root. -/
def endsDocument : Token → Bool
  | .version _ _ | .tagHandle _ _ | .documentStart | .documentEnd | .streamEnd => true
  | _ => false

/-- Reads the first document out of tokens. One more token has to be there behind it. -/
def readTokens? (ts : List Token) : Option Node := do
  let fuel := 4 * ts.length + 8
  let root (block : Bool) (handles : List (Text × Text)) (ts : List Token) : Option Node := do
    let t ← ts.head?
    if block && endsDocument t then return .null
    let (n, r) ← readNode? fuel true false ⟨ts, [], handles ++ standardHandles⟩
    if r.ahead.isEmpty then none else return n
  match ← ts.head? with
  | .streamEnd => none
  | .version _ _ | .tagHandle _ _ | .documentStart =>
    match ← readDirectives? false [] ts with
    | (handles, .documentStart :: ts) => root true handles ts
    | _ => none
  | _ => root false [] ts

/-- The characters of a text of 16-bit units; none when a surrogate has no partner. -/
def ofUnits? : List Nat → Option (List Nat)
  | [] => some []
  | a :: s =>
    if 0xDC00 ≤ a && a ≤ 0xDFFF then none
    else if 0xD800 ≤ a && a ≤ 0xDBFF then
      match s with
      | b :: s =>
        if 0xDC00 ≤ b && b ≤ 0xDFFF then
          (ofUnits? s).map ((0x10000 + (a - 0xD800) * 0x400 + (b - 0xDC00)) :: ·)
        else none
      | [] => none
    else (ofUnits? s).map (a :: ·)

/-- The 16-bit units of a text, the greater byte first or not; none when a byte is left over. -/
def units? (isBigEndian : Bool) : Text → Option (List Nat)
  | [] => some []
  | [_] => none
  | a :: b :: s =>
    let unit := if isBigEndian then a.toNat * 256 + b.toNat else b.toNat * 256 + a.toNat
    (units? isBigEndian s).map (unit :: ·)

/-- The characters of a text, whose first bytes tell how it is encoded. -/
def characters? : Text → Option (List Nat)
  | 0xFF :: 0xFE :: s => (units? false s).bind ofUnits?
  | 0xFE :: 0xFF :: s => (units? true s).bind ofUnits?
  | 0xEF :: 0xBB :: 0xBF :: s => if Text.isUtf8 s then some (Text.codes s) else none
  | s => if Text.isUtf8 s then some (Text.codes s) else none

/-- The root of the first document: nothing when the text cannot be read or has no document. -/
def readDocument (content : Text) : Option Node := do
  let s ← characters? content
  if s.all isAllowed then readTokens? (tokens (normalBreaks s)) else none

end TextTemplate.Yaml
