/-
Edit scripts between lists of lines. `shortest` finds a script with the fewest additions and
removals by pushing, for each number of edits, the furthest point on every diagonal: a point comes
from the neighbour diagonal that got further in the old lines, by removing a line on a tie, and
then slides over the lines that agree.
-/
import TextTemplate.Text.Basic

namespace TextTemplate.Diff

/-- One step of a script. -/
inductive Edit where
  | keep (line : Text)
  | add (line : Text)
  | remove (line : Text)
  deriving DecidableEq, Repr

/-- A point of the search: how many old lines are behind it, the lines still ahead on either side,
and the script that leads to it, last step first. -/
structure Point where
  passed : Nat
  old : List Text
  new : List Text
  script : List Edit

namespace Point

def isEnd (p : Point) : Bool := p.old.isEmpty && p.new.isEmpty

/-- Keeps the lines that agree. -/
def slide (passed : Nat) : List Text → List Text → List Edit → Point
  | a :: old, b :: new, script =>
    if a = b then slide (passed + 1) old new (.keep a :: script)
    else ⟨passed, a :: old, b :: new, script⟩
  | old, new, script => ⟨passed, old, new, script⟩

/-- Adds the next new line. -/
def down (p : Point) : Point :=
  slide p.passed p.old p.new.tail ((p.new.head?.map Edit.add).toList ++ p.script)

/-- Removes the next old line. -/
def across (p : Point) : Point :=
  slide (p.passed + 1) p.old.tail p.new ((p.old.head?.map Edit.remove).toList ++ p.script)

/-- The furthest point between two neighbours one edit earlier. -/
def between (left right : Point) : Point :=
  if right.passed > left.passed then right.down else left.across

end Point

/-- The points after one more edit, from the lowest diagonal up; `left` is the point below them. -/
def stepFrom (left : Point) : List Point → List Point
  | [] => [left.across]
  | right :: rest => Point.between left right :: stepFrom right rest

/-- The points after one more edit. -/
def step : List Point → List Point
  | [] => []
  | first :: rest => first.down :: stepFrom first rest

/-- Pushes the points on until one is at the end, for at most `fuel` edits. -/
def search (fuel : Nat) (points : List Point) : List Edit :=
  match points.find? Point.isEnd with
  | some p => p.script.reverse
  | none =>
    match fuel with
    | 0 => []
    | fuel + 1 => search fuel (step points)

/-- A shortest script from the old lines to the new. -/
def shortest (old new : List Text) : List Edit :=
  search (old.length + new.length) [Point.slide 0 old new []]

end TextTemplate.Diff
