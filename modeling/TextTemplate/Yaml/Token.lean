/-
The tokens of a stream of documents. Blocks, which are told by indentation, have tokens for their
starts and ends like the flow collections in brackets, so that nodes can be read without looking at
columns.
-/
import TextTemplate.Text.Basic

namespace TextTemplate.Yaml

/-- A token of a stream of documents. -/
inductive Token where
  | version (major minor : Nat)
  /-- A handle of tags and what it stands for. -/
  | tagHandle (handle uri : Text)
  | documentStart
  | documentEnd
  | blockSequence
  | blockMapping
  | blockEnd
  | flowSequence
  | flowSequenceEnd
  | flowMapping
  | flowMappingEnd
  | blockEntry
  | flowEntry
  | key
  | value
  | alias (name : Text)
  | anchor (name : Text)
  /-- A tag behind its handle; without a handle the tag is all of it. -/
  | tag (handle suffix : Text)
  | scalar (plain : Bool) (value : Text)
  | streamEnd
  deriving DecidableEq, Repr

end TextTemplate.Yaml
