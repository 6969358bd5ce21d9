/-
Directive processors: what owns the directives this library does not know. A processor writes
class members for its directives and contributes imports and references. Its calls may read and
change a world `σ` (a log, counters, its own memory), which is handed from call to call; so a run
is a function of the world it starts in, whatever the processors do.
-/
import TextTemplate.Diagnostic
import TextTemplate.Code.Declaration
import TextTemplate.Template.Attributes

namespace TextTemplate

/-- Values from outside by processor, directive and parameter name. -/
abbrev ParameterValues := (processor directive name : Text) → Option Text

/-- Why a processor's call failed. -/
inductive ProcessorError where
  /-- A parameter directive that names no parameter. -/
  | missingParameterName
  /-- A failure in the processor's own words. -/
  | failed (text : Text)
  deriving DecidableEq, Repr

def ProcessorError.message : ProcessorError → Text
  | missingParameterName => utf8 "Parameter directive has no name argument"
  | failed text => text

/-- What a writing call leaves behind: the writer, the diagnostics it added, and its failure. -/
structure Contribution where
  writer : Writer
  diagnostics : Diagnostics
  error : Option ProcessorError

/-- The calls that come when all directives are processed. -/
inductive LateCall where
  | finish
  | imports
  | references
  | classAttributes
  deriving DecidableEq, Repr

/-- A processor over a world `σ`. Its calls come in this order: `setUp` once, `takeParameters`
when values from outside are at hand, `start` once, `process` for each of its directives in template
order, then `finish`, `imports`, `references` and `classAttributes`. From `start` on it may add to
the diagnostics of the run in any call. -/
structure Processor (σ : Type) where
  setUp : σ → Option ProcessorError × σ
  /-- Present in a processor that reads values from outside. -/
  takeParameters : Option (σ → σ)
  supports : Text → Bool
  start : Writer → (source : Text) → σ → Contribution × σ
  process : Option ParameterValues → Writer → (directive : Text) → Attributes → σ →
    Contribution × σ
  finish : σ → Option ProcessorError × σ
  imports : σ → List Text × σ
  references : σ → List Text × σ
  classAttributes : σ → List Text × σ
  /-- The diagnostics a late call adds in a world. -/
  notes : LateCall → σ → Diagnostics := fun _ _ => []

/-- Makes a processor for one run. -/
abbrev Factory (σ : Type) := σ → Processor σ × σ

namespace Processor

/-- A processor that supports nothing and does nothing. -/
def idle {σ : Type} : Processor σ where
  setUp s := (none, s)
  takeParameters := none
  supports _ := false
  start w _ s := (⟨w, [], none⟩, s)
  process _ w _ _ s := (⟨w, [], none⟩, s)
  finish s := (none, s)
  imports s := ([], s)
  references s := ([], s)
  classAttributes s := ([], s)

end Processor
end TextTemplate
