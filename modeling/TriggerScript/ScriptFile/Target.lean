import TriggerScript.Chunk.Program
import TriggerScript.Parameter.Codec
import TriggerScript.Tree.Script

/-!
# Parse targets

The objects that the parsers of script files fill: a list of scripts, a script, a clause, or a
trace that records what a file holds.
-/

namespace TriggerScript

inductive ParserName where
  | script
  | clause
  | condition
  | trace
  deriving DecidableEq

inductive Step where
  | openChunk
  | closeChunk
  | byte
  | int
  | real
  | text
  | parameter
  | atEnd
  | register (label parent : String) (parser : ParserName)
  | parse
  | refuse (reason : String)

inductive Answer where
  | done
  | opened (info : ChunkInfo)
  | byte (value : UInt8)
  | int (value : Int32)
  | real (value : Single)
  | text (value : String)
  | parameter (value : Parameter)
  | atEnd (value : Bool)
  | parsed
  | failed (error : ChunkError)

/-- A step of the program for a chunk. The failure of a required step is that of the program. -/
structure TraceStep where
  step : Step
  required : Bool

/-- A record of the chunks met and the answers found, and the steps to take in a chunk by its
label. -/
structure Trace where
  log : List Answer
  programs : List (String × List TraceStep)

namespace Trace

def stepsFor (t : Trace) (label : String) : List TraceStep := (t.programs.lookup label).getD []

end Trace

inductive Target where
  | scripts (found : List Script)
  | script (value : Script)
  | clause (value : Clause)
  | trace (value : Trace)

namespace Target

def kind : Target → TargetKind
  | .scripts _ => .scripts
  | .script _ => .script
  | .clause _ => .clause
  | .trace _ => .trace

def foundScripts : Target → List Script
  | .scripts found => found
  | _ => []

def script? : Target → Option Script
  | .script s => some s
  | _ => none

def clause? : Target → Option Clause
  | .clause c => some c
  | _ => none

/-- Adds an answer to a trace; other targets keep no record. -/
def record (answer : Answer) : Target → Target
  | .trace t => .trace { t with log := t.log ++ [answer] }
  | target => target

end Target

end TriggerScript
