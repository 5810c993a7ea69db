import TriggerScript.ScriptFile.ReadCondition
import TriggerScript.ScriptFile.Target

/-!
# The parsers of script files

A script holds clauses and a clause holds conditions, each in a chunk of its own. A parser fills a
new object from the chunks inside its own chunk, and adds it to the target once all of it has been
read: a failure leaves nothing behind.
-/

namespace TriggerScript

def scriptLabel : String := "Script"

def clauseLabel : String := "OrCondition"

def conditionLabel : String := "Condition"

namespace Script

variable {κ τ : Type}

/-- Name, comment and flags: a script without clauses. -/
def readHeader : Reading κ τ Script := do
  let name ← Reading.text
  let comment ← Reading.text
  let active ← Reading.byte
  let oneShot ← Reading.byte
  let subroutine ← Reading.byte
  return ⟨name, comment, active ≠ 0, oneShot ≠ 0, subroutine ≠ 0, .empty⟩

end Script

/-- A program on script files that leaves a target. -/
abbrev Filling := Program ParserName Target (Except ChunkError Unit × Target)

/-! ## Conditions -/

def parseCondition (registry : Registry) : Parser ParserName Target := fun info target =>
  match target with
  | .clause clause => do
    match ← (Condition.read registry info.version).run with
    | .error e => return (.error e, target)
    | .ok c => return (.ok (), .clause ⟨clause.conditions ++ [c]⟩)
  | _ => return (.error (.unexpectedTarget .clause), target)

/-! ## Clauses -/

def parseClause : Parser ParserName Target := fun info target =>
  match target with
  | .script script => do
    Program.ofCall (.register conditionLabel info.label .condition)
    let (result, filled) ← Program.ofCall (.parse (.clause ⟨[]⟩))
    match result with
    | .error e => return (.error e, target)
    | .ok () => return (.ok (), .script (script.mapClauses (· ++ filled.clause?.toList)))
  | _ => return (.error (.unexpectedTarget .script), target)

/-! ## Scripts -/

def parseScript : Parser ParserName Target := fun info target =>
  match target with
  | .scripts found => do
    match ← Script.readHeader.run with
    | .error e => return (.error e, target)
    | .ok header =>
      Program.ofCall (.register clauseLabel info.label .clause)
      let (result, filled) ← Program.ofCall (.parse (.script header))
      match result with
      | .error e => return (.error e, target)
      | .ok () => return (.ok (), .scripts (found ++ filled.script?.toList))
  | _ => return (.error (.unexpectedTarget .scripts), target)

/-! ## Traces -/

/-- A read, as a program that answers what was found. -/
def Step.reading {α : Type} (found : α → Answer) (read : Reading ParserName Target α) :
    Program ParserName Target Answer := do
  match ← read.run with
  | .ok a => return found a
  | .error e => return .failed e

/-- Takes a step. Only parsing changes the target. -/
def Step.program (target : Target) : Step → Program ParserName Target (Answer × Target)
  | .openChunk => (·, target) <$> reading .opened (Program.ofCall .openChunk)
  | .closeChunk => do
    Program.ofCall .closeChunk
    return (.done, target)
  | .byte => (·, target) <$> reading .byte Reading.byte
  | .int => (·, target) <$> reading .int Reading.int
  | .real => (·, target) <$> reading .real Reading.real
  | .text => (·, target) <$> reading .text Reading.text
  | .parameter => (·, target) <$> reading .parameter Parameter.read
  | .atEnd => do
    let ended ← Program.ofCall .atEnd
    return (.atEnd ended, target)
  | .register label parent parser => do
    Program.ofCall (.register label parent parser)
    return (.done, target)
  | .parse => do
    let (result, target) ← Program.ofCall (.parse target)
    match result with
    | .ok () => return (.parsed, target)
    | .error e => return (.failed e, target)
  | .refuse reason => return (.failed (.malformed (.refused reason)), target)

/-- Takes steps and records their answers, up to a required one that fails. -/
def TraceStep.runAll : List TraceStep → Target → Filling
  | [], target => return (.ok (), target)
  | s :: rest, target => do
    let (answer, target) ← s.step.program target
    let target := target.record answer
    match s.required, answer with
    | true, .failed e => return (.error e, target)
    | _, _ => runAll rest target

/-- Records the chunk and what the steps for its label find. -/
def parseTrace : Parser ParserName Target := fun info target =>
  match target with
  | .trace t => TraceStep.runAll (t.stepsFor info.label) (target.record (.opened info))
  | _ => return (.error (.unexpectedTarget .trace), target)

/-- The parsers behind the names, for the types of a registry. -/
def scriptParsers (registry : Registry) : ParserName → Parser ParserName Target
  | .script => parseScript
  | .clause => parseClause
  | .condition => parseCondition registry
  | .trace => parseTrace

end TriggerScript
