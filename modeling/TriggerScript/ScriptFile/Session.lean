import TriggerScript.ScriptFile.Parsers

/-!
# Reading sessions

A session takes steps on one file after another and keeps its target between them. A failing step
does not end it: the reader goes on from where the step has left it.
-/

namespace TriggerScript

/-- One file of a session and the steps to take on it. -/
structure SessionInput where
  source : Except String (List UInt8)
  steps : List Step

/-- What a step of a session has found. A parse shows the target, and whether anything is left. -/
inductive Finding where
  | answer (value : Answer)
  | parse (result : Except ChunkError Unit) (target : Target) (atEnd : Bool)

namespace Target

/-- A trace is shown once: its log starts anew afterwards. -/
def afterShowing : Target → Target
  | .trace t => .trace { t with log := [] }
  | target => target

end Target

namespace Session

variable (registry : Registry)

def step (s : Step) (target : Target) (r : Reader ParserName) :
    (Finding × Target) × Reader ParserName :=
  match s with
  | .parse =>
    let ((result, target), r) := r.parse (scriptParsers registry) target
    ((.parse result target r.atEnd, target.afterShowing), r)
  | s =>
    let ((answer, target), r) := (s.program target).run (scriptParsers registry) r
    ((.answer answer, target), r)

def steps : List Step → Target → Reader ParserName → List Finding × Target
  | [], target, _ => ([], target)
  | s :: rest, target, r =>
    let ((finding, target), r) := step registry s target r
    let (findings, target) := steps rest target r
    (finding :: findings, target)

/-- One result for each file: why it cannot be opened, or what the steps find. -/
def run : List SessionInput → Target → List (Except ChunkError (List Finding))
  | [], _ => []
  | input :: rest, target =>
    match Reader.ofSource input.source with
    | .error e => .error e :: run rest target
    | .ok r =>
      let (findings, target) := steps registry input.steps target r
      .ok findings :: run rest target

end Session

end TriggerScript
