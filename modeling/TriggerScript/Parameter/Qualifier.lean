import TriggerScript.Parameter.Basic

/-!
# Qualification

A template script names things relative to an instance that does not exist yet. A qualifier makes
it concrete: names of teams, scripts, counters and flags get a suffix, and the side of the template
is replaced.
-/

namespace TriggerScript

structure Qualifier where
  /-- What is put at the end of names. -/
  suffix : String
  /-- The side that templates name. -/
  templatePlayer : String
  /-- The side that replaces it. -/
  player : String
  deriving DecidableEq

/-- The team that a script belongs to. Its name is the same in every instance. -/
def thisTeam : String := "<This Team>"

namespace Qualifier

def scriptName (q : Qualifier) (name : String) : String := name ++ q.suffix

/-- The text of a parameter of the given kind, made concrete. -/
def qualifyText (q : Qualifier) (kind : ParameterKind) (text : String) : String :=
  match kind with
  | .side => if text = q.templatePlayer then q.player else text
  | .team => if text = thisTeam then text else text ++ q.suffix
  | .script | .scriptSubroutine | .counter | .flag => text ++ q.suffix
  | _ => text

end Qualifier

/-- Only the text of a parameter depends on the instance. -/
def Parameter.qualify (q : Qualifier) (p : Parameter) : Parameter :=
  { p with text := q.qualifyText p.kind p.text }

end TriggerScript
