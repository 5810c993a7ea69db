import TriggerScript.Parameter.Qualifier

/-!
# Invocations

What the command line asks for.
-/

namespace TriggerScript

inductive ConfigAction where
  | display
  | path
  | verify
  | sample
  deriving DecidableEq

inductive Command where
  | dump (file : String)
  | qualify (file : String) (qualifier : Qualifier) (output : Option String)
  | types (query : Option String)
  | config (action : ConfigAction)
  | completions (shell : String)
  deriving DecidableEq

structure Invocation where
  configPath : Option String
  json : Bool
  noJson : Bool
  quiet : Bool
  command : Command
  deriving DecidableEq

inductive OutputMode where
  | text
  | json
  | quiet
  deriving DecidableEq

/-- To be quiet counts most. Without a wish, only a terminal gets text. -/
def Invocation.mode (i : Invocation) (terminal : Bool) : OutputMode :=
  if i.quiet then .quiet
  else if i.json then .json
  else if i.noJson || terminal then .text
  else .json

end TriggerScript
