import TriggerScript.Parameter.Kind

/-!
# Registries

Conditions know their type by a tag only. A registry tells the name of the type and the shape of
its parameters, and finds types by name.
-/

namespace TriggerScript

/-- A condition type: its tag, its name and the kinds of its parameters. -/
structure Template where
  id : Int32
  name : String
  shape : List ParameterKind
  deriving DecidableEq

/-- Two ways to look up a condition type. Nothing ties them together. -/
structure Registry where
  template? : Int32 → Option Template
  named? : String → Option Template

namespace Registry

def typeName? (r : Registry) (tag : Int32) : Option String := (r.template? tag).map (·.name)

def shape? (r : Registry) (tag : Int32) : Option (List ParameterKind) :=
  (r.template? tag).map (·.shape)

/-- Looks in a list, which may hold anything, and takes the first template that fits. -/
def ofList (templates : List Template) : Registry where
  template? tag := templates.find? fun t => t.id = tag
  named? name := templates.find? fun t => t.name = name

def empty : Registry := ofList []

end Registry

end TriggerScript
