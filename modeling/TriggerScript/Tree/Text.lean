import TriggerScript.Tree.Script
import TriggerScript.Parameter.Text

/-!
# Trigger expressions

The text of a trigger: conditions joined by `AND`, clauses joined by `OR`. Types that have no name
are shown by their tags.
-/

namespace TriggerScript

/-- The name of a type, where it has one. -/
abbrev TypeNames := Int32 → Option String

namespace Condition

def typeText (names : TypeNames) (type : Int32) : String := (names type).getD s!"#{type}"

def render (names : TypeNames) (c : Condition) : String :=
  typeText names c.type ++ "(" ++ String.intercalate ", " (c.params.map Parameter.render) ++ ")"

end Condition

namespace Clause

/-- A conjunction of nothing holds. -/
def render (names : TypeNames) (c : Clause) : String :=
  if c.isVacuous then "TRUE"
  else "(" ++ String.intercalate " AND " (c.conditions.map (Condition.render names)) ++ ")"

end Clause

namespace Trigger

/-- A disjunction of nothing does not hold. -/
def render (names : TypeNames) (t : Trigger) : String :=
  if t.clauses.isEmpty then "FALSE"
  else String.intercalate " OR " (t.clauses.map (Clause.render names))

end Trigger

def noNames : TypeNames := fun _ => none

end TriggerScript
