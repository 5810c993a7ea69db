import TriggerScript.Parameter.Basic
import TriggerScript.Decimal.Layout

/-!
# Parameters in expressions

How a parameter is shown inside a trigger expression.
-/

namespace TriggerScript

namespace Single

def plainText (x : Single) : String := NumberLayout.plain.text .single x.value

end Single

def comparisonSign? (code : Int32) : Option String :=
  if code = 0 then some "<"
  else if code = 1 then some "<="
  else if code = 2 then some "=="
  else if code = 3 then some ">="
  else if code = 4 then some ">"
  else if code = 5 then some "!="
  else none

namespace Coord

def render (c : Coord) : String := s!"({c.x.plainText}, {c.y.plainText}, {c.z.plainText})"

end Coord

namespace Parameter

/-- The value that counts for the kind. Text is put between quotes as it is. -/
def render (p : Parameter) : String :=
  match p.kind with
  | .coord3d => p.coord.render
  | .boolean => if p.int = 0 then "false" else "true"
  | .comparison => (comparisonSign? p.int).getD s!"cmp#{p.int}"
  | kind =>
    if kind.isIntegral then toString p.int
    else if kind.isReal then p.real.plainText
    else "\"" ++ p.text ++ "\""

end Parameter

end TriggerScript
