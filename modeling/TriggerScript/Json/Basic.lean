/-!
# JSON values

The values that commands report. Objects keep the order of their fields, and numbers that are not
whole are given by their text.
-/

namespace TriggerScript

inductive Json where
  | null
  | bool (value : Bool)
  | int (value : Int)
  | number (text : String)
  | string (value : String)
  | array (items : List Json)
  | object (fields : List (String × Json))

namespace Json

def ofOption (value : Option String) : Json :=
  match value with
  | some s => .string s
  | none => .null

/-- A field that is left out when there is nothing to say. -/
def optionalField (name : String) (value : Option Json) : List (String × Json) :=
  value.toList.map fun v => (name, v)

end Json

end TriggerScript
