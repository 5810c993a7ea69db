/-!
# Errors of condition types

Why a type cannot be given to a condition, and why it cannot be added to a table.
-/

namespace TriggerScript

def maxParameters : Nat := 12

def oversizedMessage (typeName : String) (count : Nat) : String :=
  s!"condition type '{typeName}' declares {count} parameters (max {maxParameters})"

inductive ShapeError where
  | unknownType (tag : Int32)
  | oversized (typeName : String) (count : Nat)
  deriving DecidableEq

namespace ShapeError

def message : ShapeError → String
  | .unknownType tag => s!"unknown condition type: {tag}"
  | .oversized typeName count => oversizedMessage typeName count

end ShapeError

inductive InsertError where
  | oversized (typeName : String) (count : Nat)
  | nameTaken (typeName : String) (holder : Int32)
  deriving DecidableEq

namespace InsertError

def message : InsertError → String
  | .oversized typeName count => oversizedMessage typeName count
  | .nameTaken typeName holder =>
    s!"condition type name '{typeName}' is already used by type {holder}"

end InsertError

end TriggerScript
