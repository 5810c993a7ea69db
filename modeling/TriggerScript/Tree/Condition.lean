import TriggerScript.Parameter.Qualifier
import TriggerScript.Registry.Basic
import TriggerScript.Registry.Error

/-!
# Conditions

A condition is a test of a known type with a parameter for each slot of the shape of the type.
-/

namespace TriggerScript

structure Condition where
  type : Int32
  params : List Parameter
  /-- A parameter was read whose kind is not that of its slot. -/
  hasWarnings : Bool
  customData : Int32
  reserved : Int32
  deriving DecidableEq

namespace Condition

/-- The condition that never holds, as it is before a type is chosen. -/
def blank : Condition := ⟨0, [], false, 0, 0⟩

/-! ## Types -/

def provision (registry : Registry) (type : Int32) : Except ShapeError (List Parameter) :=
  match registry.template? type with
  | none => .error (.unknownType type)
  | some t =>
    if t.shape.length > maxParameters then .error (.oversized t.name t.shape.length)
    else .ok (t.shape.map Parameter.ofKind)

/-- Chooses a type: the parameters start anew, the other fields stay. -/
def setType (c : Condition) (registry : Registry) (type : Int32) : Except ShapeError Condition :=
  (provision registry type).map fun params => { c with type, params }

def ofType (registry : Registry) (type : Int32) : Except ShapeError Condition :=
  blank.setType registry type

/-! ## Parameters -/

/-- Changes one parameter; nothing happens when there is no such slot. -/
def modifyParam (c : Condition) (slot : Nat) (f : Parameter → Parameter) : Condition :=
  { c with params := c.params.modify slot f }

def withParam (c : Condition) (slot : Nat) (p : Parameter) : Condition :=
  c.modifyParam slot fun _ => p

def qualify (q : Qualifier) (c : Condition) : Condition :=
  { c with params := c.params.map (Parameter.qualify q) }

/-! ## Copies -/

/-- A copy of the type and the parameters. The other fields start anew. -/
def duplicate (c : Condition) : Condition := { blank with type := c.type, params := c.params }

def duplicateQualified (q : Qualifier) (c : Condition) : Condition := c.duplicate.qualify q

/-- Equality in which real numbers are compared as numbers. -/
def sameValue (a b : Condition) : Bool :=
  a.type = b.type && a.params.isEqv b.params Parameter.sameValue && a.hasWarnings = b.hasWarnings
    && a.customData = b.customData && a.reserved = b.reserved

end Condition

end TriggerScript
