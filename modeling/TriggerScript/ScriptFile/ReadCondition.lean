import TriggerScript.Parameter.Codec
import TriggerScript.Tree.Condition

/-!
# Reading a condition

A condition is stored as the tag of its type, from version 4 on the name of the type, and a count
and that many parameters. The name decides when the tag stands for a type of another name.
-/

namespace TriggerScript.Condition

variable {κ τ : Type}

def namedVersion : UInt16 := 4

/-- A tag whose type has the stored name stands. Otherwise the type of that name is meant, if there
is one. -/
def resolveType (registry : Registry) (tag : Int32) (name : String) : Int32 :=
  if registry.typeName? tag = some name then tag
  else
    match registry.named? name with
    | some t => t.id
    | none => tag

/-- Puts the parameters found into the slots. Slots without one keep their defaults, and parameters
without a slot are dropped. -/
def fillSlots : List Parameter → List Parameter → List Parameter
  | _ :: slots, p :: found => p :: fillSlots slots found
  | slots, [] => slots
  | [], _ => []

/-- A parameter found is not of the kind of its slot. -/
def mismatch (slots found : List Parameter) : Bool :=
  (slots.zip found).any fun (slot, p) => p.kind ≠ slot.kind

def fill (c : Condition) (found : List Parameter) : Condition :=
  { c with
    params := fillSlots c.params found
    hasWarnings := c.hasWarnings || mismatch c.params found }

def readType (registry : Registry) (version : UInt16) : Reading κ τ Int32 := do
  let tag ← Reading.int
  if namedVersion ≤ version then
    let name ← Reading.text
    return resolveType registry tag name
  else return tag

def readParams : Reading κ τ (List Parameter) := do
  let count ← Reading.int
  if 0 ≤ count.toInt ∧ count.toInt ≤ maxParameters then
    Reading.count count.toInt.toNat Parameter.read
  else throw (.malformed (.parameterCount count))

def read (registry : Registry) (version : UInt16) : Reading κ τ Condition := do
  let type ← readType registry version
  match ofType registry type with
  | .error e => throw (ChunkError.ofShape e)
  | .ok c => c.fill <$> readParams

end TriggerScript.Condition
