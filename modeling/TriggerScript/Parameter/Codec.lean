import TriggerScript.Parameter.Basic
import TriggerScript.Chunk.Program
import TriggerScript.Chunk.Writer

/-!
# Parameters in files

A parameter is stored as the code of its kind and its values: the coordinate for a coordinate, and
whole number, real number and text for every other kind.
-/

namespace TriggerScript.Parameter

variable {κ τ : Type}

def readValues (kind : ParameterKind) : Reading κ τ Parameter := do
  if kind = .coord3d then
    let x ← Reading.real
    let y ← Reading.real
    let z ← Reading.real
    return ofCoord ⟨x, y, z⟩
  else
    let int ← Reading.int
    let real ← Reading.real
    let text ← Reading.text
    return { ofKind kind with int, real, text }

def read : Reading κ τ Parameter := do
  let code ← Reading.int
  match ParameterKind.ofCode? code with
  | none => throw (.unknownParameterKind code)
  | some kind => readValues kind

def events (p : Parameter) : List Event :=
  if p.kind = .coord3d then
    [.int p.kind.code, .real p.coord.x, .real p.coord.y, .real p.coord.z]
  else
    [.int p.kind.code, .int p.int, .real p.real, .text p.text]

end TriggerScript.Parameter
