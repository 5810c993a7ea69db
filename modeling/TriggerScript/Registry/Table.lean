import TriggerScript.Registry.Basic
import TriggerScript.Registry.Error

/-!
# Tables of condition types

A table holds templates in the order of their tags. Adding one replaces the template with the same
tag; a name that another tag holds, or a shape that is too long, is refused.
-/

namespace TriggerScript

structure TemplateTable where
  templates : List Template
  deriving DecidableEq

namespace TemplateTable

def empty : TemplateTable := ⟨[]⟩

def registry (table : TemplateTable) : Registry := .ofList table.templates

def size (table : TemplateTable) : Nat := table.templates.length

/-- Another template that has the name of `t`. -/
def rival? (table : TemplateTable) (t : Template) : Option Template :=
  table.templates.find? fun u => u.id ≠ t.id && u.name = t.name

/-- Puts a template in its place by tag. -/
def place (t : Template) : List Template → List Template
  | [] => [t]
  | u :: rest =>
    if u.id = t.id then t :: rest
    else if t.id < u.id then t :: u :: rest
    else u :: place t rest

/-- The template that was replaced, if any, and the new table. -/
def insert (table : TemplateTable) (t : Template) :
    Except InsertError (Option Template × TemplateTable) :=
  if t.shape.length > maxParameters then .error (.oversized t.name t.shape.length)
  else
    match table.rival? t with
    | some u => .error (.nameTaken t.name u.id)
    | none => .ok (table.registry.template? t.id, ⟨place t table.templates⟩)

/-- Adds templates one after the other, up to the first that is refused. -/
def insertAll (table : TemplateTable) (templates : List Template) :
    Except InsertError TemplateTable :=
  templates.foldlM (fun table t => (·.2) <$> table.insert t) table

/-! ## The standard table -/

def builtin : TemplateTable := ⟨[
  ⟨0, "CONDITION_FALSE", []⟩,
  ⟨1, "COUNTER", [.counter, .comparison, .int]⟩,
  ⟨2, "FLAG", [.flag, .boolean]⟩,
  ⟨3, "CONDITION_TRUE", []⟩,
  ⟨4, "TIMER_EXPIRED", [.counter]⟩,
  ⟨5, "PLAYER_ALL_DESTROYED", [.side]⟩,
  ⟨6, "PLAYER_ALL_BUILDFACILITIES_DESTROYED", [.side]⟩,
  ⟨7, "TEAM_INSIDE_AREA_PARTIALLY", [.team, .triggerArea, .surfacesAllowed]⟩,
  ⟨8, "TEAM_DESTROYED", [.team]⟩,
  ⟨9, "CAMERA_MOVEMENT_FINISHED", []⟩,
  ⟨10, "TEAM_HAS_UNITS", [.team]⟩,
  ⟨11, "TEAM_STATE_IS", [.team, .teamState]⟩,
  ⟨12, "TEAM_STATE_IS_NOT", [.team, .teamState]⟩,
  ⟨13, "NAMED_INSIDE_AREA", [.unit, .triggerArea]⟩,
  ⟨14, "NAMED_OUTSIDE_AREA", [.unit, .triggerArea]⟩,
  ⟨15, "NAMED_DESTROYED", [.unit]⟩,
  ⟨16, "NAMED_NOT_DESTROYED", [.unit]⟩,
  ⟨17, "TEAM_INSIDE_AREA_ENTIRELY", [.team, .triggerArea, .surfacesAllowed]⟩,
  ⟨18, "TEAM_OUTSIDE_AREA_ENTIRELY", [.team, .triggerArea, .surfacesAllowed]⟩]⟩

end TemplateTable

end TriggerScript
