import TriggerScript.Tree.Script

/-!
# Drafts

Descriptions of conditions, scripts and changes. A draft becomes a tree with the help of a registry,
which knows the shapes of the types.
-/

namespace TriggerScript

/-- A description of a condition. Parameters without a slot are ignored. -/
structure ConditionDraft where
  type : Option Int32
  params : List (Option Parameter)
  hasWarnings : Bool
  customData : Int32
  reserved : Int32

namespace ConditionDraft

def build (d : ConditionDraft) (registry : Registry) : Except ShapeError Condition := do
  let base ← match d.type with
    | none => pure Condition.blank
    | some type => Condition.ofType registry type
  let placed := d.params.zipIdx.foldl (fun c (p, slot) =>
    match p with
    | some p => c.withParam slot p
    | none => c) base
  return { placed with
    hasWarnings := d.hasWarnings, customData := d.customData, reserved := d.reserved }

end ConditionDraft

structure ScriptDraft where
  name : String
  comment : String
  active : Bool
  oneShot : Bool
  subroutine : Bool
  clauses : List (List ConditionDraft)

namespace ScriptDraft

def build (d : ScriptDraft) (registry : Registry) : Except ShapeError Script := do
  let clauses ← d.clauses.mapM fun drafts => Clause.mk <$> drafts.mapM (·.build registry)
  return ⟨d.name, d.comment, d.active, d.oneShot, d.subroutine, ⟨clauses⟩⟩

end ScriptDraft

/-- A change of the parameter's fields that are named. -/
structure ParameterEdit where
  kind : Option ParameterKind
  int : Option Int32
  real : Option Single
  text : Option String
  coord : Option Coord

def ParameterEdit.apply (e : ParameterEdit) (p : Parameter) : Parameter where
  kind := e.kind.getD p.kind
  int := e.int.getD p.int
  real := e.real.getD p.real
  text := e.text.getD p.text
  coord := e.coord.getD p.coord

/-- A change of the script's fields that are named. -/
structure ScriptEdit where
  name : Option String
  comment : Option String
  active : Option Bool
  oneShot : Option Bool
  subroutine : Option Bool

def ScriptEdit.apply (e : ScriptEdit) (s : Script) : Script :=
  { s with
    name := e.name.getD s.name
    comment := e.comment.getD s.comment
    active := e.active.getD s.active
    oneShot := e.oneShot.getD s.oneShot
    subroutine := e.subroutine.getD s.subroutine }

end TriggerScript
