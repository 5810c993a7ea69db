import TriggerScript.Tree.Draft
import TriggerScript.ScriptFile.Load
import TriggerScript.ScriptFile.Save

/-!
# Editing script trees

A workspace holds loose conditions, scripts and the registry in force, and is changed by edits. An
edit that is refused changes nothing.
-/

namespace TriggerScript

/-! ## Changes of a condition -/

/-- A change of one condition. -/
inductive ConditionEdit where
  | setType (type : Int32)
  | setParam (slot : Nat) (p : Parameter)
  | editParam (slot : Nat) (change : ParameterEdit)
  | setFlags (hasWarnings : Option Bool) (customData reserved : Option Int32)
  | qualify (q : Qualifier)

/-- Sets the values that are named. -/
def Condition.setFlags (c : Condition) (hasWarnings : Option Bool)
    (customData reserved : Option Int32) : Condition :=
  { c with
    hasWarnings := hasWarnings.getD c.hasWarnings
    customData := customData.getD c.customData
    reserved := reserved.getD c.reserved }

def ConditionEdit.apply (registry : Registry) (c : Condition) :
    ConditionEdit → Except ShapeError Condition
  | setType type => c.setType registry type
  | setParam slot p => .ok (c.withParam slot p)
  | editParam slot change => .ok (c.modifyParam slot change.apply)
  | setFlags hasWarnings customData reserved => .ok (c.setFlags hasWarnings customData reserved)
  | qualify q => .ok (c.qualify q)

/-! ## Copies -/

/-- How a part of a tree is copied: as it is, or with the flags of its conditions anew, and made
concrete when there is a qualifier. -/
inductive Copying where
  | whole
  | anew (q : Option Qualifier)

namespace Workspace

/-- A copy, made concrete when there is a qualifier. -/
def copyCondition (q : Option Qualifier) (c : Condition) : Condition :=
  match q with
  | none => c.duplicate
  | some q => c.duplicateQualified q

def copyClause (q : Option Qualifier) (c : Clause) : Clause :=
  match q with
  | none => c.duplicate
  | some q => c.duplicateQualified q

def copyTrigger (q : Option Qualifier) (t : Trigger) : Trigger :=
  match q with
  | none => t.duplicate
  | some q => t.duplicateQualified q

def copyScript (q : Option Qualifier) (s : Script) : Script :=
  match q with
  | none => s.duplicate
  | some q => s.duplicateQualified q

end Workspace

namespace Copying

def condition (copying : Copying) (c : Condition) : Condition :=
  match copying with
  | whole => c
  | anew q => Workspace.copyCondition q c

def clause (copying : Copying) (c : Clause) : Clause :=
  match copying with
  | whole => c
  | anew q => Workspace.copyClause q c

def trigger (copying : Copying) (t : Trigger) : Trigger :=
  match copying with
  | whole => t
  | anew q => Workspace.copyTrigger q t

def script (copying : Copying) (s : Script) : Script :=
  match copying with
  | whole => s
  | anew q => Workspace.copyScript q s

end Copying

/-! ## Edits -/

/-- Conditions and scripts are named by their places. -/
inductive Edit where
  | addCondition (draft : ConditionDraft)
  | setType (c : Nat) (type : Int32)
  | setParam (c slot : Nat) (p : Parameter)
  | editParam (c slot : Nat) (change : ParameterEdit)
  | setFlags (c : Nat) (hasWarnings : Option Bool) (customData reserved : Option Int32)
  | duplicate (c : Nat) (q : Option Qualifier)
  | qualify (c : Nat) (q : Qualifier)
  | addScript (draft : ScriptDraft)
  | editScript (s : Nat) (change : ScriptEdit)
  | pushClause (s : Nat) (cs : List Nat)
  | pushCondition (s k c : Nat)
  | editClauseParam (s k n slot : Nat) (change : ParameterEdit)
  | removeClause (s k : Nat)
  | setTrigger (s : Nat) (source : Option Nat)
  | duplicateScript (s : Nat) (q : Option Qualifier)
  | reload
  | setRegistry (registry : Registry)
  /-- Changes condition `n` of clause `k`. -/
  | editClauseCondition (s k n : Nat) (change : ConditionEdit)
  | removeCondition (s k n : Nat)
  /-- Copies condition `n` of clause `k` to the loose conditions. -/
  | takeCondition (s k n : Nat) (copying : Copying)
  | copyChain (cs : List Nat) (copying : Copying)
  /-- Copies clause `k` of the script `source` to the end of the trigger of `s`. -/
  | copyClause (s source k : Nat) (copying : Copying)
  | copyTrigger (s source : Nat) (copying : Copying)
  | copyScript (s : Nat) (copying : Copying)
  /-- Loads the scripts of a file in the place of those that are there. -/
  | load (bytes : List UInt8)

inductive EditError where
  | shape (error : ShapeError)
  | load (error : ChunkError)

structure Workspace where
  conditions : List Condition
  scripts : List Script
  registry : Registry

namespace Workspace

variable (w : Workspace)

def modifyCondition (c : Nat) (f : Condition → Condition) : Workspace :=
  { w with conditions := w.conditions.modify c f }

def modifyScript (s : Nat) (f : Script → Script) : Workspace :=
  { w with scripts := w.scripts.modify s f }

/-- The conditions at the given places; places without one are left out. -/
def pick (cs : List Nat) : List Condition := cs.filterMap (w.conditions[·]?)

def modifyClause (s k : Nat) (f : Clause → Clause) : Workspace :=
  w.modifyScript s (·.mapClauses (·.modify k f))

def clause? (s k : Nat) : Option Clause := do
  let script ← w.scripts[s]?
  script.trigger.clauses[k]?

def clauseCondition? (s k n : Nat) : Option Condition := do
  let clause ← w.clause? s k
  clause.conditions[n]?

/-- The trigger of a script, or one without clauses if there is no such script. -/
def triggerOf (s : Nat) : Trigger := ((w.scripts[s]?).map (·.trigger)).getD .empty

def setType (c : Nat) (type : Int32) : Except EditError Workspace :=
  match w.conditions[c]? with
  | none => .ok w
  | some old =>
    match old.setType w.registry type with
    | .error e => .error (.shape e)
    | .ok changed => .ok (w.modifyCondition c fun _ => changed)

def editClauseCondition (s k n : Nat) (change : ConditionEdit) : Except EditError Workspace :=
  match w.clauseCondition? s k n with
  | none => .ok w
  | some old =>
    match change.apply w.registry old with
    | .error e => .error (.shape e)
    | .ok changed =>
      .ok (w.modifyClause s k fun clause => ⟨clause.conditions.modify n fun _ => changed⟩)

def load (bytes : List UInt8) : Except EditError Workspace :=
  match loadScripts w.registry bytes with
  | .error e => .error (.load e)
  | .ok scripts => .ok { w with scripts }

/-- Saves all scripts and loads them again. -/
def reload : Except EditError Workspace := w.load (saveScripts w.registry w.scripts)

def apply : Edit → Except EditError Workspace
  | .addCondition draft => do
    let c ← (draft.build w.registry).mapError .shape
    return { w with conditions := w.conditions ++ [c] }
  | .setType c type => w.setType c type
  | .setParam c slot p => .ok (w.modifyCondition c (·.withParam slot p))
  | .editParam c slot change => .ok (w.modifyCondition c (·.modifyParam slot change.apply))
  | .setFlags c hasWarnings customData reserved =>
    .ok (w.modifyCondition c (·.setFlags hasWarnings customData reserved))
  | .duplicate c q =>
    .ok { w with conditions := w.conditions ++ (w.pick [c]).map (copyCondition q) }
  | .qualify c q => .ok (w.modifyCondition c (Condition.qualify q))
  | .addScript draft => do
    let s ← (draft.build w.registry).mapError .shape
    return { w with scripts := w.scripts ++ [s] }
  | .editScript s change => .ok (w.modifyScript s change.apply)
  | .pushClause s cs => .ok (w.modifyScript s (·.pushClause ⟨w.pick cs⟩))
  | .pushCondition s k c =>
    .ok (w.modifyClause s k fun old => ⟨old.conditions ++ w.pick [c]⟩)
  | .editClauseParam s k n slot change =>
    .ok (w.modifyClause s k fun old =>
      ⟨old.conditions.modify n (·.modifyParam slot change.apply)⟩)
  | .removeClause s k => .ok (w.modifyScript s (·.mapClauses (·.eraseIdx k)))
  | .setTrigger s source =>
    let trigger := match source with
      | none => Trigger.empty
      | some other => w.triggerOf other
    .ok (w.modifyScript s fun old => { old with trigger })
  | .duplicateScript s q =>
    .ok { w with scripts := w.scripts ++ (w.scripts[s]?.toList).map (copyScript q) }
  | .reload => w.reload
  | .setRegistry registry => .ok { w with registry }
  | .editClauseCondition s k n change => w.editClauseCondition s k n change
  | .removeCondition s k n =>
    .ok (w.modifyClause s k fun old => ⟨old.conditions.eraseIdx n⟩)
  | .takeCondition s k n copying =>
    .ok { w with
      conditions := w.conditions ++ ((w.clauseCondition? s k n).toList).map copying.condition }
  | .copyChain cs copying =>
    .ok { w with conditions := w.conditions ++ (w.pick cs).map copying.condition }
  | .copyClause s source k copying =>
    .ok (w.modifyScript s (·.mapClauses (· ++ ((w.clause? source k).toList).map copying.clause)))
  | .copyTrigger s source copying =>
    let trigger := copying.trigger (w.triggerOf source)
    .ok (w.modifyScript s fun old => { old with trigger })
  | .copyScript s copying =>
    .ok { w with scripts := w.scripts ++ (w.scripts[s]?.toList).map copying.script }
  | .load bytes => w.load bytes

end Workspace

end TriggerScript
