import TriggerScript.Tree.Condition

/-!
# Scripts

The trigger of a script is a disjunction of clauses, each a conjunction of conditions.
-/

namespace TriggerScript

/-- A conjunction. An empty one is vacuous. -/
structure Clause where
  conditions : List Condition
  deriving DecidableEq

namespace Clause

def isVacuous (c : Clause) : Bool := c.conditions.isEmpty

def duplicate (c : Clause) : Clause := ⟨c.conditions.map Condition.duplicate⟩

def duplicateQualified (q : Qualifier) (c : Clause) : Clause :=
  ⟨c.conditions.map (Condition.duplicateQualified q)⟩

def sameValue (a b : Clause) : Bool := a.conditions.isEqv b.conditions Condition.sameValue

end Clause

/-- A disjunction of clauses: the condition under which a script fires. -/
structure Trigger where
  clauses : List Clause
  deriving DecidableEq

namespace Trigger

def empty : Trigger := ⟨[]⟩

def conditionCount (t : Trigger) : Nat := (t.clauses.flatMap (·.conditions)).length

def duplicate (t : Trigger) : Trigger := ⟨t.clauses.map Clause.duplicate⟩

def duplicateQualified (q : Qualifier) (t : Trigger) : Trigger :=
  ⟨t.clauses.map (Clause.duplicateQualified q)⟩

def sameValue (a b : Trigger) : Bool := a.clauses.isEqv b.clauses Clause.sameValue

end Trigger

structure Script where
  name : String
  comment : String
  active : Bool
  oneShot : Bool
  subroutine : Bool
  trigger : Trigger
  deriving DecidableEq

namespace Script

/-- An active script that runs once and never fires. -/
def named (name : String) : Script := ⟨name, "", true, true, false, .empty⟩

def duplicate (s : Script) : Script := { s with trigger := s.trigger.duplicate }

/-- A copy for a concrete instance: the name and all parameters are qualified. -/
def duplicateQualified (q : Qualifier) (s : Script) : Script :=
  { s with name := q.scriptName s.name, trigger := s.trigger.duplicateQualified q }

def sameValue (a b : Script) : Bool :=
  a.name = b.name && a.comment = b.comment && a.active = b.active && a.oneShot = b.oneShot
    && a.subroutine = b.subroutine && a.trigger.sameValue b.trigger

/-! ## Editing -/

def mapClauses (s : Script) (f : List Clause → List Clause) : Script :=
  { s with trigger := ⟨f s.trigger.clauses⟩ }

def pushClause (s : Script) (c : Clause) : Script := s.mapClauses (· ++ [c])

end Script

end TriggerScript
