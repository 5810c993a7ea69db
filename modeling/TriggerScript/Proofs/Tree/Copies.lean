import Mathlib.Data.List.Forall2
import TriggerScript.Proofs.Tree.References

/-!
# Copies of trees

A tree is copied level by level, with a plain form and a qualified form at each level. Both are
changes of the tree in place: the plain copy clears the marks of every condition, the qualified copy
qualifies every parameter on top of that, before or after. Nothing is added, dropped or moved, and
of a parameter at most the text is changed.
-/

namespace TriggerScript

open List

variable {q : Qualifier} {f g : Condition → Condition}

/-! ## Changes in place -/

/-- Without the marks that a copy does not take over. -/
def Condition.cleared (c : Condition) : Condition :=
  { c with hasWarnings := false, customData := 0, reserved := 0 }

def Clause.mapConditions (f : Condition → Condition) (c : Clause) : Clause := ⟨c.conditions.map f⟩

def Trigger.mapConditions (f : Condition → Condition) (t : Trigger) : Trigger :=
  ⟨t.clauses.map (Clause.mapConditions f)⟩

def Script.mapConditions (f : Condition → Condition) (s : Script) : Script :=
  { s with trigger := s.trigger.mapConditions f }

/-- Puts the suffix to the name of a script and qualifies each of its parameters once. -/
def Script.qualify (q : Qualifier) (s : Script) : Script :=
  { s.mapConditions (Condition.qualify q) with name := q.scriptName s.name }

theorem Clause.mapConditions_inj {c : Clause} :
    c.mapConditions f = c.mapConditions g ↔
      ∀ condition ∈ c.conditions, f condition = g condition := by
  rw [mapConditions, mapConditions, mk.injEq, map_inj_left]

theorem Trigger.mapConditions_inj {t : Trigger} :
    t.mapConditions f = t.mapConditions g ↔
      ∀ clause ∈ t.clauses, ∀ c ∈ clause.conditions, f c = g c := by
  rw [mapConditions, mapConditions, mk.injEq, map_inj_left]
  exact forall₂_congr fun _ _ => Clause.mapConditions_inj

theorem Clause.mapConditions_id (c : Clause) : c.mapConditions id = c := by
  rw [mapConditions, map_id]

theorem Trigger.mapConditions_id (t : Trigger) : t.mapConditions id = t := by
  rw [mapConditions, map_congr_left fun c _ => c.mapConditions_id, map_id']

/-- The condition at a place of a clause. -/
def Trigger.condition? (t : Trigger) (i j : Nat) : Option Condition :=
  t.clauses[i]?.bind fun clause => clause.conditions[j]?

/-! ## Laws of copying -/

/-- A plain copy clears, and a second one changes nothing more. A qualified copy is a plain one that
is qualified in place, and the plain copy of what has been qualified in place. -/
structure CopyLaws {α : Type} (duplicate clear : α → α)
    (duplicateQualified qualify : Qualifier → α → α) : Prop where
  plain : ∀ a, duplicate a = clear a
  again : ∀ a, duplicate (duplicate a) = duplicate a
  qualifiedAfter : ∀ q a, duplicateQualified q a = qualify q (duplicate a)
  qualifiedBefore : ∀ q a, duplicateQualified q a = duplicate (qualify q a)

theorem Condition.copyLaws : CopyLaws duplicate cleared duplicateQualified qualify where
  plain _ := rfl
  again _ := rfl
  qualifiedAfter _ _ := rfl
  qualifiedBefore _ _ := rfl

/-- The laws of the nodes are those of chains of nodes. -/
theorem CopyLaws.chain {α : Type} {duplicate clear : α → α}
    {duplicateQualified qualify : Qualifier → α → α}
    (h : CopyLaws duplicate clear duplicateQualified qualify) :
    CopyLaws (map duplicate) (map clear) (fun q => map (duplicateQualified q))
      (fun q => map (qualify q)) where
  plain _ := map_congr_left fun a _ => h.plain a
  again as := by
    rw [map_map]
    exact map_congr_left fun a _ => h.again a
  qualifiedAfter q as := by
    rw [map_map]
    exact map_congr_left fun a _ => h.qualifiedAfter q a
  qualifiedBefore q as := by
    rw [map_map]
    exact map_congr_left fun a _ => h.qualifiedBefore q a

theorem Clause.copyLaws :
    CopyLaws duplicate (mapConditions Condition.cleared) duplicateQualified
      (fun q => mapConditions (Condition.qualify q)) where
  plain c := congrArg mk (Condition.copyLaws.chain.plain c.conditions)
  again c := congrArg mk (Condition.copyLaws.chain.again c.conditions)
  qualifiedAfter q c := congrArg mk (Condition.copyLaws.chain.qualifiedAfter q c.conditions)
  qualifiedBefore q c := congrArg mk (Condition.copyLaws.chain.qualifiedBefore q c.conditions)

theorem Trigger.copyLaws :
    CopyLaws duplicate (mapConditions Condition.cleared) duplicateQualified
      (fun q => mapConditions (Condition.qualify q)) where
  plain t := congrArg mk (Clause.copyLaws.chain.plain t.clauses)
  again t := congrArg mk (Clause.copyLaws.chain.again t.clauses)
  qualifiedAfter q t := congrArg mk (Clause.copyLaws.chain.qualifiedAfter q t.clauses)
  qualifiedBefore q t := congrArg mk (Clause.copyLaws.chain.qualifiedBefore q t.clauses)

theorem Script.copyLaws :
    CopyLaws duplicate (mapConditions Condition.cleared) duplicateQualified qualify where
  plain s := congrArg (fun t => { s with trigger := t }) (Trigger.copyLaws.plain s.trigger)
  again s := congrArg (fun t => { s with trigger := t }) (Trigger.copyLaws.again s.trigger)
  qualifiedAfter q s :=
    congrArg (fun t => { s with name := q.scriptName s.name, trigger := t })
      (Trigger.copyLaws.qualifiedAfter q s.trigger)
  qualifiedBefore q s :=
    congrArg (fun t => { s with name := q.scriptName s.name, trigger := t })
      (Trigger.copyLaws.qualifiedBefore q s.trigger)

/-! ## Copies that change nothing -/

theorem Condition.cleared_eq_self_iff {c : Condition} :
    c.cleared = c ↔ c.hasWarnings = false ∧ c.customData = 0 ∧ c.reserved = 0 := by
  cases c
  simp [cleared, eq_comm]

theorem Script.duplicate_eq_self_iff {s : Script} :
    s.duplicate = s ↔ ∀ clause ∈ s.trigger.clauses, ∀ c ∈ clause.conditions,
      c.hasWarnings = false ∧ c.customData = 0 ∧ c.reserved = 0 := by
  have htrigger : s.duplicate = s ↔ s.trigger.mapConditions Condition.cleared = s.trigger :=
    ⟨congrArg Script.trigger, congrArg fun t => { s with trigger := t }⟩
  have hid := Trigger.mapConditions_inj (t := s.trigger) (f := Condition.cleared) (g := id)
  rw [Trigger.mapConditions_id] at hid
  rw [htrigger, hid]
  exact forall₂_congr fun _ _ => forall₂_congr fun _ _ => Condition.cleared_eq_self_iff

/-! ## Counterparts -/

/-- At most the text differs, and that only where the kind tells it to be made concrete. -/
structure Parameter.Counterpart (p p' : Parameter) : Prop where
  kind : p'.kind = p.kind
  int : p'.int = p.int
  real : p'.real = p.real
  coord : p'.coord = p.coord
  text : p'.text ≠ p.text → p.kind ∈ [.side, .team, .script, .scriptSubroutine, .counter, .flag]

structure Condition.Counterpart (c c' : Condition) : Prop where
  type : c'.type = c.type
  params : Forall₂ Parameter.Counterpart c.params c'.params

def Clause.Counterpart (c c' : Clause) : Prop :=
  Forall₂ Condition.Counterpart c.conditions c'.conditions

/-- The same script but for its name, the marks of its conditions and texts of parameters. -/
structure Script.Counterpart (s s' : Script) : Prop where
  comment : s'.comment = s.comment
  active : s'.active = s.active
  oneShot : s'.oneShot = s.oneShot
  subroutine : s'.subroutine = s.subroutine
  clauses : Forall₂ Clause.Counterpart s.trigger.clauses s'.trigger.clauses

theorem Qualifier.mem_of_qualifyText_ne {kind : ParameterKind} {text : String}
    (h : q.qualifyText kind text ≠ text) :
    kind ∈ [.side, .team, .script, .scriptSubroutine, .counter, .flag] := by
  cases kind <;> simp [qualifyText] at h ⊢

theorem Parameter.counterpart_qualify (q : Qualifier) (p : Parameter) :
    p.Counterpart (p.qualify q) where
  kind := rfl
  int := rfl
  real := rfl
  coord := rfl
  text := Qualifier.mem_of_qualifyText_ne

theorem forall₂_map_of_forall {α : Type} {R : α → α → Prop} {f : α → α} (h : ∀ a, R a (f a))
    (as : List α) : Forall₂ R as (as.map f) :=
  forall₂_map_right_iff.2 (forall₂_same.2 fun a _ => h a)

theorem Condition.counterpart_duplicateQualified (q : Qualifier) (c : Condition) :
    c.Counterpart (c.duplicateQualified q) where
  type := rfl
  params := forall₂_map_of_forall (Parameter.counterpart_qualify q) c.params

theorem Clause.counterpart_duplicateQualified (q : Qualifier) (c : Clause) :
    c.Counterpart (c.duplicateQualified q) :=
  forall₂_map_of_forall (Condition.counterpart_duplicateQualified q) c.conditions

theorem Script.counterpart_duplicateQualified (q : Qualifier) (s : Script) :
    s.Counterpart (s.duplicateQualified q) where
  comment := rfl
  active := rfl
  oneShot := rfl
  subroutine := rfl
  clauses := forall₂_map_of_forall (Clause.counterpart_duplicateQualified q) s.trigger.clauses

/-! ## All levels -/

/-- Each node of a script is copied on its own, in its place, each parameter qualified once. -/
structure Script.CopiesNodes (q : Qualifier) (s : Script) : Prop where
  clause : ∀ i : Nat, s.duplicate.trigger.clauses[i]? = s.trigger.clauses[i]?.map Clause.duplicate
  clauseQualified : ∀ i : Nat, (s.duplicateQualified q).trigger.clauses[i]? =
    s.trigger.clauses[i]?.map (Clause.duplicateQualified q)
  condition : ∀ i j, s.duplicate.trigger.condition? i j =
    (s.trigger.condition? i j).map Condition.duplicate
  conditionQualified : ∀ i j, (s.duplicateQualified q).trigger.condition? i j =
    (s.trigger.condition? i j).map (Condition.duplicateQualified q)
  param : ∀ place : Place, place.param? [s.duplicateQualified q] =
    (place.param? [s]).map (Parameter.qualify q)

theorem Script.copiesNodes (q : Qualifier) (s : Script) : s.CopiesNodes q where
  clause _ := getElem?_map
  clauseQualified _ := getElem?_map
  condition i j := by
    simp only [Trigger.condition?, duplicate, Trigger.duplicate, Clause.duplicate, getElem?_map,
      Option.bind_map, Option.map_bind, Function.comp_def]
  conditionQualified i j := by
    simp only [Trigger.condition?, duplicateQualified, Trigger.duplicateQualified,
      Clause.duplicateQualified, getElem?_map, Option.bind_map, Option.map_bind, Function.comp_def]
  param place := place.param?_copies q [s]

/-- The laws of copying hold of conditions, chains of them, clauses, triggers and scripts. A plain
copy is the script itself exactly when no condition has a mark. A qualified copy is a counterpart of
the script, with the suffix at its name, and comes from it node by node. -/
theorem copies_keep_tree :
    CopyLaws Condition.duplicate Condition.cleared Condition.duplicateQualified Condition.qualify ∧
    CopyLaws (map Condition.duplicate) (map Condition.cleared)
      (fun q => map (Condition.duplicateQualified q)) (fun q => map (Condition.qualify q)) ∧
    CopyLaws Clause.duplicate (Clause.mapConditions Condition.cleared) Clause.duplicateQualified
      (fun q => Clause.mapConditions (Condition.qualify q)) ∧
    CopyLaws Trigger.duplicate (Trigger.mapConditions Condition.cleared) Trigger.duplicateQualified
      (fun q => Trigger.mapConditions (Condition.qualify q)) ∧
    CopyLaws Script.duplicate (Script.mapConditions Condition.cleared) Script.duplicateQualified
      Script.qualify ∧
    (∀ s : Script, s.duplicate = s ↔ ∀ clause ∈ s.trigger.clauses, ∀ c ∈ clause.conditions,
      c.hasWarnings = false ∧ c.customData = 0 ∧ c.reserved = 0) ∧
    ∀ (q : Qualifier) (s : Script), (s.duplicateQualified q).name = s.name ++ q.suffix ∧
      s.Counterpart (s.duplicateQualified q) ∧ s.CopiesNodes q :=
  ⟨Condition.copyLaws, Condition.copyLaws.chain, Clause.copyLaws, Trigger.copyLaws, Script.copyLaws,
    fun _ => Script.duplicate_eq_self_iff,
    fun q s => ⟨rfl, s.counterpart_duplicateQualified q, s.copiesNodes q⟩⟩

end TriggerScript
