import Mathlib.Data.List.Forall2
import TriggerScript.Proofs.ScriptFile.WellFormed
import TriggerScript.Workspace.Edit

/-!
# Ledgers

A ledger stands beside a workspace and records for each condition the registry that has given it its
parameters: the one in force when its type was last chosen or when it was read. It goes with the
conditions through all edits. A workspace is counted by a ledger if each condition has as many
parameters as its type has in the registry recorded for it.
-/

namespace TriggerScript

/-! ## Lists side by side -/

section Lists

open List

variable {α β : Type} {R : α → β → Prop} {as : List α} {bs : List β}

theorem forall₂_modify {f : α → α} {g : β → β} {i : Nat} (h : Forall₂ R as bs)
    (hfg : ∀ a b, bs[i]? = some b → R a b → R (f a) (g b)) :
    Forall₂ R (as.modify i f) (bs.modify i g) := by
  induction h generalizing i with
  | nil => simp
  | cons hab hrest ih =>
      cases i with
      | zero => exact .cons (hfg _ _ rfl hab) hrest
      | succ i => exact .cons hab (ih hfg)

theorem forall₂_modify_right {g : β → β} {i : Nat} (h : Forall₂ R as bs)
    (hg : ∀ a b, bs[i]? = some b → R a b → R a (g b)) : Forall₂ R as (bs.modify i g) := by
  have hmodify := forall₂_modify (f := id) h hg
  rwa [modify_id] at hmodify

theorem forall₂_eraseIdx (h : Forall₂ R as bs) (i : Nat) :
    Forall₂ R (as.eraseIdx i) (bs.eraseIdx i) := by
  induction h generalizing i with
  | nil => exact .nil
  | cons hab hrest ih =>
      cases i with
      | zero => exact hrest
      | succ i => exact .cons hab (ih i)

theorem rel_getElem? (h : Forall₂ R as bs) (i : Nat) : Option.Rel R as[i]? bs[i]? := by
  induction h generalizing i with
  | nil => exact .none
  | cons hab hrest ih =>
      cases i with
      | zero => exact .some hab
      | succ i => exact ih i

theorem rel_bind {γ δ : Type} {S : γ → δ → Prop} {a : Option α} {b : Option β}
    {f : α → Option γ} {g : β → Option δ} (h : Option.Rel R a b)
    (hfg : ∀ a b, R a b → Option.Rel S (f a) (g b)) : Option.Rel S (a.bind f) (b.bind g) := by
  cases h with
  | none => exact .none
  | some hab => exact hfg _ _ hab

theorem forall₂_toList {a : Option α} {b : Option β} (h : Option.Rel R a b) :
    Forall₂ R a.toList b.toList := by
  cases h with
  | none => exact .nil
  | some hab => exact .cons hab .nil

theorem forall₂_pick (h : Forall₂ R as bs) (places : List Nat) :
    Forall₂ R (places.filterMap (as[·]?)) (places.filterMap (bs[·]?)) := by
  induction places with
  | nil => exact .nil
  | cons i places ih =>
      have hi := rel_getElem? h i
      rw [filterMap_cons, filterMap_cons]
      generalize as[i]? = a, bs[i]? = b at hi
      cases hi with
      | none => exact ih
      | some hab => exact .cons hab ih

theorem forall₂_of_mapM {ε : Type} {f : α → Except ε β} (h : as.mapM f = .ok bs) :
    Forall₂ (fun a b => f a = .ok b) as bs := by
  induction as generalizing bs with
  | nil =>
      cases h
      exact .nil
  | cons a as ih =>
      rw [mapM_cons] at h
      obtain ⟨b, hb, h⟩ := except_bind_eq_ok_iff.1 h
      obtain ⟨bs', hbs, h⟩ := except_bind_eq_ok_iff.1 h
      cases h
      exact .cons hb (ih hbs)

theorem map_modify_of_eq {f : α → α} {g : α → β} {i : Nat}
    (h : ∀ a, as[i]? = some a → g (f a) = g a) : (as.modify i f).map g = as.map g := by
  induction as generalizing i with
  | nil => simp
  | cons a as ih =>
      cases i with
      | zero => exact congrArg (· :: as.map g) (h a rfl)
      | succ i => exact congrArg (g a :: ·) (ih h)

end Lists

/-! ## Origins -/

/-- The registry that has given a condition its parameters. A blank condition has none. -/
abbrev Origin := Option Registry

/-- The number of parameters of a type. -/
def Origin.count? : Origin → Int32 → Option Nat
  | none, _ => some 0
  | some registry, type => (registry.template? type).map (·.shape.length)

structure Condition.CountedBy (origin : Origin) (c : Condition) : Prop where
  count : origin.count? c.type = some c.params.length
  bounded : c.params.length ≤ 12

def Clause.CountedBy (origins : List Origin) (c : Clause) : Prop :=
  List.Forall₂ Condition.CountedBy origins c.conditions

def Trigger.CountedBy (origins : List (List Origin)) (t : Trigger) : Prop :=
  List.Forall₂ Clause.CountedBy origins t.clauses

def Script.CountedBy (origins : List (List Origin)) (s : Script) : Prop :=
  s.trigger.CountedBy origins

/-- The origins of the conditions of a workspace, in the same places. -/
structure Ledger where
  conditions : List Origin
  scripts : List (List (List Origin))

structure Ledger.Counts (l : Ledger) (w : Workspace) : Prop where
  conditions : List.Forall₂ Condition.CountedBy l.conditions w.conditions
  scripts : List.Forall₂ Script.CountedBy l.scripts w.scripts

/-! ## Keeping the ledger -/

def ConditionDraft.origin (registry : Registry) (d : ConditionDraft) : Origin :=
  d.type.map fun _ => registry

namespace Ledger

variable (l : Ledger)

def modifyCondition (c : Nat) (f : Origin → Origin) : Ledger :=
  { l with conditions := l.conditions.modify c f }

def modifyScript (s : Nat) (f : List (List Origin) → List (List Origin)) : Ledger :=
  { l with scripts := l.scripts.modify s f }

def modifyClause (s k : Nat) (f : List Origin → List Origin) : Ledger :=
  l.modifyScript s (·.modify k f)

def pick (cs : List Nat) : List Origin := cs.filterMap (l.conditions[·]?)

def clause? (s k : Nat) : Option (List Origin) := do
  let script ← l.scripts[s]?
  script[k]?

def clauseCondition? (s k n : Nat) : Option Origin := do
  let clause ← l.clause? s k
  clause[n]?

def triggerOf (s : Nat) : List (List Origin) := l.scripts[s]?.getD []

/-- The ledger after an edit with a registry in force, which has led to `w`. Choosing a type and
loading record the registry, copies have the origins of what is copied, and all other changes of
conditions keep theirs. -/
def after (registry : Registry) (w : Workspace) : Edit → Ledger
  | .addCondition draft => { l with conditions := l.conditions ++ [draft.origin registry] }
  | .setType c _ => l.modifyCondition c fun _ => registry
  | .duplicate c _ => { l with conditions := l.conditions ++ l.pick [c] }
  | .addScript draft =>
    { l with scripts := l.scripts ++ [draft.clauses.map (·.map (·.origin registry))] }
  | .pushClause s cs => l.modifyScript s (· ++ [l.pick cs])
  | .pushCondition s k c => l.modifyClause s k (· ++ l.pick [c])
  | .removeClause s k => l.modifyScript s (·.eraseIdx k)
  | .setTrigger s none => l.modifyScript s fun _ => []
  | .setTrigger s (some source) => l.modifyScript s fun _ => l.triggerOf source
  | .duplicateScript s _ => { l with scripts := l.scripts ++ l.scripts[s]?.toList }
  | .editClauseCondition s k n (.setType _) =>
    l.modifyClause s k (·.modify n fun _ => registry)
  | .removeCondition s k n => l.modifyClause s k (·.eraseIdx n)
  | .takeCondition s k n _ =>
    { l with conditions := l.conditions ++ (l.clauseCondition? s k n).toList }
  | .copyChain cs _ => { l with conditions := l.conditions ++ l.pick cs }
  | .copyClause s source k _ => l.modifyScript s (· ++ (l.clause? source k).toList)
  | .copyTrigger s source _ => l.modifyScript s fun _ => l.triggerOf source
  | .copyScript s _ => { l with scripts := l.scripts ++ l.scripts[s]?.toList }
  | .reload | .load _ =>
    { l with
      scripts := w.scripts.map fun s => s.trigger.clauses.map fun c =>
        c.conditions.map fun _ => some registry }
  | .setParam .. | .editParam .. | .setFlags .. | .qualify .. | .editScript .. | .setRegistry _
  | .editClauseParam .. | .editClauseCondition .. => l

end Ledger

/-! ## Conditions -/

namespace Condition

variable {registry : Registry} {origin : Origin} {c c' : Condition}

theorem CountedBy.of_eq (h : c.CountedBy origin) (htype : c'.type = c.type)
    (hparams : c'.params.length = c.params.length) : c'.CountedBy origin where
  count := by rw [htype, hparams, h.count]
  bounded := by rw [hparams]; exact h.bounded

theorem CountedBy.modifyParam (h : c.CountedBy origin) (slot : Nat) (f : Parameter → Parameter) :
    (c.modifyParam slot f).CountedBy origin :=
  h.of_eq rfl (List.length_modify f c.params slot)

theorem CountedBy.setFlags (h : c.CountedBy origin) (hasWarnings : Option Bool)
    (customData reserved : Option Int32) :
    (c.setFlags hasWarnings customData reserved).CountedBy origin :=
  h.of_eq rfl rfl

theorem CountedBy.qualify (h : c.CountedBy origin) (q : Qualifier) :
    (c.qualify q).CountedBy origin :=
  h.of_eq rfl (List.length_map _)

theorem CountedBy.copy (h : c.CountedBy origin) (q : Option Qualifier) :
    (Workspace.copyCondition q c).CountedBy origin := by
  have hduplicate : c.duplicate.CountedBy origin := h.of_eq rfl rfl
  cases q with
  | none => exact hduplicate
  | some q => exact hduplicate.qualify q

theorem CountedBy.copying (h : c.CountedBy origin) (copying : Copying) :
    (copying.condition c).CountedBy origin := by
  cases copying with
  | whole => exact h
  | anew q => exact h.copy q

theorem countedBy_blank : blank.CountedBy none where
  count := rfl
  bounded := Nat.zero_le _

/-- What choosing a type does: the parameters are those of the type, and the flags stay. -/
theorem setType_eq_ok {type : Int32} (h : c.setType registry type = .ok c') :
    ∃ t, registry.template? type = some t ∧ t.shape.length ≤ maxParameters ∧
      c' = { c with type, params := t.shape.map Parameter.ofKind } := by
  rw [setType, provision] at h
  split at h
  · cases h
  · rename_i t ht
    split at h
    · cases h
    · cases h
      exact ⟨t, ht, by omega, rfl⟩

theorem countedBy_of_setType {type : Int32} (h : c.setType registry type = .ok c') :
    c'.CountedBy (some registry) := by
  obtain ⟨t, ht, hshape, rfl⟩ := setType_eq_ok h
  constructor
  · simp [Origin.count?, ht]
  · rwa [List.length_map]

theorem WellFormed.countedBy (h : c.WellFormed registry) : c.CountedBy (some registry) := by
  obtain ⟨t, ht, hshape, hlength, -⟩ := h.typed
  constructor
  · rw [Origin.count?, ht, hlength]
    rfl
  · rw [hlength]
    exact hshape

/-- Parameters may be put into their slots one after another. -/
theorem CountedBy.placed (h : c.CountedBy origin) (placed : List (Option Parameter × Nat)) :
    (placed.foldl (fun c (p, slot) =>
      match p with
      | some p => c.withParam slot p
      | none => c) c).CountedBy origin := by
  induction placed generalizing c with
  | nil => exact h
  | cons first placed ih =>
      obtain ⟨_ | p, slot⟩ := first
      · exact ih h
      · exact ih (h.modifyParam slot fun _ => p)

end Condition

theorem ConditionDraft.countedBy_of_build {registry : Registry} {d : ConditionDraft} {c : Condition}
    (h : d.build registry = .ok c) : c.CountedBy (d.origin registry) := by
  unfold build at h
  unfold origin
  cases htype : d.type with
  | none =>
      rw [htype] at h
      cases h
      exact (Condition.countedBy_blank.placed d.params.zipIdx).of_eq rfl rfl
  | some type =>
      rw [htype] at h
      obtain ⟨base, hbase, h⟩ := except_bind_eq_ok_iff.1 h
      cases h
      have hcounted : base.CountedBy (some registry) := Condition.countedBy_of_setType hbase
      exact (hcounted.placed d.params.zipIdx).of_eq rfl rfl

/-! ## Clauses, triggers and scripts -/

section Copies

variable {registry : Registry} {origins : List Origin} {clauses : List (List Origin)}
variable {c : Clause} {t : Trigger} {s : Script}

theorem Copying.conditions_clause (copying : Copying) (c : Clause) :
    (copying.clause c).conditions = c.conditions.map copying.condition := by
  rcases copying with _ | _ | q
  · exact (List.map_id _).symm
  · rfl
  · rfl

theorem Copying.clauses_trigger (copying : Copying) (t : Trigger) :
    (copying.trigger t).clauses = t.clauses.map copying.clause := by
  rcases copying with _ | _ | q
  · exact (List.map_id _).symm
  · rfl
  · rfl

theorem Copying.trigger_script (copying : Copying) (s : Script) :
    (copying.script s).trigger = copying.trigger s.trigger := by
  rcases copying with _ | _ | q <;> rfl

theorem Clause.CountedBy.copying (h : c.CountedBy origins) (copying : Copying) :
    (copying.clause c).CountedBy origins := by
  rw [Clause.CountedBy, copying.conditions_clause, List.forall₂_map_right_iff]
  exact h.imp fun _ _ hc => hc.copying copying

theorem Trigger.CountedBy.copying (h : t.CountedBy clauses) (copying : Copying) :
    (copying.trigger t).CountedBy clauses := by
  rw [Trigger.CountedBy, copying.clauses_trigger, List.forall₂_map_right_iff]
  exact h.imp fun _ _ hc => hc.copying copying

theorem Script.CountedBy.copying (h : s.CountedBy clauses) (copying : Copying) :
    (copying.script s).CountedBy clauses := by
  rw [Script.CountedBy, copying.trigger_script]
  exact Trigger.CountedBy.copying h copying

end Copies

theorem ScriptDraft.countedBy_of_build {registry : Registry} {d : ScriptDraft} {s : Script}
    (h : d.build registry = .ok s) :
    s.CountedBy (d.clauses.map (·.map (·.origin registry))) := by
  obtain ⟨clauses, hclauses, h⟩ := except_bind_eq_ok_iff.1 h
  cases h
  rw [Script.CountedBy, Trigger.CountedBy, List.forall₂_map_left_iff]
  refine (forall₂_of_mapM hclauses).imp fun drafts clause hclause => ?_
  obtain ⟨conditions, hconditions, rfl⟩ := except_map_eq_ok_iff.1 hclause
  rw [Clause.CountedBy, List.forall₂_map_left_iff]
  exact (forall₂_of_mapM hconditions).imp fun draft c hc => draft.countedBy_of_build hc

theorem Script.WellFormed.countedBy {registry : Registry} {s : Script} (h : s.WellFormed registry) :
    s.CountedBy (s.trigger.clauses.map fun c => c.conditions.map fun _ => some registry) := by
  rw [Script.CountedBy, Trigger.CountedBy, List.forall₂_map_left_iff, List.forall₂_same]
  intro clause hclause
  rw [Clause.CountedBy, List.forall₂_map_left_iff, List.forall₂_same]
  exact fun c hc => (h.conditions clause hclause c hc).countedBy

/-! ## Workspaces -/

namespace Workspace

variable {w : Workspace} {s k n : Nat} {script : Script} {clause : Clause} {c : Condition}

theorem clause?_eq_some (hs : w.scripts[s]? = some script)
    (hk : script.trigger.clauses[k]? = some clause) : w.clause? s k = some clause :=
  Option.bind_eq_some_iff.2 ⟨script, hs, hk⟩

theorem clauseCondition?_eq_some (hk : w.clause? s k = some clause)
    (hn : clause.conditions[n]? = some c) : w.clauseCondition? s k n = some c :=
  Option.bind_eq_some_iff.2 ⟨clause, hk, hn⟩

end Workspace

namespace Ledger.Counts

variable {l : Ledger} {w : Workspace}

theorem pick (h : l.Counts w) (cs : List Nat) :
    List.Forall₂ Condition.CountedBy (l.pick cs) (w.pick cs) :=
  forall₂_pick h.conditions cs

theorem clause? (h : l.Counts w) (s k : Nat) :
    Option.Rel Clause.CountedBy (l.clause? s k) (w.clause? s k) :=
  rel_bind (rel_getElem? h.scripts s) fun _ _ hscript => rel_getElem? hscript k

theorem clauseCondition? (h : l.Counts w) (s k n : Nat) :
    Option.Rel Condition.CountedBy (l.clauseCondition? s k n) (w.clauseCondition? s k n) :=
  rel_bind (h.clause? s k) fun _ _ hclause => rel_getElem? hclause n

theorem triggerOf (h : l.Counts w) (s : Nat) : (w.triggerOf s).CountedBy (l.triggerOf s) := by
  have hs := rel_getElem? h.scripts s
  unfold Ledger.triggerOf Workspace.triggerOf
  generalize l.scripts[s]? = origins, w.scripts[s]? = script at hs
  cases hs with
  | none => exact .nil
  | some hscript => exact hscript

theorem addConditions (h : l.Counts w) {origins : List Origin} {cs : List Condition}
    (hcs : List.Forall₂ Condition.CountedBy origins cs) :
    { l with conditions := l.conditions ++ origins }.Counts
      { w with conditions := w.conditions ++ cs } :=
  ⟨List.rel_append h.conditions hcs, h.scripts⟩

theorem addScripts (h : l.Counts w) {origins : List (List (List Origin))} {ss : List Script}
    (hss : List.Forall₂ Script.CountedBy origins ss) :
    { l with scripts := l.scripts ++ origins }.Counts { w with scripts := w.scripts ++ ss } :=
  ⟨h.conditions, List.rel_append h.scripts hss⟩

theorem modifyCondition (h : l.Counts w) {c : Nat} {f : Origin → Origin}
    {g : Condition → Condition} (hfg : ∀ origin old, w.conditions[c]? = some old →
      old.CountedBy origin → (g old).CountedBy (f origin)) :
    (l.modifyCondition c f).Counts (w.modifyCondition c g) :=
  ⟨forall₂_modify h.conditions hfg, h.scripts⟩

theorem modifyScript (h : l.Counts w) {s : Nat} {f : List (List Origin) → List (List Origin)}
    {g : Script → Script} (hfg : ∀ origins old, w.scripts[s]? = some old →
      old.CountedBy origins → (g old).CountedBy (f origins)) :
    (l.modifyScript s f).Counts (w.modifyScript s g) :=
  ⟨h.conditions, forall₂_modify h.scripts hfg⟩

theorem modifyClause (h : l.Counts w) {s k : Nat} {f : List Origin → List Origin}
    {g : Clause → Clause} (hfg : ∀ origins old, w.clause? s k = some old →
      old.CountedBy origins → (g old).CountedBy (f origins)) :
    (l.modifyClause s k f).Counts (w.modifyClause s k g) :=
  h.modifyScript fun _ _ hscript hcounted => forall₂_modify hcounted fun origins old hold =>
    hfg origins old (Workspace.clause?_eq_some hscript hold)

theorem modifyClauseCondition (h : l.Counts w) {s k n : Nat} {f : Origin → Origin}
    {g : Condition → Condition} (hfg : ∀ origin old, w.clauseCondition? s k n = some old →
      old.CountedBy origin → (g old).CountedBy (f origin)) :
    (l.modifyClause s k (·.modify n f)).Counts
      (w.modifyClause s k fun clause => ⟨clause.conditions.modify n g⟩) :=
  h.modifyClause fun _ _ hclause hcounted => forall₂_modify hcounted fun origin old hold =>
    hfg origin old (Workspace.clauseCondition?_eq_some hclause hold)

/-! A change that keeps the numbers of parameters keeps the ledger. -/

theorem changeCondition (h : l.Counts w) {c : Nat} {g : Condition → Condition}
    (hg : ∀ origin old, w.conditions[c]? = some old → old.CountedBy origin →
      (g old).CountedBy origin) : l.Counts (w.modifyCondition c g) :=
  ⟨forall₂_modify_right h.conditions hg, h.scripts⟩

theorem changeScript (h : l.Counts w) {s : Nat} {g : Script → Script}
    (hg : ∀ old, (g old).trigger = old.trigger) : l.Counts (w.modifyScript s g) := by
  refine ⟨h.conditions, forall₂_modify_right h.scripts fun origins old _ hcounted => ?_⟩
  rw [Script.CountedBy, hg]
  exact hcounted

theorem changeClauseCondition (h : l.Counts w) {s k n : Nat} {g : Condition → Condition}
    (hg : ∀ origin old, w.clauseCondition? s k n = some old → old.CountedBy origin →
      (g old).CountedBy origin) :
    l.Counts (w.modifyClause s k fun clause => ⟨clause.conditions.modify n g⟩) := by
  refine ⟨h.conditions, forall₂_modify_right h.scripts fun clauses script hscript hs => ?_⟩
  refine forall₂_modify_right hs fun origins clause hclause hk => ?_
  refine forall₂_modify_right hk fun origin old hold => hg origin old ?_
  exact Workspace.clauseCondition?_eq_some (Workspace.clause?_eq_some hscript hclause) hold

end Ledger.Counts

end TriggerScript
