import TriggerScript.Proofs.Workspace.Ledger

/-!
# Parameter counts

However a workspace is edited, its ledger counts it. The registry that is in force later on, the
kinds of the parameters and the places of a condition and of its copies do not matter for the number
of its parameters.
-/

namespace TriggerScript

/-! ## Recorded edits -/

/-- A workspace and its ledger. -/
structure Recorded where
  workspace : Workspace
  ledger : Ledger

namespace Recorded

/-- An edit, which is without any effect if it is refused. -/
def next (r : Recorded) (edit : Edit) : Recorded :=
  match r.workspace.apply edit with
  | .ok w => ⟨w, r.ledger.after r.workspace.registry w edit⟩
  | .error _ => r

/-- A workspace that was empty at first, after some edits. -/
def run (registry : Registry) (edits : List Edit) : Recorded :=
  edits.foldl next ⟨⟨[], [], registry⟩, ⟨[], []⟩⟩

end Recorded

/-! ## Choosing types and loading -/

namespace Workspace

variable {w w' : Workspace}

/-- A type is chosen for the condition in its place, if there is one. -/
theorem setType_eq_ok {c : Nat} {type : Int32} (h : w.setType c type = .ok w') :
    ∃ f, w' = w.modifyCondition c f ∧
      ∀ old, w.conditions[c]? = some old → old.setType w.registry type = .ok (f old) := by
  unfold setType at h
  cases hc : w.conditions[c]? with
  | none =>
      rw [hc] at h
      cases h
      refine ⟨id, ?_, nofun⟩
      rw [modifyCondition, List.modify_id]
  | some old =>
      simp only [hc] at h
      split at h
      · cases h
      · rename_i changed hchanged
        cases h
        refine ⟨fun _ => changed, rfl, fun old' hold => ?_⟩
        cases hold
        exact hchanged

theorem modifyClauseCondition_id (s k n : Nat) :
    w.modifyClause s k (fun clause => ⟨clause.conditions.modify n id⟩) = w := by
  have hn : (fun clause : Clause => (⟨clause.conditions.modify n id⟩ : Clause)) = id := by
    funext clause
    rw [List.modify_id, id]
  have hk : (fun script : Script => script.mapClauses fun clauses => clauses.modify k id) = id := by
    funext script
    rw [Script.mapClauses, List.modify_id, id]
  rw [modifyClause, hn, hk, modifyScript, List.modify_id]

theorem editClauseCondition_eq_ok {s k n : Nat} {change : ConditionEdit}
    (h : w.editClauseCondition s k n change = .ok w') :
    ∃ f, w' = w.modifyClause s k (fun clause => ⟨clause.conditions.modify n f⟩) ∧
      ∀ old, w.clauseCondition? s k n = some old →
        change.apply w.registry old = .ok (f old) := by
  unfold editClauseCondition at h
  cases hc : w.clauseCondition? s k n with
  | none =>
      rw [hc] at h
      cases h
      exact ⟨id, (modifyClauseCondition_id s k n).symm, nofun⟩
  | some old =>
      simp only [hc] at h
      split at h
      · cases h
      · rename_i changed hchanged
        cases h
        refine ⟨fun _ => changed, rfl, fun old' hold => ?_⟩
        cases hold
        exact hchanged

theorem load_eq_ok {bytes : List UInt8} (h : w.load bytes = .ok w') :
    ∃ scripts, loadScripts w.registry bytes = .ok scripts ∧ w' = { w with scripts } := by
  unfold load at h
  split at h
  · cases h
  · rename_i scripts hscripts
    cases h
    exact ⟨scripts, hscripts, rfl⟩

end Workspace

/-- A change of a condition other than choosing its type. -/
theorem Condition.CountedBy.change {registry : Registry} {origin : Origin} {c c' : Condition}
    {change : ConditionEdit} (h : c.CountedBy origin) (hchange : ∀ type, change ≠ .setType type)
    (hc : change.apply registry c = .ok c') : c'.CountedBy origin := by
  cases change with
  | setType type => exact (hchange type rfl).elim
  | setParam slot p =>
      cases hc
      exact h.modifyParam slot fun _ => p
  | editParam slot change =>
      cases hc
      exact h.modifyParam slot change.apply
  | setFlags hasWarnings customData reserved =>
      cases hc
      exact h.setFlags hasWarnings customData reserved
  | qualify q =>
      cases hc
      exact h.qualify q

/-! ## Steps and runs -/

namespace Ledger.Counts

variable {l : Ledger} {w w' : Workspace}

theorem setType (h : l.Counts w) {c : Nat} {type : Int32} (hw : w.setType c type = .ok w') :
    (l.modifyCondition c fun _ => w.registry).Counts w' := by
  obtain ⟨f, rfl, hf⟩ := Workspace.setType_eq_ok hw
  exact h.modifyCondition fun _ old hold _ => Condition.countedBy_of_setType (hf old hold)

theorem setClauseType (h : l.Counts w) {s k n : Nat} {type : Int32}
    (hw : w.editClauseCondition s k n (.setType type) = .ok w') :
    (l.modifyClause s k (·.modify n fun _ => w.registry)).Counts w' := by
  obtain ⟨f, rfl, hf⟩ := Workspace.editClauseCondition_eq_ok hw
  exact h.modifyClauseCondition fun _ old hold _ => Condition.countedBy_of_setType (hf old hold)

theorem editClauseCondition (h : l.Counts w) {s k n : Nat} {change : ConditionEdit}
    (hw : w.editClauseCondition s k n change = .ok w')
    (hchange : ∀ type, change ≠ .setType type) : l.Counts w' := by
  obtain ⟨f, rfl, hf⟩ := Workspace.editClauseCondition_eq_ok hw
  exact h.changeClauseCondition fun _ old hold hcounted => hcounted.change hchange (hf old hold)

theorem load (h : l.Counts w) {bytes : List UInt8} (hw : w.load bytes = .ok w') :
    (l.after w.registry w' (.load bytes)).Counts w' := by
  obtain ⟨scripts, hload, rfl⟩ := Workspace.load_eq_ok hw
  refine ⟨h.conditions, List.forall₂_map_left_iff.2 (List.forall₂_same.2 fun s hs => ?_)⟩
  exact (wellFormed_of_loadScripts hload s hs).countedBy

/-- An edit that is not refused leaves a workspace that is counted by the ledger after it. -/
theorem after (h : l.Counts w) {edit : Edit} (hw : w.apply edit = .ok w') :
    (l.after w.registry w' edit).Counts w' := by
  cases edit with
  | addCondition draft =>
      obtain ⟨c, hc, hw⟩ := except_bind_eq_ok_iff.1 hw
      cases hw
      exact h.addConditions (.cons (draft.countedBy_of_build (mapError_eq_ok_iff.1 hc)) .nil)
  | setType c type => exact h.setType hw
  | setParam c slot p =>
      cases hw
      exact h.changeCondition fun _ _ _ hc => hc.modifyParam slot fun _ => p
  | editParam c slot change =>
      cases hw
      exact h.changeCondition fun _ _ _ hc => hc.modifyParam slot change.apply
  | setFlags c hasWarnings customData reserved =>
      cases hw
      exact h.changeCondition fun _ _ _ hc => hc.setFlags hasWarnings customData reserved
  | duplicate c q =>
      cases hw
      exact h.addConditions <| List.forall₂_map_right_iff.2 <|
        (h.pick [c]).imp fun _ _ hc => hc.copy q
  | qualify c q =>
      cases hw
      exact h.changeCondition fun _ _ _ hc => hc.qualify q
  | addScript draft =>
      obtain ⟨s, hs, hw⟩ := except_bind_eq_ok_iff.1 hw
      cases hw
      exact h.addScripts (.cons (draft.countedBy_of_build (mapError_eq_ok_iff.1 hs)) .nil)
  | editScript s change =>
      cases hw
      exact h.changeScript fun _ => rfl
  | pushClause s cs =>
      cases hw
      exact h.modifyScript fun _ _ _ hs => List.rel_append hs (.cons (h.pick cs) .nil)
  | pushCondition s k c =>
      cases hw
      exact h.modifyClause fun _ _ _ hk => List.rel_append hk (h.pick [c])
  | editClauseParam s k n slot change =>
      cases hw
      exact h.changeClauseCondition fun _ _ _ hc => hc.modifyParam slot change.apply
  | removeClause s k =>
      cases hw
      exact h.modifyScript fun _ _ _ hs => forall₂_eraseIdx hs k
  | setTrigger s source =>
      cases hw
      cases source with
      | none => exact h.modifyScript fun _ _ _ _ => .nil
      | some source => exact h.modifyScript fun _ _ _ _ => h.triggerOf source
  | duplicateScript s q =>
      cases hw
      exact h.addScripts <| List.forall₂_map_right_iff.2 <|
        (forall₂_toList (rel_getElem? h.scripts s)).imp fun _ _ hs => hs.copying (.anew q)
  | reload => exact h.load hw
  | setRegistry registry =>
      cases hw
      exact ⟨h.conditions, h.scripts⟩
  | editClauseCondition s k n change =>
      have hw : w.editClauseCondition s k n change = .ok w' := hw
      cases change with
      | setType type => exact h.setClauseType hw
      | _ => exact h.editClauseCondition hw fun _ heq => nomatch heq
  | removeCondition s k n =>
      cases hw
      exact h.modifyClause fun _ _ _ hk => forall₂_eraseIdx hk n
  | takeCondition s k n copying =>
      cases hw
      exact h.addConditions <| List.forall₂_map_right_iff.2 <|
        (forall₂_toList (h.clauseCondition? s k n)).imp fun _ _ hc => hc.copying copying
  | copyChain cs copying =>
      cases hw
      exact h.addConditions <| List.forall₂_map_right_iff.2 <|
        (h.pick cs).imp fun _ _ hc => hc.copying copying
  | copyClause s source k copying =>
      cases hw
      exact h.modifyScript fun _ _ _ hs => List.rel_append hs <| List.forall₂_map_right_iff.2 <|
        (forall₂_toList (h.clause? source k)).imp fun _ _ hk => hk.copying copying
  | copyTrigger s source copying =>
      cases hw
      exact h.modifyScript fun _ _ _ _ => (h.triggerOf source).copying copying
  | copyScript s copying =>
      cases hw
      exact h.addScripts <| List.forall₂_map_right_iff.2 <|
        (forall₂_toList (rel_getElem? h.scripts s)).imp fun _ _ hs => hs.copying copying
  | load bytes => exact h.load hw

end Ledger.Counts

namespace Recorded

theorem next_of_ok {r : Recorded} {edit : Edit} {w : Workspace}
    (h : r.workspace.apply edit = .ok w) :
    r.next edit = ⟨w, r.ledger.after r.workspace.registry w edit⟩ := by
  rw [next, h]

theorem next_of_error {r : Recorded} {edit : Edit} {e : EditError}
    (h : r.workspace.apply edit = .error e) : r.next edit = r := by
  rw [next, h]

theorem counts_next {r : Recorded} (h : r.ledger.Counts r.workspace) (edit : Edit) :
    (r.next edit).ledger.Counts (r.next edit).workspace := by
  cases hw : r.workspace.apply edit with
  | error e => rwa [next_of_error hw]
  | ok w =>
      rw [next_of_ok hw]
      exact h.after hw

theorem counts_foldl {r : Recorded} (h : r.ledger.Counts r.workspace) (edits : List Edit) :
    (edits.foldl next r).ledger.Counts (edits.foldl next r).workspace := by
  induction edits generalizing r with
  | nil => exact h
  | cons edit edits ih => exact ih (counts_next h edit)

end Recorded

/-! ## Flags -/

/-- What a condition holds beside its type and its parameters. -/
def Condition.flags (c : Condition) : Bool × Int32 × Int32 :=
  (c.hasWarnings, c.customData, c.reserved)

/-- The flags of the loose conditions, and those of the conditions in the scripts. -/
def Workspace.flags (w : Workspace) :
    List (Bool × Int32 × Int32) × List (List (List (Bool × Int32 × Int32))) :=
  (w.conditions.map Condition.flags,
    w.scripts.map fun s => s.trigger.clauses.map fun c => c.conditions.map Condition.flags)

/-- The edit chooses the type of a condition. -/
def Edit.choosesType : Edit → Bool
  | .setType .. => true
  | .editClauseCondition _ _ _ (.setType _) => true
  | _ => false

theorem Condition.flags_of_setType {registry : Registry} {type : Int32} {c c' : Condition}
    (h : c.setType registry type = .ok c') : c'.flags = c.flags := by
  obtain ⟨t, -, -, rfl⟩ := setType_eq_ok h
  rfl

namespace Workspace

variable {w w' : Workspace}

theorem flags_modifyCondition {c : Nat} {f : Condition → Condition}
    (h : ∀ old, w.conditions[c]? = some old → (f old).flags = old.flags) :
    (w.modifyCondition c f).flags = w.flags := by
  rw [flags, modifyCondition, map_modify_of_eq h, flags]

theorem flags_modifyClauseCondition {s k n : Nat} {f : Condition → Condition}
    (h : ∀ old, w.clauseCondition? s k n = some old → (f old).flags = old.flags) :
    (w.modifyClause s k fun clause => ⟨clause.conditions.modify n f⟩).flags = w.flags := by
  refine congrArg (w.conditions.map Condition.flags, ·) (map_modify_of_eq fun script hscript => ?_)
  refine map_modify_of_eq fun clause hclause => map_modify_of_eq fun old hold => h old ?_
  exact clauseCondition?_eq_some (clause?_eq_some hscript hclause) hold

theorem flags_of_choosesType {edit : Edit} (hedit : edit.choosesType = true)
    (h : w.apply edit = .ok w') : w'.flags = w.flags := by
  unfold Edit.choosesType at hedit
  split at hedit
  · obtain ⟨f, rfl, hf⟩ := setType_eq_ok h
    exact flags_modifyCondition fun old hold => Condition.flags_of_setType (hf old hold)
  · obtain ⟨f, rfl, hf⟩ := editClauseCondition_eq_ok h
    exact flags_modifyClauseCondition fun old hold => Condition.flags_of_setType (hf old hold)
  · cases hedit

end Workspace

/-- Whatever is edited, each condition has at most twelve parameters, and as many as its type has in
the registry with which its type was chosen or it was read, or none if it is blank. An edit that is
refused changes nothing, and choosing a type keeps the flags. -/
theorem params_counted (registry : Registry) (edits : List Edit) :
    (Recorded.run registry edits).ledger.Counts (Recorded.run registry edits).workspace ∧
      (∀ edit e, (Recorded.run registry edits).workspace.apply edit = .error e →
        (Recorded.run registry edits).next edit = Recorded.run registry edits) ∧
      ∀ edit w, edit.choosesType = true →
        (Recorded.run registry edits).workspace.apply edit = .ok w →
          w.flags = (Recorded.run registry edits).workspace.flags :=
  ⟨Recorded.counts_foldl ⟨.nil, .nil⟩ edits, fun _ _ => Recorded.next_of_error,
    fun _ _ => Workspace.flags_of_choosesType⟩

namespace Replaced

/-- A type that loses a slot from `older` to `newer`. -/
def older : Registry := Registry.ofList [⟨1, "A", [.int, .team]⟩]

def newer : Registry := Registry.ofList [⟨1, "A", [.team]⟩]

/-- The copy in the script is made before the registry is replaced and the type chosen again. -/
def edits : List Edit :=
  [.addCondition ⟨some 1, [some (.ofInt .real 5)], true, 3, 4⟩,
    .addScript ⟨"S", "", true, true, false, []⟩, .pushClause 0 [0], .setRegistry newer,
    .setType 0 1]

def workspace : Workspace where
  conditions := [⟨1, [.ofKind .team], true, 3, 4⟩]
  scripts := [⟨"S", "", true, true, false,
    ⟨[⟨[⟨1, [.ofInt .real 5, .ofKind .team], true, 3, 4⟩]⟩]⟩⟩]
  registry := newer

def ledger : Ledger where
  conditions := [some newer]
  scripts := [[[some older]]]

theorem counted : Recorded.run older edits = ⟨workspace, ledger⟩ ∧ ledger.Counts workspace ∧
    Recorded.next ⟨workspace, ledger⟩ (.setType 0 9) = ⟨workspace, ledger⟩ := by
  have hrun : Recorded.run older edits = ⟨workspace, ledger⟩ := rfl
  obtain ⟨hcounts, hrefused, -⟩ := params_counted older edits
  rw [hrun] at hcounts hrefused
  exact ⟨hrun, hcounts, hrefused (.setType 0 9) (.shape (.unknownType 9)) rfl⟩

end Replaced

end TriggerScript
