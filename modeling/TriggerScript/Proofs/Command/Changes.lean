import TriggerScript.Proofs.Command.Qualify

/-!
# What a run changes

Of all plans only that of a qualification into a file asks for a write, and only once its values
have been accepted and its input has been loaded. What can go wrong has gone wrong by then, but for
the write, which then changes nothing.
-/

namespace TriggerScript

variable {s : Surroundings} {mode : OutputMode} {asked : Option String} {file : String}
variable {q : Qualifier} {outcome : Except Problem Plan}

/-! ## Accepted values -/

/-- The values fit into a file, say what to do, and come with the player that is asked for. -/
structure Qualifier.Accepted (q : Qualifier) : Prop where
  suffix : StoredText.fits q.suffix = true
  templatePlayer : StoredText.fits q.templatePlayer = true
  player : StoredText.fits q.player = true
  something : q.suffix ≠ "" ∨ q.templatePlayer ≠ ""
  paired : q.templatePlayer ≠ "" → q.player ≠ ""

theorem Qualifier.accepted_of_check (h : q.check = .ok ()) : q.Accepted := by
  simp only [check, ite_error_eq_ok_iff, Bool.and_eq_true, Bool.not_eq_true', Bool.not_eq_false,
    String.isEmpty_iff, String.isEmpty_eq_false_iff] at h
  obtain ⟨hsomething, hpaired, hsuffix, htemplate, hplayer, -⟩ := h
  exact ⟨hsuffix, htemplate, hplayer, Decidable.not_and_iff_not_or_not.1 hsomething,
    fun hne hnone => hpaired ⟨hne, hnone⟩⟩

/-! ## Plans that write nothing -/

namespace Plan

/-- What is planned, if anything, ends at once. -/
def Finishes (outcome : Except Problem Plan) : Prop :=
  ∀ plan, outcome = .ok plan → ∃ reply, plan = .finish reply

theorem finishes_finish (reply : Reply) : Finishes (.ok (.finish reply)) := by
  rintro _ ⟨⟩
  exact ⟨reply, rfl⟩

theorem finishes_error (problem : Problem) : Finishes (.error problem) := nofun

theorem finishes_bind {α : Type} {x : Except Problem α} {f : α → Except Problem Plan}
    (h : ∀ a, Finishes (f a)) : Finishes (x >>= f) := by
  intro plan hplan
  obtain ⟨a, -, hplan⟩ := except_bind_eq_ok_iff.1 hplan
  exact h a plan hplan

theorem finishes_dump : Finishes (dump s mode asked file) :=
  finishes_bind fun _ => finishes_bind fun _ => finishes_finish _

theorem finishes_types (query : Option String) : Finishes (types s mode asked query) := by
  refine finishes_bind fun table => ?_
  cases query with
  | none => exact finishes_finish _
  | some query =>
      simp only
      cases table.find? query with
      | some t => exact finishes_finish _
      | none => exact finishes_error _

theorem finishes_config (action : ConfigAction) : Finishes (config s mode asked action) := by
  cases action with
  | display => exact finishes_bind fun _ => finishes_finish _
  | sample => exact finishes_finish _
  | path =>
      simp only [config]
      cases s.configFile? asked with
      | some path => exact finishes_finish _
      | none => exact finishes_finish _
  | verify =>
      simp only [config]
      cases s.configFile? asked with
      | some path => exact finishes_bind fun _ => finishes_finish _
      | none => exact finishes_finish _

theorem finishes_qualify : Finishes (qualify s mode asked file q none) :=
  finishes_bind fun _ => finishes_bind fun _ => finishes_bind fun _ => finishes_finish _

end Plan

/-! ## What is planned -/

/-- How an invocation can end: at once, where no file was to be written, with a problem, or with a
request to write what was qualified. -/
inductive Invocation.Planned (i : Invocation) (s : Surroundings) : Plan → Prop
  | ended (reply : Reply) : (∀ file q path, i.command ≠ .qualify file q (some path)) →
      Planned i s (.finish reply)
  | refused (problem : Problem) : Planned i s (.finish (.problem (i.mode s.terminal) problem))
  | writes {file path : String} {q : Qualifier} {table : TemplateTable} {scripts : List Script} :
      i.command = .qualify file q (some path) → q.Accepted →
      s.loadTable i.configPath = .ok table → s.loadFile table.registry file = .ok scripts →
      Planned i s
        (.write path (saveScripts table.registry (scripts.map (Script.duplicateQualified q)))
          (Plan.qualifyReply (i.mode s.terminal) file q path table.registry.typeName?
            (scripts.map (Script.duplicateQualified q)))
          (fun failure => .failed s!"Failed to write {path}" (some failure.message)))

theorem Invocation.planned_of_finishes (i : Invocation)
    (hcommand : ∀ file q path, i.command ≠ .qualify file q (some path)) :
    Plan.Finishes outcome → i.Planned s (match outcome with
      | .ok plan => plan
      | .error problem => .finish (.problem (i.mode s.terminal) problem)) := by
  intro h
  cases outcome with
  | error problem => exact .refused problem
  | ok plan =>
      obtain ⟨reply, rfl⟩ := h plan rfl
      exact .ended reply hcommand

theorem Invocation.planned (i : Invocation) (s : Surroundings) : i.Planned s (i.plan s) := by
  rw [plan]
  cases hc : i.command with
  | dump file => exact i.planned_of_finishes (by simp [hc]) Plan.finishes_dump
  | types query => exact i.planned_of_finishes (by simp [hc]) (Plan.finishes_types query)
  | config action => exact i.planned_of_finishes (by simp [hc]) (Plan.finishes_config action)
  | completions shell => exact i.planned_of_finishes (by simp [hc]) (Plan.finishes_finish _)
  | qualify file q output =>
      cases output with
      | none => exact i.planned_of_finishes (by simp [hc]) Plan.finishes_qualify
      | some path =>
          simp only
          cases hplan : Plan.qualify s (i.mode s.terminal) i.configPath file q (some path) with
          | error problem => exact .refused problem
          | ok plan =>
              obtain ⟨hcheck, table, scripts, htable, hscripts, rfl⟩ :=
                Plan.qualify_eq_ok_iff.1 hplan
              exact .writes hc (Qualifier.accepted_of_check hcheck) htable hscripts

/-! ## What is changed -/

/-- The scripts of a file were qualified into another: with accepted values, under the types of the
configuration, and with no other change. -/
def Invocation.QualifiedInto (i : Invocation) (e : Environment) (t t' : FileTree) : Prop :=
  ∃ file q path table scripts, i.command = .qualify file q (some path) ∧ q.Accepted ∧
    (e.surroundings t).loadTable i.configPath = .ok table ∧
    (e.surroundings t).loadFile table.registry file = .ok scripts ∧
    t.OnlyWritten t' path
      (saveScripts table.registry (scripts.map (Script.duplicateQualified q)))

/-- A run that fails changes nothing. One that succeeds changes nothing either, unless it is to
qualify scripts into a file, and then it has done so and changed nothing else. -/
theorem run_changes (e : Environment) (t : FileTree) (i : Invocation) :
    ((i.run e t).1.exitCode ≠ 0 → (i.run e t).2 = t) ∧
      ((i.run e t).1.exitCode = 0 →
        (∀ file q path, i.command ≠ .qualify file q (some path)) ∧ (i.run e t).2 = t ∨
          i.QualifiedInto e t (i.run e t).2) := by
  have hplanned := i.planned (e.surroundings t)
  rw [Invocation.run]
  generalize i.plan (e.surroundings t) = plan at hplanned ⊢
  cases hplanned with
  | ended reply hcommand => exact ⟨fun _ => rfl, fun _ => .inl ⟨hcommand, rfl⟩⟩
  | refused problem =>
      refine ⟨fun _ => rfl, fun hexit => ?_⟩
      exact absurd ((Reply.exitCode_problem _ problem).symm.trans hexit) problem.exitCode_ne_zero
  | @writes file path q table scripts hcommand haccepted htable hscripts =>
      rw [Plan.perform]
      cases hwrite : t.write path
          (saveScripts table.registry (scripts.map (Script.duplicateQualified q))) with
      | error failure =>
          refine ⟨fun _ => rfl, fun hexit => ?_⟩
          cases hexit
      | ok t' =>
          refine ⟨fun hexit => absurd (Reply.exitCode_result _ _ _) hexit, fun _ => .inr ?_⟩
          exact ⟨file, q, path, table, scripts, hcommand, haccepted, htable, hscripts,
            FileTree.onlyWritten_of_write hwrite⟩

end TriggerScript

namespace TriggerScript.Suffixed

/-- A suffix that files cannot hold. -/
def refusedInvocation : Invocation :=
  ⟨none, false, false, false, .qualify "in.scb" ⟨"雪", "", ""⟩ (some "out.scb")⟩

/-- The output is told from the root, above which there is nothing. -/
def rootedInvocation : Invocation :=
  ⟨none, false, false, false, .qualify "in.scb" qualifier (some "/../home/out.scb")⟩

theorem command_rootedInvocation :
    rootedInvocation.command = .qualify "in.scb" qualifier (some "/../home/out.scb") := rfl

theorem place_rooted (scripts : List Script) :
    (treeOf scripts).place "/../home/out.scb" = .ok ["home", "out.scb"] :=
  place_treeOf scripts "/../home/out.scb" [] (by decide +kernel) (by decide +kernel)
    (by decide +kernel) rfl

theorem exitCode_rootedInvocation :
    (rootedInvocation.run environment (treeOf guards)).1.exitCode = 0 := by
  have hslash : "/../home/out.scb".endsWith "/" = false := by decide +kernel
  exact (exitCode_run_eq_zero_iff command_rootedInvocation).2 ⟨rfl, _, guards, _,
    loadTable_treeOf guards, loadFile_guards, write_treeOf (place_rooted guards) hslash _⟩

/-- The suffix that is refused leaves the files as they are. The other is written into one file,
which is found from the working directory. -/
theorem one_file_changed :
    (refusedInvocation.run environment (treeOf guards)).2 = treeOf guards ∧
      (rootedInvocation.run environment (treeOf guards)).2.file? ["home", "in.scb"] =
        (treeOf guards).file? ["home", "in.scb"] ∧
      (rootedInvocation.run environment (treeOf guards)).2.read "out.scb" =
        .ok (saveScripts TemplateTable.builtin.registry
          (guards.map (Script.duplicateQualified qualifier))) := by
  refine ⟨(run_changes environment (treeOf guards) refusedInvocation).1 (by decide), ?_⟩
  obtain ⟨hnone, -⟩ | ⟨file, q, path, table, scripts, hcommand, -, htable, hscripts, honly⟩ :=
    (run_changes environment (treeOf guards) rootedInvocation).2 exitCode_rootedInvocation
  · exact (hnone _ _ _ command_rootedInvocation).elim
  · cases command_rootedInvocation.symm.trans hcommand
    cases htable.symm.trans (loadTable_treeOf guards)
    cases hscripts.symm.trans loadFile_guards
    obtain ⟨place, hplace, hwritten⟩ := honly.written
    cases hplace.symm.trans (place_rooted guards)
    refine ⟨honly.others _ ?_, ?_⟩
    · rw [place_rooted]
      simp
    · refine FileTree.read_of_file (honly.paths.place_eq_ok (place_output guards)) ?_ hwritten
      rw [honly.paths.refuses]
      rfl

end TriggerScript.Suffixed
