import TriggerScript.Proofs.Command.FileTree
import TriggerScript.Proofs.Config.Verify
import TriggerScript.Proofs.ScriptFile.Qualified

/-!
# Qualifying a file

A run that writes qualified scripts to a file succeeds exactly when its values are accepted, the
input can be loaded and the output can be written. The values are checked one by one and not in the
texts that they become part of, so the run can succeed and yet show more than the file holds.
-/

namespace TriggerScript

variable {e : Environment} {t t' : FileTree} {i : Invocation} {file path : String} {q : Qualifier}

/-! ## Replies -/

theorem Problem.exitCode_ne_zero (p : Problem) : p.exitCode ≠ 0 := by
  cases p <;> exact nofun

@[simp]
theorem Reply.exitCode_problem (mode : OutputMode) (p : Problem) :
    (problem mode p).exitCode = p.exitCode := by
  unfold problem
  split <;> rfl

@[simp]
theorem Reply.exitCode_result (mode : OutputMode) (json : Json) (text : String) :
    (result mode json text).exitCode = 0 := by
  cases mode <;> rfl

/-! ## What is loaded -/

namespace Surroundings

variable {s : Surroundings} {asked : Option String} {registry : Registry} {scripts : List Script}

theorem lawful_of_loadTable {table : TemplateTable} (h : s.loadTable asked = .ok table) :
    table.Lawful := by
  obtain ⟨config, -, h⟩ := except_bind_eq_ok_iff.1 h
  exact Config.lawful_of_table (mapError_eq_ok_iff.1 h)

theorem loadFile_eq_ok_iff :
    s.loadFile registry file = .ok scripts ↔
      ∃ content, s.read file = .ok content ∧ loadScripts registry content = .ok scripts := by
  simp only [loadFile, except_bind_eq_ok_iff, mapError_eq_ok_iff]

end Surroundings

/-! ## Accepted values -/

theorem Qualifier.bytewise_of_check (h : q.check = .ok ()) : q.Bytewise := by
  simp only [check, ite_error_eq_ok_iff] at h
  obtain ⟨-, -, hsuffix, -, hplayer, -⟩ := h
  exact ⟨StoredText.bytewise_of_fits (by simpa using hsuffix),
    StoredText.bytewise_of_fits (by simpa using hplayer)⟩

/-! ## The plan -/

namespace Plan

variable {s : Surroundings} {mode : OutputMode} {asked : Option String} {plan : Plan}

/-- What is reported of scripts that were qualified into a file. -/
def qualifyReport (file : String) (q : Qualifier) (path : String) (scripts : Json) : Json :=
  .object [("action", .string "qualify"), ("file", .string file), ("qualifier", .string q.suffix),
    ("output", .string path), ("scripts", scripts)]

def qualifyReply (mode : OutputMode) (file : String) (q : Qualifier) (path : String)
    (names : TypeNames) (shown : List Script) : Reply :=
  .result mode (qualifyReport file q path (scriptsJson names shown))
    s!"Wrote {shown.length} script(s) to {path}\n"

theorem qualify_eq_ok_iff :
    qualify s mode asked file q (some path) = .ok plan ↔
      q.check = .ok () ∧ ∃ table scripts,
        s.loadTable asked = .ok table ∧ s.loadFile table.registry file = .ok scripts ∧
        plan = .write path (saveScripts table.registry (scripts.map (Script.duplicateQualified q)))
          (qualifyReply mode file q path table.registry.typeName?
            (scripts.map (Script.duplicateQualified q)))
          (fun failure => .failed s!"Failed to write {path}" (some failure.message)) := by
  constructor
  · intro h
    obtain ⟨⟨⟩, hcheck, h⟩ := except_bind_eq_ok_iff.1 h
    obtain ⟨table, htable, h⟩ := except_bind_eq_ok_iff.1 h
    obtain ⟨scripts, hscripts, h⟩ := except_bind_eq_ok_iff.1 h
    cases h
    exact ⟨hcheck, table, scripts, htable, hscripts, rfl⟩
  · rintro ⟨hcheck, table, scripts, htable, hscripts, rfl⟩
    simp only [qualify, hcheck, htable, hscripts, except_ok_bind]
    rfl

end Plan

/-! ## Runs -/

section Runs

variable (hcommand : i.command = .qualify file q (some path))

include hcommand

theorem run_eq_perform :
    i.run e t = Plan.perform t
      (match
          Plan.qualify (e.surroundings t) (i.mode e.terminal) i.configPath file q (some path) with
        | .ok plan => plan
        | .error problem => .finish (.problem (i.mode e.terminal) problem)) := by
  simp only [Invocation.run, Invocation.plan, hcommand]
  rfl

theorem run_of_written {table : TemplateTable} {scripts : List Script} (hcheck : q.check = .ok ())
    (htable : (e.surroundings t).loadTable i.configPath = .ok table)
    (hscripts : (e.surroundings t).loadFile table.registry file = .ok scripts)
    (hwrite : t.write path
      (saveScripts table.registry (scripts.map (Script.duplicateQualified q))) = .ok t') :
    i.run e t =
      (Plan.qualifyReply (i.mode e.terminal) file q path table.registry.typeName?
        (scripts.map (Script.duplicateQualified q)), t') := by
  rw [run_eq_perform hcommand,
    Plan.qualify_eq_ok_iff.2 ⟨hcheck, table, scripts, htable, hscripts, rfl⟩]
  simp only [Plan.perform, hwrite]

/-- The run succeeds when nothing on the way fails. -/
theorem exitCode_run_eq_zero_iff :
    (i.run e t).1.exitCode = 0 ↔
      q.check = .ok () ∧ ∃ table scripts t',
        (e.surroundings t).loadTable i.configPath = .ok table ∧
        (e.surroundings t).loadFile table.registry file = .ok scripts ∧
        t.write path (saveScripts table.registry (scripts.map (Script.duplicateQualified q))) =
          .ok t' := by
  constructor
  · intro hexit
    rw [run_eq_perform hcommand] at hexit
    cases hplan : Plan.qualify (e.surroundings t) (i.mode e.terminal) i.configPath file q
        (some path) with
    | error problem =>
        rw [hplan] at hexit
        exact absurd ((Reply.exitCode_problem _ problem).symm.trans hexit) problem.exitCode_ne_zero
    | ok plan =>
        rw [hplan] at hexit
        obtain ⟨hcheck, table, scripts, htable, hscripts, rfl⟩ := Plan.qualify_eq_ok_iff.1 hplan
        cases hwrite : t.write path
            (saveScripts table.registry (scripts.map (Script.duplicateQualified q))) with
        | error failure =>
            simp only [Plan.perform, hwrite] at hexit
            cases hexit
        | ok t' => exact ⟨hcheck, table, scripts, t', htable, hscripts, hwrite⟩
  · rintro ⟨hcheck, table, scripts, t', htable, hscripts, hwrite⟩
    rw [run_of_written hcommand hcheck htable hscripts hwrite]
    exact Reply.exitCode_result _ _ _

end Runs

/-! ## What a run writes -/

section Written

variable {table : TemplateTable} {scripts : List Script} (h : table.Lawful)
variable (hs : ∀ s ∈ scripts, s.Storable table.registry)

include h hs

theorem loadScripts_of_storable (hsize : ∀ s ∈ scripts, s.bodySize table.registry ≤ maxSize) :
    loadScripts table.registry (saveScripts table.registry scripts) =
      .ok (scripts.map (Script.resaved table.registry)) := by
  have hknown (s : Script) (hmem : s ∈ scripts) (c : Condition) (hc : c ∈ s.conditions) :=
    ((hs s hmem).conditions c hc).known
  exact loadScripts_resaved h hknown (fun s hmem => (hs s hmem).inBounds h) hsize

theorem scriptsJson_resaved_iff {names : TypeNames} :
    Plan.scriptsJson names (scripts.map (Script.resaved table.registry)) =
        Plan.scriptsJson names scripts ↔
      ∀ s ∈ scripts, s.KeptBy table := by
  rw [Plan.scriptsJson, Plan.scriptsJson, Json.array.injEq, List.map_map, List.map_inj_left]
  exact forall₂_congr fun s hmem => (hs s hmem).toJson_resaved_iff h

end Written

theorem loadFile_of_onlyWritten {registry : Registry} {content : List UInt8}
    {scripts : List Script} (h : t.OnlyWritten t' path content) (hread : t.MayRead path)
    (hload : loadScripts registry content = .ok scripts) :
    (e.surroundings t').loadFile registry path = .ok scripts :=
  Surroundings.loadFile_eq_ok_iff.2 ⟨content, h.read hread, hload⟩

/-- A run that succeeds has written a file, and no other, that can be loaded again, unless a script
has become too large for its chunk. The scripts in it have the view that the run shows exactly when
each of them is kept: its name and its texts have no more than 65535 characters, and the names of
its types are not stored as those of others. -/
theorem written_view_eq_iff (hcommand : i.command = .qualify file q (some path))
    (hexit : (i.run e t).1.exitCode = 0) :
    ∃ table scripts content,
      (e.surroundings t).loadTable i.configPath = .ok table ∧
      (e.surroundings t).loadFile table.registry file = .ok scripts ∧
      (i.run e t).1 =
        Plan.qualifyReply (i.mode e.terminal) file q path table.registry.typeName?
          (scripts.map (Script.duplicateQualified q)) ∧
      t.OnlyWritten (i.run e t).2 path content ∧
      ((∀ s ∈ scripts.map (Script.duplicateQualified q), s.bodySize table.registry ≤ 2147483647) →
        ∃ loaded, loadScripts table.registry content = .ok loaded ∧
          (t.MayRead path →
            (e.surroundings (i.run e t).2).loadFile table.registry path = .ok loaded) ∧
          (Plan.scriptsJson table.registry.typeName? loaded =
              Plan.scriptsJson table.registry.typeName?
                (scripts.map (Script.duplicateQualified q)) ↔
            ∀ s ∈ scripts.map (Script.duplicateQualified q), s.KeptBy table)) := by
  obtain ⟨hcheck, table, scripts, t', htable, hscripts, hwrite⟩ :=
    (exitCode_run_eq_zero_iff hcommand).1 hexit
  have h := Surroundings.lawful_of_loadTable htable
  obtain ⟨input, -, hload⟩ := Surroundings.loadFile_eq_ok_iff.1 hscripts
  have hstorable : ∀ s ∈ scripts.map (Script.duplicateQualified q), s.Storable table.registry :=
    List.forall_mem_map.2 fun s hmem =>
      (settled_of_loadScripts hload s hmem).storable_qualified (Qualifier.bytewise_of_check hcheck)
  have honly := FileTree.onlyWritten_of_write hwrite
  rw [run_of_written hcommand hcheck htable hscripts hwrite]
  refine ⟨table, scripts, _, htable, hscripts, rfl, honly, fun hsize => ?_⟩
  have hloaded := loadScripts_of_storable h hstorable hsize
  exact ⟨_, hloaded, fun hread => loadFile_of_onlyWritten honly hread hloaded,
    scriptsJson_resaved_iff h hstorable⟩

end TriggerScript

namespace TriggerScript.Suffixed

def environment : Environment := ⟨some "config.json", none, none, false⟩

def qualifier : Qualifier := ⟨"_2", "", ""⟩

def invocation : Invocation :=
  ⟨none, false, false, false, .qualify "in.scb" qualifier (some "out.scb")⟩

theorem command_invocation :
    invocation.command = .qualify "in.scb" qualifier (some "out.scb") := rfl

/-- A working directory with a file of scripts and no configuration. -/
def treeOf (scripts : List Script) : FileTree :=
  .ofList ["home"] [("in.scb", saveScripts TemplateTable.builtin.registry scripts)]

def guards : List Script :=
  [⟨"Guard", "é", true, false, true, ⟨[⟨[⟨8, [.ofText .team "Red"], false, 0, 0⟩]⟩]⟩⟩]

theorem place_treeOf (scripts : List Script) (path : String) (directory : List String)
    {place : List String} (hlen : path.utf8ByteSize ≤ FileTree.maxPath) (hne : path.isEmpty = false)
    (hstart : FileTree.start ["home"] path = directory)
    (hfollow :
      (treeOf scripts).follow FileTree.maxLinks directory (FileTree.parts path) = .ok place) :
    (treeOf scripts).place path = .ok place :=
  (FileTree.place_eq_follow hlen hne hstart).trans hfollow

theorem loadTable_treeOf (scripts : List Script) :
    (environment.surroundings (treeOf scripts)).loadTable none = .ok .builtin := by
  have hplace : (treeOf scripts).place "config.json" = .ok ["home", "config.json"] :=
    place_treeOf scripts "config.json" ["home"] (by decide +kernel) (by decide +kernel)
      (by decide +kernel) rfl
  have hpresent : (environment.surroundings (treeOf scripts)).present "config.json" = false := by
    change (treeOf scripts).present "config.json" = false
    rw [FileTree.present, hplace]
    rfl
  have hconfig : (environment.surroundings (treeOf scripts)).loadConfig none = .ok .standard := by
    change (if (environment.surroundings (treeOf scripts)).present "config.json" then _ else _) = _
    rw [hpresent]
    rfl
  rw [Surroundings.loadTable, hconfig]
  rfl

theorem loadFile_treeOf (scripts : List Script)
    (hknown : ∀ s ∈ scripts, ∀ c ∈ s.conditions, c.Known TemplateTable.builtin.registry)
    (hp : ∀ s ∈ scripts, s.InBounds)
    (hs : ∀ s ∈ scripts, s.bodySize TemplateTable.builtin.registry ≤ maxSize) :
    (environment.surroundings (treeOf scripts)).loadFile TemplateTable.builtin.registry "in.scb" =
      .ok (scripts.map (Script.resaved TemplateTable.builtin.registry)) := by
  have hplace : (treeOf scripts).place "in.scb" = .ok ["home", "in.scb"] :=
    place_treeOf scripts "in.scb" ["home"] (by decide +kernel) (by decide +kernel)
      (by decide +kernel) rfl
  exact Surroundings.loadFile_eq_ok_iff.2 ⟨_, FileTree.read_of_file hplace rfl rfl,
    loadScripts_resaved TemplateTable.lawful_builtin hknown hp hs⟩

theorem loadFile_guards :
    (environment.surroundings (treeOf guards)).loadFile TemplateTable.builtin.registry "in.scb" =
      .ok guards := by
  have hguards : guards.map (Script.resaved TemplateTable.builtin.registry) = guards := by
    decide +kernel
  have hload := loadFile_treeOf guards (by decide) (by decide) (by decide +kernel)
  rwa [hguards] at hload

theorem place_output (scripts : List Script) :
    (treeOf scripts).place "out.scb" = .ok ["home", "out.scb"] :=
  place_treeOf scripts "out.scb" ["home"] (by decide +kernel) (by decide +kernel)
    (by decide +kernel) rfl

theorem write_treeOf {scripts : List Script} {path : String}
    (hplace : (treeOf scripts).place path = .ok ["home", "out.scb"])
    (hslash : path.endsWith "/" = false) (content : List UInt8) :
    (treeOf scripts).write path content = .ok ((treeOf scripts).put ["home", "out.scb"] content) :=
  FileTree.write_eq_ok_iff.2 ⟨_, hplace, rfl, hslash, rfl, rfl⟩

theorem write_output (scripts : List Script) (content : List UInt8) :
    (treeOf scripts).write "out.scb" content =
      .ok ((treeOf scripts).put ["home", "out.scb"] content) :=
  write_treeOf (place_output scripts) (by decide +kernel) content

theorem exitCode_invocation {scripts found : List Script}
    (hfound : (environment.surroundings (treeOf scripts)).loadFile TemplateTable.builtin.registry
      "in.scb" = .ok found) :
    (invocation.run environment (treeOf scripts)).1.exitCode = 0 :=
  (exitCode_run_eq_zero_iff command_invocation).2
    ⟨rfl, _, found, _, loadTable_treeOf scripts, hfound, write_output scripts _⟩

theorem guards_written :
    ∃ loaded,
      (environment.surroundings (invocation.run environment (treeOf guards)).2).loadFile
          TemplateTable.builtin.registry "out.scb" = .ok loaded ∧
      Plan.scriptsJson TemplateTable.builtin.registry.typeName? loaded =
        Plan.scriptsJson TemplateTable.builtin.registry.typeName?
          (guards.map (Script.duplicateQualified qualifier)) := by
  obtain ⟨table, scripts, content, htable, hscripts, -, -, hview⟩ :=
    written_view_eq_iff command_invocation (exitCode_invocation loadFile_guards)
  cases htable.symm.trans (loadTable_treeOf guards)
  cases hscripts.symm.trans loadFile_guards
  obtain ⟨loaded, -, hload, hkept⟩ := hview (by decide +kernel)
  exact ⟨loaded, hload fun _ _ => rfl, hkept.2 (by decide +kernel)⟩

/-! ## A name that becomes too long -/

theorem bodySize_named_le (name : String) :
    (Script.named name).bodySize TemplateTable.builtin.registry ≤ maxSize := by
  rw [Script.bodySize_eq _ fun _ => 0]
  simp only [Script.body, Script.named, Trigger.empty, List.length_append, List.flatMap_nil,
    StoredText.length_encode, List.length_singleton, List.length_nil]
  have hmax : StoredText.maxLength = 65535 := rfl
  have hsize : maxSize = 2147483647 := rfl
  omega

theorem loadFile_named {name : String} (hfits : StoredText.fits name = true) :
    (environment.surroundings (treeOf [.named name])).loadFile TemplateTable.builtin.registry
      "in.scb" = .ok [.named name] := by
  have hresaved : (Script.named name).resaved TemplateTable.builtin.registry = .named name := by
    simp only [Script.named, Script.resaved, StoredText.kept_of_fits hfits,
      StoredText.kept_empty]
    rfl
  rw [loadFile_treeOf [.named name], List.map_singleton, hresaved]
  · simp [Script.conditions, Script.named, Trigger.empty]
  · simp [Script.InBounds, Script.named, Trigger.empty]
  · simpa using bodySize_named_le name

/-- Where there is no room for the suffix in the file, the view of what was written is another. -/
theorem view_named_ne {name : String} (hfits : StoredText.fits name = true)
    (hlen : 65533 < name.length) {loaded : List Script}
    (hloaded : (environment.surroundings
        (invocation.run environment (treeOf [.named name])).2).loadFile
      TemplateTable.builtin.registry "out.scb" = .ok loaded) (names : TypeNames) :
    Plan.scriptsJson names loaded ≠ Plan.scriptsJson names [.named (name ++ "_2")] := by
  have hfound := loadFile_named hfits
  obtain ⟨content, -, hload⟩ := Surroundings.loadFile_eq_ok_iff.1 hfound
  have hstorable : ∀ s ∈ [Script.named (name ++ "_2")], s.Storable TemplateTable.builtin.registry :=
    List.forall_mem_singleton.2
      ((settled_of_loadScripts hload _ List.mem_cons_self).storable_qualified
        (Qualifier.bytewise_of_check (q := qualifier) rfl))
  have hwrite := write_output [.named name]
    (saveScripts TemplateTable.builtin.registry [.named (name ++ "_2")])
  have hkeeps := loadScripts_of_storable TemplateTable.lawful_builtin hstorable
    (List.forall_mem_singleton.2 (bodySize_named_le _))
  have honly := FileTree.onlyWritten_of_write hwrite
  have hread : (treeOf [.named name]).MayRead "out.scb" := fun _ _ => rfl
  have hrun : (invocation.run environment (treeOf [.named name])).2 =
      (treeOf [.named name]).put ["home", "out.scb"]
        (saveScripts TemplateTable.builtin.registry [.named (name ++ "_2")]) :=
    congrArg Prod.snd
      (run_of_written command_invocation rfl (loadTable_treeOf _) hfound hwrite)
  rw [hrun, loadFile_of_onlyWritten honly hread hkeeps] at hloaded
  cases hloaded
  intro hview
  have hkept := (scriptsJson_resaved_iff TemplateTable.lawful_builtin hstorable).1 hview _
    List.mem_cons_self
  have hname : (name ++ "_2").length ≤ 65535 := hkept.name
  rw [String.length_append] at hname
  have hsuffix : "_2".length = 2 := rfl
  omega

/-- Values that fit can make a name that does not. -/
theorem not_view_written :
    ¬ ∀ (e : Environment) (t : FileTree) (args : List String) (i : Invocation) (file path : String)
        (q : Qualifier), Invocation.ofArguments args = .ok i →
        i.command = .qualify file q (some path) → (i.run e t).1.exitCode = 0 → t.MayRead path →
        ∃ table scripts loaded,
          (e.surroundings t).loadTable i.configPath = .ok table ∧
          (e.surroundings t).loadFile table.registry file = .ok scripts ∧
          (e.surroundings (i.run e t).2).loadFile table.registry path = .ok loaded ∧
          Plan.scriptsJson table.registry.typeName? loaded =
            Plan.scriptsJson table.registry.typeName?
              (scripts.map (Script.duplicateQualified q)) := by
  intro hall
  -- the name stays a variable, so that nothing looks at its characters one by one
  obtain ⟨name, hname⟩ : ∃ name, name = String.ofList (List.replicate 65535 'a') := ⟨_, rfl⟩
  have hlen : name.length = 65535 := by
    rw [hname, String.length_ofList, List.length_replicate]
  have hfits : StoredText.fits name = true := by
    refine StoredText.fits_iff.2 ⟨Nat.le_of_eq hlen, fun c hc => ?_⟩
    rw [hname, String.toList_ofList] at hc
    rw [List.eq_of_mem_replicate hc]
    rfl
  have hfound := loadFile_named hfits
  obtain ⟨table, scripts, loaded, htable, hscripts, hloaded, hview⟩ :=
    hall environment (treeOf [.named name])
      ["qualify", "in.scb", "--qualifier", "_2", "-o", "out.scb"] invocation "in.scb" "out.scb"
      qualifier rfl rfl (exitCode_invocation hfound) fun _ _ => rfl
  cases htable.symm.trans (loadTable_treeOf _)
  cases hscripts.symm.trans hfound
  exact view_named_ne hfits (by omega) hloaded _ hview

end TriggerScript.Suffixed
