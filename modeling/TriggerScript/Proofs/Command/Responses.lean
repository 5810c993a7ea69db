import TriggerScript.Proofs.Command.Qualify
import TriggerScript.Proofs.Json.Reading

/-!
# Responses

With JSON as the mode of output a run prints one line with one response, a result when it succeeds
and an error when it does not. A file that cannot be written is the exception: nothing is printed
then.
-/

namespace TriggerScript

open Json

/-! ## Reports are JSON -/

theorem Json.sound_optionalField {name : String} {value : Option Json}
    (h : ∀ v, value = some v → v.Sound) : ∀ field ∈ optionalField name value, field.2.Sound := by
  cases value with
  | none => simp [optionalField]
  | some v => simpa [optionalField] using h v rfl

@[simp]
theorem Json.sound_ofOption (value : Option String) : (ofOption value).Sound := by
  cases value with
  | none => exact .null
  | some s => exact .string s

@[simp]
theorem Single.sound_toJson (x : Single) : x.toJson.Sound := by
  refine .number ?_
  cases x.value with
  | nan => exact .inl rfl
  | infinite negative => cases negative <;> exact .inl rfl
  | finite negative m q => exact .inr (NumberLayout.json.numeral_text .single negative m q)

@[simp]
theorem Parameter.sound_toJson (p : Parameter) : p.toJson.Sound := by
  have hcoord : (Json.array [p.coord.x.toJson, p.coord.y.toJson, p.coord.z.toJson]).Sound := by simp
  refine .object (List.forall_mem_append.2 ⟨List.forall_mem_append.2 ⟨by simp, ?_⟩, by simp⟩)
  refine sound_optionalField fun v hv => ?_
  split at hv
  · cases hv
    exact hcoord
  · cases hv

@[simp]
theorem Condition.sound_toJson (names : TypeNames) (c : Condition) : (c.toJson names).Sound := by
  simp [toJson]

@[simp]
theorem Clause.sound_toJson (names : TypeNames) (c : Clause) : (c.toJson names).Sound := by
  simp [toJson]

@[simp]
theorem Script.sound_toJson (names : TypeNames) (s : Script) : (s.toJson names).Sound := by
  simp [toJson]

@[simp]
theorem Plan.sound_scriptsJson (names : TypeNames) (scripts : List Script) :
    (scriptsJson names scripts).Sound := by
  simp [scriptsJson]

@[simp]
theorem Template.sound_toJson (t : Template) : t.toJson.Sound := by
  simp [toJson]

theorem Problem.sound_data (p : Problem) {data : Json} (h : p.data = some data) : data.Sound := by
  unfold Problem.data at h
  split at h
  · cases h
    refine .object (sound_optionalField fun v hv => ?_)
    split at hv
    · cases hv
    · cases hv
      simp
  · obtain ⟨details, -, rfl⟩ := Option.map_eq_some_iff.1 h
    simp

/-! ## One line, one response -/

/-- The responses of a run with this exit code. An error says what the code is counted down from. -/
inductive Response (exitCode : ℕ) : Json → Prop
  | result (result : Json) : exitCode = 0 →
      Response exitCode (.object [("jsonrpc", .string "2.0"), ("result", result), ("id", .null)])
  | error (message : String) (data : Option Json) : exitCode ≠ 0 →
      Response exitCode (.object [("jsonrpc", .string "2.0"),
        ("error", .object ([("code", .int (-32000 - exitCode)), ("message", .string message)] ++
          Json.optionalField "data" data)),
        ("id", .null)])

/-- The standard output is one line, which says one response and nothing else. -/
def Reply.Answers (r : Reply) : Prop :=
  ∃ (line : String) (response : Json), r.out = line ++ "\n" ∧ '\n' ∉ line.toList ∧
    (∀ value, Json.Says value line.toList ↔ value = response) ∧ Response r.exitCode response

theorem Reply.answers_of_says {r : Reply} {line : String} {response : Json}
    (hout : r.out = line ++ "\n") (h : Says response line.toList)
    (hresponse : Response r.exitCode response) : r.Answers := by
  refine ⟨line, response, hout, h.no_newline, fun value => ⟨fun hvalue => hvalue.unique h, ?_⟩,
    hresponse⟩
  rintro rfl
  exact h

theorem says_envelope {name : String} {part value : Json} (h : Says value part.compact.toList) :
    Says (.object [("jsonrpc", .string "2.0"), (name, value), ("id", .null)])
      (envelope (name, part)).compact.toList := by
  rw [envelope, toList_compact_object]
  exact .object (.cons_compact (.string (quoted_quote _))
    (.cons_compact h (.cons_compact .null .nil)))

theorem Reply.answers_result {json : Json} (h : json.Sound) (text : String) :
    (Reply.result .json json text).Answers := by
  obtain ⟨value, hvalue⟩ := exists_says h
  exact answers_of_says rfl (says_envelope hvalue) (.result value rfl)

theorem Problem.exists_says_toJson (p : Problem) :
    ∃ data, Says (.object ([("code", .int (-32000 - p.exitCode)), ("message", .string p.message)] ++
      Json.optionalField "data" data)) p.toJson.compact.toList := by
  rw [toJson, toList_compact_object]
  have hcode : Says (.int (-32000 - p.exitCode)) (Json.int (errorCode p.exitCode)).compact.toList :=
    .int _
  have hmessage : Says (.string p.message) (Json.string p.message).compact.toList :=
    .string (quoted_quote _)
  cases hdata : p.data with
  | none => exact ⟨none, .object (.cons_compact hcode (.cons_compact hmessage .nil))⟩
  | some data =>
      obtain ⟨value, hvalue⟩ := exists_says (p.sound_data hdata)
      exact ⟨some value, .object (.cons_compact hcode (.cons_compact hmessage
        (.cons_compact hvalue .nil)))⟩

theorem Reply.answers_problem (p : Problem) : (Reply.problem .json p).Answers := by
  obtain ⟨data, hdata⟩ := p.exists_says_toJson
  exact answers_of_says rfl (says_envelope hdata) (.error p.message data p.exitCode_ne_zero)

theorem Reply.not_answers_of_out {r : Reply} (h : r.out = "") : ¬ r.Answers := by
  rintro ⟨line, -, hout, -⟩
  have hempty := congrArg String.toList (h.symm.trans hout)
  simp at hempty

/-! ## Runs -/

/-- The commands that report in the mode of output. -/
def Command.Reports : Command → Prop
  | .dump _ | .qualify .. | .types _ => True
  | .config _ | .completions _ => False

section Plans

variable {s : Surroundings} {asked : Option String} {plan : Plan} {file : String}

/-- The plan is to print a report and end. -/
def Plan.Prints (plan : Plan) : Prop :=
  ∃ json text, json.Sound ∧ plan = .finish (.result .json json text)

theorem Plan.prints_dump (h : dump s .json asked file = .ok plan) : plan.Prints := by
  obtain ⟨table, -, h⟩ := except_bind_eq_ok_iff.1 h
  obtain ⟨scripts, -, h⟩ := except_bind_eq_ok_iff.1 h
  cases h
  exact ⟨_, _, by simp, rfl⟩

theorem Plan.prints_qualify {q : Qualifier} (h : qualify s .json asked file q none = .ok plan) :
    plan.Prints := by
  obtain ⟨-, -, h⟩ := except_bind_eq_ok_iff.1 h
  obtain ⟨table, -, h⟩ := except_bind_eq_ok_iff.1 h
  obtain ⟨scripts, -, h⟩ := except_bind_eq_ok_iff.1 h
  cases h
  exact ⟨_, _, by simp [Json.optionalField], rfl⟩

theorem Plan.prints_types {query : Option String} (h : types s .json asked query = .ok plan) :
    plan.Prints := by
  obtain ⟨table, -, h⟩ := except_bind_eq_ok_iff.1 h
  have hprints (found : List Template) : (Plan.finish (.result .json
      (.object [("types", .array (found.map Template.toJson))])
      (String.join (found.map Template.text)))).Prints := ⟨_, _, by simp, rfl⟩
  cases query with
  | none =>
      cases h
      exact hprints table.templates
  | some query =>
      cases hfound : table.find? query with
      | some found =>
          simp only [hfound] at h
          cases h
          exact hprints [found]
      | none =>
          simp only [hfound] at h
          cases h

/-- Plans that print, and the problems in the way of them, are answers. -/
theorem Plan.answers_of_prints (t : FileTree) {outcome : Except Problem Plan} :
    (∀ plan, outcome = .ok plan → plan.Prints) →
    (Plan.perform t (match outcome with
      | .ok plan => plan
      | .error problem => .finish (.problem .json problem))).1.Answers := by
  intro h
  cases outcome with
  | error problem => exact Reply.answers_problem problem
  | ok plan =>
      obtain ⟨json, text, hjson, rfl⟩ := h plan rfl
      exact Reply.answers_result hjson text

end Plans

variable {e : Environment} {t : FileTree} {i : Invocation}

/-- The run gets as far as writing its file, and cannot. -/
def FailsToWrite (e : Environment) (t : FileTree) (i : Invocation) (path : String)
    (cause : IoFailure) : Prop :=
  ∃ file q table scripts, i.command = .qualify file q (some path) ∧ q.check = .ok () ∧
    (e.surroundings t).loadTable i.configPath = .ok table ∧
    (e.surroundings t).loadFile table.registry file = .ok scripts ∧
    t.write path (saveScripts table.registry (scripts.map (Script.duplicateQualified q))) =
      .error cause

theorem run_of_failsToWrite {path : String} {cause : IoFailure}
    (h : FailsToWrite e t i path cause) :
    (i.run e t).1 = .failed s!"Failed to write {path}" (some cause.message) := by
  obtain ⟨file, q, table, scripts, hcommand, hcheck, htable, hscripts, hwrite⟩ := h
  rw [run_eq_perform hcommand,
    Plan.qualify_eq_ok_iff.2 ⟨hcheck, table, scripts, htable, hscripts, rfl⟩]
  simp only [Plan.perform, hwrite]

theorem answers_of_not_failsToWrite (hcommand : i.command.Reports)
    (hmode : i.mode e.terminal = .json) (h : ¬ ∃ path cause, FailsToWrite e t i path cause) :
    (i.run e t).1.Answers := by
  rw [Invocation.run, Invocation.plan]
  change i.mode (e.surroundings t).terminal = .json at hmode
  cases hc : i.command with
  | config action => exact (hc ▸ hcommand : (Command.config action).Reports).elim
  | completions shell => exact (hc ▸ hcommand : (Command.completions shell).Reports).elim
  | dump file =>
      simp only [hmode]
      exact Plan.answers_of_prints t fun plan => Plan.prints_dump
  | types query =>
      simp only [hmode]
      exact Plan.answers_of_prints t fun plan => Plan.prints_types
  | qualify file q output =>
      simp only [hmode]
      cases output with
      | none => exact Plan.answers_of_prints t fun plan => Plan.prints_qualify
      | some path =>
          cases hplan : Plan.qualify (e.surroundings t) .json i.configPath file q (some path) with
          | error problem => exact Reply.answers_problem problem
          | ok plan =>
              obtain ⟨hcheck, table, scripts, htable, hscripts, rfl⟩ :=
                Plan.qualify_eq_ok_iff.1 hplan
              cases hwrite : t.write path
                  (saveScripts table.registry (scripts.map (Script.duplicateQualified q))) with
              | error cause =>
                  exact absurd ⟨path, cause, file, q, table, scripts, hc, hcheck, htable, hscripts,
                    hwrite⟩ h
              | ok t' =>
                  simp only [Plan.perform, hwrite]
                  exact Reply.answers_result (by simp [Plan.qualifyReport]) _

/-- With JSON as the mode of output, a run answers exactly when it does not fail to write its file.
When it does fail, the standard output is empty and the cause is told on the error output. -/
theorem run_answers_iff (hcommand : i.command.Reports) (hmode : i.mode e.terminal = .json) :
    ((i.run e t).1.Answers ↔ ¬ ∃ path cause, FailsToWrite e t i path cause) ∧
      ∀ path cause, FailsToWrite e t i path cause →
        (i.run e t).1 = .failed s!"Failed to write {path}" (some cause.message) := by
  refine ⟨⟨?_, answers_of_not_failsToWrite hcommand hmode⟩, fun path cause => run_of_failsToWrite⟩
  rintro hanswers ⟨path, cause, h⟩
  rw [run_of_failsToWrite h] at hanswers
  exact Reply.not_answers_of_out rfl hanswers

/-- The list of types, asked for by a program. -/
theorem types_answers :
    ((⟨none, false, false, false, .types none⟩ : Invocation).run Suffixed.environment
      (.ofList ["home"] [])).1.Answers := by
  refine (run_answers_iff ?_ rfl).1.2 ?_
  · trivial
  · rintro ⟨path, cause, file, q, table, scripts, hcommand, -⟩
    cases hcommand

end TriggerScript

namespace TriggerScript.Unwritable

open Suffixed

def invocation : Invocation :=
  ⟨none, true, false, false, .qualify "in.scb" qualifier (some "missing/out.scb")⟩

theorem command_invocation :
    invocation.command = .qualify "in.scb" qualifier (some "missing/out.scb") := rfl

theorem write_missing (scripts : List Script) (content : List UInt8) :
    (treeOf scripts).write "missing/out.scb" content = .error .notFound := by
  have hstart : FileTree.start ["home"] "missing/out.scb" = ["home"] := by decide +kernel
  have hplace : (treeOf scripts).place "missing/out.scb" =
      (treeOf scripts).follow FileTree.maxLinks ["home"] (FileTree.parts "missing/out.scb") :=
    FileTree.place_eq_follow (by decide +kernel) (by decide +kernel) hstart
  have hmissing : (treeOf scripts).place "missing/out.scb" = .error .notFound := hplace.trans rfl
  rw [FileTree.write, FileTree.withoutSlashes_of_not_endsWith (by decide +kernel),
    ← FileTree.place, hmissing]
  rfl

/-- Into a directory that is not there nothing is written, and nothing is answered. -/
theorem not_answers :
    ¬ ∀ (e : Environment) (t : FileTree) (args : List String) (i : Invocation),
        Invocation.ofArguments args = .ok i → i.command.Reports → i.mode e.terminal = .json →
        (i.run e t).1.Answers := by
  intro hall
  have hfound : (environment.surroundings (treeOf [.named "A"])).loadFile
      TemplateTable.builtin.registry "in.scb" = .ok [.named "A"] :=
    loadFile_named (by decide +kernel)
  have hfails : FailsToWrite environment (treeOf [.named "A"]) invocation "missing/out.scb"
      .notFound :=
    ⟨"in.scb", qualifier, _, _, command_invocation, rfl, loadTable_treeOf _, hfound,
      write_missing _ _⟩
  have hanswers := hall environment (treeOf [.named "A"])
    ["--json", "qualify", "in.scb", "--qualifier", "_2", "-o", "missing/out.scb"] invocation rfl
    trivial rfl
  rw [run_of_failsToWrite hfails] at hanswers
  exact Reply.not_answers_of_out rfl hanswers

end TriggerScript.Unwritable
