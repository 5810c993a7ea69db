import TriggerScript.ScriptFile.Load
import TriggerScript.Proofs.ScriptFile.Decoder

/-!
# Loading is decoding

The loader shares one reader and one table of parsers among all scripts of a file. It finds the same
scripts, or the same error, as the decoder on slices: a parser that was registered for one chunk
stands where the same parser belongs in every other chunk.
-/

namespace TriggerScript

/-! ## The parsers that are registered -/

namespace ParserTable

/-- At the top level exactly scripts have a parser; elsewhere only the parser that belongs there can
be registered. -/
structure AtTop (table : ParserTable ParserName) : Prop where
  script : ∀ l, table.find? l "" = if l = scriptLabel then some .script else none
  onlyClause : ∀ l, l ≠ clauseLabel → table.find? l scriptLabel = none
  onlyCondition : ∀ l, l ≠ conditionLabel → table.find? l clauseLabel = none

structure InScript (table : ParserTable ParserName) : Prop extends AtTop table where
  clause : table.find? clauseLabel scriptLabel = some .clause

structure InClause (table : ParserTable ParserName) : Prop extends InScript table where
  condition : table.find? conditionLabel clauseLabel = some .condition

variable {table : ParserTable ParserName}

theorem atTop_insert_nil : AtTop (insert [] scriptLabel "" .script) where
  script l := by simp [find?_insert, find?_nil]
  onlyClause l _ := by simp [find?_insert, find?_nil, scriptLabel]
  onlyCondition l _ := by simp [find?_insert, find?_nil, clauseLabel]

theorem AtTop.insert (h : AtTop table) : InScript (table.insert clauseLabel scriptLabel .clause) where
  script l := by simpa [find?_insert, scriptLabel] using h.script l
  onlyClause l hl := by simpa [find?_insert, hl] using h.onlyClause l hl
  onlyCondition l hl := by
    simpa [find?_insert, clauseLabel, scriptLabel] using h.onlyCondition l hl
  clause := by simp [find?_insert]

theorem InScript.insert (h : InScript table) :
    InClause (table.insert conditionLabel clauseLabel .condition) where
  script l := by simpa [find?_insert, clauseLabel] using h.script l
  onlyClause l hl := by simpa [find?_insert, clauseLabel, scriptLabel] using h.onlyClause l hl
  onlyCondition l hl := by simpa [find?_insert, hl] using h.onlyCondition l hl
  clause := by simpa [find?_insert, clauseLabel, conditionLabel] using h.clause
  condition := by simp [find?_insert]

theorem InScript.find? (h : InScript table) (l : String) :
    table.find? l scriptLabel = if l = clauseLabel then some .clause else none := by
  split
  · rename_i hl
    exact hl ▸ h.clause
  · rename_i hl
    exact h.onlyClause l hl

theorem InClause.find? (h : InClause table) (l : String) :
    table.find? l clauseLabel = if l = conditionLabel then some .condition else none := by
  split
  · rename_i hl
    exact hl ▸ h.condition
  · rename_i hl
    exact h.onlyCondition l hl

end ParserTable

/-! ## The parsers -/

variable {registry : Registry} {labels : LabelTable}

theorem run_parseCondition (info : ChunkInfo) (clause : Clause) (r : Reader ParserName) :
    (parseCondition registry info (.clause clause)).run (scriptParsers registry) r =
      match (Condition.read registry info.version).run.run (scriptParsers registry) r with
      | (.ok c, r) => ((.ok (), .clause ⟨clause.conditions ++ [c]⟩), r)
      | (.error e, r) => ((.error e, .clause clause), r) := by
  refine (Program.run_bind _ _ _ _).trans ?_
  generalize Program.run _ _ r = out
  obtain ⟨_ | _, _⟩ := out <;> rfl

theorem parseCondition_adds (registry : Registry) (labels : LabelTable)
    (P : ParserTable ParserName → Prop) :
    Parser.Adds (scriptParsers registry) P labels conditionLabel .condition
      (decodeCondition registry) fun found => .clause ⟨found⟩ := by
  intro info found r _ hr
  have hread := Condition.read_follows (κ := ParserName) (τ := Target) registry info.version
  constructor
  · intro c hc
    obtain ⟨rest, hd⟩ := decodeCondition_eq_ok_iff.1 hc
    refine ⟨{ r with unread := rest }, (run_parseCondition info ⟨found⟩ r).trans ?_, hr.returns rest⟩
    rw [hread.ok hd]
  · intro e he
    obtain ⟨rest, hrun⟩ := hread.error (decodeCondition_eq_error_iff.1 he)
    refine ⟨{ r with unread := rest }, (run_parseCondition info ⟨found⟩ r).trans ?_⟩
    rw [hrun]

theorem run_parseClause (info : ChunkInfo) (script : Script) (r : Reader ParserName) :
    (parseClause info (.script script)).run (scriptParsers registry) r =
      match (r.register conditionLabel info.label .condition).parse (scriptParsers registry)
        (.clause ⟨[]⟩) with
      | ((.ok (), filled), r) =>
        ((.ok (), .script (script.mapClauses (· ++ filled.clause?.toList))), r)
      | ((.error e, _), r) => ((.error e, .script script), r) := by
  refine (Program.run_ofCall_bind _ (.register ..) _ _).trans
    ((Program.run_ofCall_bind _ (.parse _) _ _).trans ?_)
  simp only [Call.answer]
  generalize Reader.parse _ _ _ = out
  obtain ⟨⟨_ | _, _⟩, _⟩ := out <;> rfl

/-- The parser of clauses adds clauses wherever conditions are the only chunks in a clause that have
a parser once theirs is registered: `P` is what is known of the table outside, `Q` inside. -/
theorem parseClause_adds (registry : Registry) (labels : LabelTable) (header : Script)
    {P Q : ParserTable ParserName → Prop}
    (henter : ∀ table, P table → Q (table.insert conditionLabel clauseLabel .condition))
    (hleave : ∀ table, Q table → P table)
    (hfind : ∀ table, Q table → ∀ l,
      table.find? l clauseLabel = if l = conditionLabel then some .condition else none) :
    Parser.Adds (scriptParsers registry) P labels clauseLabel .clause
      (fun _ => decodeClause registry labels)
      fun found => .script { header with trigger := ⟨found⟩ } := by
  intro info found r hlabel hr
  -- The parser for conditions is registered under the label of this very chunk.
  have hinside : (r.register conditionLabel info.label .condition).Scope Q labels clauseLabel :=
    ⟨hr.labels, hr.enclosing, hlabel ▸ henter _ hr.parsers⟩
  obtain ⟨hok, herror⟩ := Reader.parse_of_decodeAllChunks hfind
    (parseCondition_adds registry labels Q) hinside rfl
  constructor
  · intro clause hclause
    obtain ⟨conditions, hc, hpure⟩ := except_bind_eq_ok_iff.1 hclause
    cases hpure
    obtain ⟨r', hrun, hr'⟩ := hok conditions hc
    refine ⟨r', (run_parseClause info _ r).trans ?_, hr'.labels, hr'.chunks,
      hleave _ hr'.parsers⟩
    rw [hrun]
    rfl
  · intro e he
    obtain he | ⟨_, _, hpure⟩ := except_bind_eq_error_iff.1 he
    · obtain ⟨_, r', hrun⟩ := herror e he
      refine ⟨r', (run_parseClause info _ r).trans ?_⟩
      rw [hrun]
    · cases hpure

theorem run_parseScript (info : ChunkInfo) (found : List Script) (r : Reader ParserName) :
    (parseScript info (.scripts found)).run (scriptParsers registry) r =
      match Script.readHeader.run.run (scriptParsers registry) r with
      | (.error e, r) => ((.error e, .scripts found), r)
      | (.ok header, r) =>
        match (r.register clauseLabel info.label .clause).parse (scriptParsers registry)
          (.script header) with
        | ((.ok (), filled), r) => ((.ok (), .scripts (found ++ filled.script?.toList)), r)
        | ((.error e, _), r) => ((.error e, .scripts found), r) := by
  refine (Program.run_bind _ _ _ _).trans ?_
  generalize Program.run _ _ r = out
  obtain ⟨_ | header, r₁⟩ := out
  · rfl
  · refine (Program.run_ofCall_bind _ (.register ..) _ _).trans
      ((Program.run_ofCall_bind _ (.parse _) _ _).trans ?_)
    simp only [Call.answer]
    generalize Reader.parse _ _ _ = out
    obtain ⟨⟨_ | _, _⟩, _⟩ := out <;> rfl

theorem parseScript_adds (registry : Registry) (labels : LabelTable) :
    Parser.Adds (scriptParsers registry) ParserTable.AtTop labels scriptLabel .script
      (fun _ => decodeScript registry labels) .scripts := by
  intro info found r hlabel hr
  have hread := Script.readHeader_follows (κ := ParserName) (τ := Target)
  have hinside (rest : List UInt8) :
      ({ r with unread := rest }.register clauseLabel info.label .clause).Scope
        ParserTable.InScript labels scriptLabel :=
    ⟨hr.labels, hr.enclosing, hlabel ▸ hr.parsers.insert⟩
  have hparse {header : Script} {rest : List UInt8}
      (hh : Script.decodeHeader.run r.unread = .ok (header, rest)) :=
    have htarget : Target.script header = .script { header with trigger := ⟨[]⟩ } := by
      rw [← Trigger.empty, ← (Script.decodeHeader_eq_ok hh).2.2]
    Reader.parse_of_decodeAllChunks (fun _ h => ParserTable.InScript.find? h)
      (parseClause_adds registry labels header (fun _ => ParserTable.InScript.insert)
        (fun _ h => h.toInScript) fun _ h => ParserTable.InClause.find? h)
      (hinside rest) htarget
  constructor
  · intro script hscript
    obtain ⟨⟨header, rest⟩, hh, hscript⟩ := except_bind_eq_ok_iff.1 hscript
    obtain ⟨clauses, hc, hpure⟩ := except_bind_eq_ok_iff.1 hscript
    cases hpure
    obtain ⟨r', hrun, hr'⟩ := (hparse hh).1 clauses hc
    refine ⟨r', (run_parseScript info _ r).trans ?_, hr'.labels, hr'.chunks, hr'.parsers.toAtTop⟩
    rw [hread.ok hh]
    simp only [hrun]
    rfl
  · intro e he
    obtain he | ⟨⟨header, rest⟩, hh, he⟩ := except_bind_eq_error_iff.1 he
    · obtain ⟨rest, hrun⟩ := hread.error he
      refine ⟨{ r with unread := rest }, (run_parseScript info _ r).trans ?_⟩
      rw [hrun]
    obtain he | ⟨_, _, hpure⟩ := except_bind_eq_error_iff.1 he
    · obtain ⟨_, r', hrun⟩ := (hparse hh).2 e he
      refine ⟨r', (run_parseScript info _ r).trans ?_⟩
      rw [hread.ok hh]
      simp only [hrun]
    · cases hpure

/-! ## Whole files -/

variable {bytes : List UInt8}

theorem loadScripts_of_error {e : ChunkError}
    (h : (Reader.ofBytes bytes : Except ChunkError (Reader ParserName)) = .error e) :
    loadScripts registry bytes = .error e := by
  rw [loadScripts, openScripts, h]
  rfl

/-- Once a file is open, what is loaded depends on its label table and the bytes after that only. -/
theorem loadScripts_of_ok {body : List UInt8}
    (h : Reader.ofBytes bytes = .ok (⟨labels, [], body, []⟩ : Reader ParserName)) :
    loadScripts registry bytes =
      decodeAllChunks labels scriptLabel (fun _ => decodeScript registry labels) body := by
  let r : Reader ParserName := ⟨labels, ParserTable.insert [] scriptLabel "" .script, body, []⟩
  have hopen : openScripts bytes = .ok r := by
    rw [openScripts, h]
    rfl
  have hr : r.Scope ParserTable.AtTop labels "" := ⟨rfl, rfl, ParserTable.atTop_insert_nil⟩
  obtain ⟨hok, herror⟩ := Reader.parse_of_decodeAllChunks (fun _ h => h.script)
    (parseScript_adds registry labels) hr rfl
  rw [loadScripts, hopen, except_ok_bind]
  cases hd : decodeAllChunks labels scriptLabel (fun _ => decodeScript registry labels) body with
  | ok scripts =>
      obtain ⟨r', hrun, -⟩ := hok scripts hd
      rw [hrun]
      rfl
  | error e =>
      obtain ⟨_, r', hrun⟩ := herror e hd
      rw [hrun]

/-- Loading and decoding agree on every file, on the scripts and on the error. -/
theorem loadScripts_eq_decodeScripts (registry : Registry) (bytes : List UInt8) :
    loadScripts registry bytes = decodeScripts registry bytes := by
  have hopen := Reader.ofBytes_eq (κ := ParserName) bytes
  rw [decodeScripts]
  split
  · rename_i hmagic
    rw [if_pos hmagic] at hopen
    cases ht : LabelTable.take? (bytes.drop magic.length) with
    | none => exact loadScripts_of_error (by rw [hopen, ht])
    | some out => exact loadScripts_of_ok (by rw [hopen, ht])
  · rename_i hmagic
    exact loadScripts_of_error (hopen.trans (if_neg hmagic))

end TriggerScript
