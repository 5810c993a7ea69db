import TriggerScript.ScriptFile.Save
import TriggerScript.Proofs.Chunk.LabelTable
import TriggerScript.Proofs.ScriptFile.Loading

/-!
# Loading what was saved

Scripts that were saved with one registry and are loaded with another come back as they were, but
for what storing does not keep and for the types, which go by name where they can. The two
registries need not agree on anything, and their lookups need not fit together.
-/

namespace TriggerScript

open LittleEndian

/-! ## What comes back -/

/-- No condition has more parameters than a file can hold for it. -/
def Clause.InBounds (c : Clause) : Prop :=
  ∀ condition ∈ c.conditions, condition.params.length ≤ maxParameters

def Script.InBounds (s : Script) : Prop := ∀ clause ∈ s.trigger.clauses, clause.InBounds

instance (c : Clause) : Decidable c.InBounds :=
  inferInstanceAs (Decidable (∀ condition ∈ c.conditions, condition.params.length ≤ maxParameters))

instance (s : Script) : Decidable s.InBounds :=
  inferInstanceAs (Decidable (∀ clause ∈ s.trigger.clauses, clause.InBounds))

/-- A parameter that comes back for one that was stored: its coordinate or its other values. -/
def Parameter.kept (p : Parameter) : Parameter :=
  if p.kind = .coord3d then ofCoord p.coord
  else { ofKind p.kind with int := p.int, real := p.real, text := StoredText.kept p.text }

section Registries

variable (saving loading : Registry)

def Registry.savedName (tag : Int32) : String := (saving.typeName? tag).getD ""

/-- The condition that comes back for one that was saved. -/
def Condition.reloaded (c : Condition) : Except ChunkError Condition :=
  let type := typeMeant loading c.type (StoredText.kept (saving.savedName c.type))
  match loading.template? type with
  | none => .error (.unknownConditionType type)
  | some t =>
    if t.shape.length > maxParameters then
      .error (.malformed (.oversizedShape t.name t.shape.length))
    else .ok (ofFound type t.shape (c.params.map Parameter.kept))

/-- The clause that comes back, or the error for the first condition that does not. -/
def Clause.reloaded (c : Clause) : Except ChunkError Clause := do
  let conditions ← c.conditions.mapM (Condition.reloaded saving loading)
  return ⟨conditions⟩

def Script.reloaded (s : Script) : Except ChunkError Script := do
  let clauses ← s.trigger.clauses.mapM (Clause.reloaded saving loading)
  return { s with
    name := StoredText.kept s.name
    comment := StoredText.kept s.comment
    trigger := ⟨clauses⟩ }

end Registries

/-! ## The bytes of a saved script -/

def Parameter.bytes (p : Parameter) : List UInt8 :=
  if p.kind = .coord3d then
    ofInt32 p.kind.code ++ p.coord.x.toBytes ++ p.coord.y.toBytes ++ p.coord.z.toBytes
  else ofInt32 p.kind.code ++ ofInt32 p.int ++ p.real.toBytes ++ StoredText.encode p.text

section Bytes

variable (id : String → UInt32) (saving : Registry)

def Condition.body (c : Condition) : List UInt8 :=
  ofInt32 c.type ++ StoredText.encode (saving.savedName c.type) ++
    ofInt32 (Int32.ofNat c.params.length) ++ c.params.flatMap Parameter.bytes

def Clause.body (c : Clause) : List UInt8 :=
  c.conditions.flatMap fun c =>
    chunkBytes (id conditionLabel) Condition.namedVersion (c.body saving)

def Script.body (s : Script) : List UInt8 :=
  StoredText.encode s.name ++ StoredText.encode s.comment ++ [flagByte s.active] ++
    [flagByte s.oneShot] ++ [flagByte s.subroutine] ++
    s.trigger.clauses.flatMap fun c => chunkBytes (id clauseLabel) 1 (c.body id saving)

theorem Parameter.events_writes (p : Parameter) : Writes id p.events p.bytes := by
  unfold Parameter.events Parameter.bytes
  split
  · exact (((Writes.int _).append (.real _)).append (.real _)).append (.real _)
  · exact (((Writes.int _).append (.int _)).append (.real _)).append (.text _)

theorem Condition.events_writes (c : Condition) :
    Writes id (c.events saving) (chunkBytes (id conditionLabel) namedVersion (c.body saving)) := by
  refine .chunk conditionLabel namedVersion (.append ?_ (.flatMap fun p _ => p.events_writes id))
  exact ((Writes.int _).append (.text _)).append (.int _)

theorem Clause.events_writes (c : Clause) :
    Writes id (c.events saving) (chunkBytes (id clauseLabel) 1 (c.body id saving)) :=
  .chunk clauseLabel 1 (.flatMap fun c _ => c.events_writes id saving)

theorem Script.events_writes (s : Script) :
    Writes id (s.events saving) (chunkBytes (id scriptLabel) 1 (s.body id saving)) := by
  refine .chunk scriptLabel 1 (.append ?_ (.flatMap fun c _ => c.events_writes id saving))
  exact ((((Writes.text _).append (.text _)).append (.byte _)).append (.byte _)).append (.byte _)

end Bytes

/-! ## Reading a saved script -/

open SliceDecoder in
theorem Parameter.run_decode (p : Parameter) (rest : List UInt8) :
    decode.run (p.bytes ++ rest) = .ok (p.kept, rest) := by
  have hcode := ParameterKind.ofCode?_code p.kind
  unfold bytes decode kept
  split
  · rename_i hkind
    simp only [List.append_assoc]
    rw [run_bind_ok _ (run_int _ _), hcode]
    simp only [if_pos hkind]
    rw [run_bind_ok _ (run_real _ _), run_bind_ok _ (run_real _ _), run_bind_ok _ (run_real _ _)]
    rfl
  · rename_i hkind
    simp only [List.append_assoc]
    rw [run_bind_ok _ (run_int _ _), hcode]
    simp only [if_neg hkind]
    rw [run_bind_ok _ (run_int _ _), run_bind_ok _ (run_real _ _), run_bind_ok _ (run_text _ _)]
    rfl

variable {id : String → UInt32} {saving loading : Registry} {labels : LabelTable}

open SliceDecoder in
theorem Condition.run_decodeParams {ps : List Parameter} (h : ps.length ≤ maxParameters)
    (rest : List UInt8) :
    decodeParams.run (ofInt32 (Int32.ofNat ps.length) ++ ps.flatMap Parameter.bytes ++ rest) =
      .ok (ps.map Parameter.kept, rest) := by
  have hcount : (Int32.ofNat ps.length).toInt = ps.length := by
    rw [Int32.toInt_ofNat_of_lt (by rw [maxParameters] at h; omega)]
  rw [decodeParams, List.append_assoc, run_bind_ok _ (run_int _ _), hcount,
    if_pos ⟨by omega, by omega⟩, Int.toNat_natCast]
  exact run_count (fun p _ => p.run_decode) rest

open SliceDecoder in
theorem decodeCondition_body {c : Condition} (h : c.params.length ≤ maxParameters) :
    decodeCondition loading Condition.namedVersion (c.body saving) = c.reloaded saving loading := by
  have hparams := Condition.run_decodeParams h []
  have htype (rest : List UInt8) :
      (Condition.decodeType loading Condition.namedVersion).run
          (ofInt32 c.type ++ (StoredText.encode (saving.savedName c.type) ++ rest)) =
        .ok (Condition.typeMeant loading c.type (StoredText.kept (saving.savedName c.type)), rest) := by
    rw [Condition.decodeType, run_bind_ok _ (run_int _ _), if_pos (by decide),
      run_bind_ok _ (run_text _ _)]
    rfl
  rw [List.append_nil] at hparams
  rw [decodeCondition, Condition.decode, Condition.body, List.append_assoc, List.append_assoc,
    run_bind_ok _ (htype _), Condition.reloaded]
  cases loading.template? (Condition.typeMeant loading c.type
      (StoredText.kept (saving.savedName c.type))) with
  | none => rfl
  | some t =>
      by_cases hs : t.shape.length > maxParameters
      · simp only [if_pos hs]
        rfl
      · simp only [if_neg hs]
        rw [run_bind_ok _ hparams]
        rfl

theorem length_le_flatMap {α : Type} {as : List α} {a : α} (f : α → List UInt8) (h : a ∈ as) :
    (f a).length ≤ (as.flatMap f).length := by
  rw [List.flatMap_def]
  exact (List.sublist_flatten_of_mem (List.mem_map_of_mem h)).length_le

theorem length_body_le {α : Type} {as : List α} {a : α} {f : α → List UInt8} {id : UInt32}
    {version : UInt16} (h : a ∈ as) :
    (f a).length ≤ (as.flatMap fun a => chunkBytes id version (f a)).length := by
  have := length_le_flatMap (fun a => chunkBytes id version (f a)) h
  rw [length_chunkBytes] at this
  omega

theorem Clause.events_subset {c : Clause} {condition : Condition} (h : condition ∈ c.conditions) :
    condition.events saving ⊆ c.events saving := by
  intro e he
  have hmem : e ∈ c.conditions.flatMap (Condition.events saving) :=
    List.mem_flatMap.2 ⟨condition, h, he⟩
  simp [events, chunkEvents, hmem]

theorem Script.events_subset {s : Script} {clause : Clause} (h : clause ∈ s.trigger.clauses) :
    clause.events saving ⊆ s.events saving := by
  intro e he
  have hmem : e ∈ s.trigger.clauses.flatMap (Clause.events saving) :=
    List.mem_flatMap.2 ⟨clause, h, he⟩
  simp [events, chunkEvents, hmem]

theorem decodeClause_body {c : Clause} (hl : labels.Covers id (c.events saving))
    (hs : (c.body id saving).length ≤ maxSize) (hp : c.InBounds) :
    decodeClause loading labels (c.body id saving) = c.reloaded saving loading := by
  have hlabel (condition : Condition) (h : condition ∈ c.conditions) :
      labels.label? (id conditionLabel) = some conditionLabel :=
    hl.mono (Clause.events_subset h) conditionLabel Condition.namedVersion List.mem_cons_self
  rw [decodeClause, Clause.reloaded, Clause.body, decodeAllChunks_flatMap hlabel
    (fun _ h => Nat.le_trans (length_body_le h) hs) fun _ h => decodeCondition_body (hp _ h)]

open SliceDecoder in
theorem Script.run_decodeHeader_bytes (name comment : String) (active oneShot subroutine : UInt8)
    (rest : List UInt8) :
    decodeHeader.run (StoredText.encode name ++ StoredText.encode comment ++ [active] ++ [oneShot] ++
        [subroutine] ++ rest) =
      .ok (⟨StoredText.kept name, StoredText.kept comment, active ≠ 0, oneShot ≠ 0, subroutine ≠ 0,
        .empty⟩, rest) := by
  simp only [List.append_assoc]
  rw [decodeHeader, run_bind_ok _ (run_text _ _), run_bind_ok _ (run_text _ _),
    run_bind_ok _ (run_byte _ _), run_bind_ok _ (run_byte _ _), run_bind_ok _ (run_byte _ _)]
  rfl

theorem Script.run_decodeHeader (s : Script) (rest : List UInt8) :
    decodeHeader.run (StoredText.encode s.name ++ StoredText.encode s.comment ++
        [flagByte s.active] ++ [flagByte s.oneShot] ++ [flagByte s.subroutine] ++ rest) =
      .ok (⟨StoredText.kept s.name, StoredText.kept s.comment, s.active, s.oneShot, s.subroutine,
        .empty⟩, rest) := by
  have hflag (b : Bool) : decide (flagByte b ≠ 0) = b := by cases b <;> rfl
  rw [run_decodeHeader_bytes, hflag, hflag, hflag]

theorem decodeScript_body {s : Script} (hl : labels.Covers id (s.events saving))
    (hs : (s.body id saving).length ≤ maxSize) (hp : s.InBounds) :
    decodeScript loading labels (s.body id saving) = s.reloaded saving loading := by
  have hlabel (clause : Clause) (h : clause ∈ s.trigger.clauses) :
      labels.label? (id clauseLabel) = some clauseLabel :=
    hl.mono (Script.events_subset h) clauseLabel 1 List.mem_cons_self
  have hbody : (s.trigger.clauses.flatMap fun c =>
      chunkBytes (id clauseLabel) 1 (c.body id saving)).length ≤ maxSize := by
    rw [Script.body, List.length_append] at hs
    omega
  have hsize (clause : Clause) (h : clause ∈ s.trigger.clauses) :
      (clause.body id saving).length ≤ maxSize :=
    Nat.le_trans (length_body_le h) hbody
  have hclause (clause : Clause) (h : clause ∈ s.trigger.clauses) :
      decodeClause loading labels (clause.body id saving) = clause.reloaded saving loading :=
    decodeClause_body (hl.mono (Script.events_subset h)) (hsize clause h) (hp clause h)
  have hclauses : decodeAllChunks labels clauseLabel (fun _ => decodeClause loading labels)
      (s.trigger.clauses.flatMap fun c => chunkBytes (id clauseLabel) 1 (c.body id saving)) =
        s.trigger.clauses.mapM (Clause.reloaded saving loading) :=
    decodeAllChunks_flatMap hlabel hsize hclause
  rw [decodeScript, Script.body, s.run_decodeHeader, Script.reloaded, ← hclauses]
  rfl

/-! ## Files of scripts -/

/-- The size of the content of the chunk that a script is saved in. Its header takes ten bytes. -/
def Script.bodySize (saving : Registry) (s : Script) : Nat :=
  (Writer.empty.run (s.events saving)).closeAll.content.size - 10

theorem Script.bodySize_eq (s : Script) (id : String → UInt32) (saving : Registry) :
    s.bodySize saving = (s.body id saving).length := by
  rw [bodySize, size_content, ← length_ahead id, (s.events_writes id saving).ahead_eq,
    length_chunkBytes, Nat.add_sub_cancel_left]

section Labels

variable {label : String} {version : UInt16}

theorem openChunk_mem_chunkEvents {l : String} {v : UInt16} {content : List Event} :
    .openChunk label version ∈ chunkEvents l v content ↔
      label = l ∧ version = v ∨ .openChunk label version ∈ content := by
  simp [chunkEvents]

theorem Parameter.openChunk_notMem (p : Parameter) : .openChunk label version ∉ p.events := by
  unfold events
  split <;> simp

theorem Condition.label_of_mem_events {c : Condition}
    (h : .openChunk label version ∈ c.events saving) : label = conditionLabel := by
  rw [events, openChunk_mem_chunkEvents] at h
  obtain ⟨rfl, -⟩ | h := h
  · rfl
  · obtain ⟨p, -, h⟩ := List.mem_flatMap.1 (by simpa using h)
    exact (p.openChunk_notMem h).elim

theorem Clause.label_of_mem_events {c : Clause} (h : .openChunk label version ∈ c.events saving) :
    label = clauseLabel ∨ label = conditionLabel := by
  rw [events, openChunk_mem_chunkEvents] at h
  obtain ⟨rfl, -⟩ | h := h
  · exact .inl rfl
  · obtain ⟨condition, -, h⟩ := List.mem_flatMap.1 h
    exact .inr (Condition.label_of_mem_events h)

theorem Script.label_of_mem_events {s : Script} (h : .openChunk label version ∈ s.events saving) :
    label ∈ [scriptLabel, clauseLabel, conditionLabel] := by
  rw [events, openChunk_mem_chunkEvents] at h
  obtain ⟨rfl, -⟩ | h := h
  · exact List.mem_cons_self
  · obtain ⟨clause, -, h⟩ := List.mem_flatMap.1 (by simpa using h)
    exact List.mem_cons_of_mem _ (by simpa using Clause.label_of_mem_events h)

end Labels

theorem length_internAll_saveScripts (saving : Registry) (scripts : List Script) :
    (internAll [] (scripts.flatMap (Script.events saving))).length ≤ maxSize := by
  have hsub : internAll [] (scripts.flatMap (Script.events saving)) ⊆
      [scriptLabel, clauseLabel, conditionLabel] := by
    refine internAll_subset (List.nil_subset _) fun label version h => ?_
    obtain ⟨s, -, h⟩ := List.mem_flatMap.1 h
    exact s.label_of_mem_events h
  have hlen := (nodup_internAll List.nodup_nil _).length_le_of_subset hsub
  exact Nat.le_trans hlen (by decide)

theorem decodeAllChunks_body {scripts : List Script}
    (hl : labels.Covers id (scripts.flatMap (Script.events saving)))
    (hp : ∀ s ∈ scripts, s.InBounds) (hs : ∀ s ∈ scripts, s.bodySize saving ≤ maxSize) :
    decodeAllChunks labels scriptLabel (fun _ => decodeScript loading labels)
        (scripts.flatMap fun s => chunkBytes (id scriptLabel) 1 (s.body id saving)) =
      scripts.mapM (Script.reloaded saving loading) := by
  have hsub (s : Script) (h : s ∈ scripts) :
      s.events saving ⊆ scripts.flatMap (Script.events saving) :=
    fun e he => List.mem_flatMap.2 ⟨s, h, he⟩
  have hsize (s : Script) (h : s ∈ scripts) : (s.body id saving).length ≤ maxSize :=
    s.bodySize_eq id saving ▸ hs s h
  exact decodeAllChunks_flatMap
    (fun s h => hl.mono (hsub s h) scriptLabel 1 List.mem_cons_self) hsize
    fun s h => decodeScript_body (hl.mono (hsub s h)) (hsize s h) (hp s h)

/-- A file of saved scripts can be opened, and what comes back is found in it. -/
theorem ofBytes_saveScripts (saving loading : Registry) {scripts : List Script}
    (hp : ∀ s ∈ scripts, s.InBounds) (hs : ∀ s ∈ scripts, s.bodySize saving ≤ maxSize) :
    ∃ labels body,
      Reader.ofBytes (saveScripts saving scripts) =
        .ok (⟨labels, [], body, []⟩ : Reader ParserName) ∧
      decodeAllChunks labels scriptLabel (fun _ => decodeScript loading labels) body =
        scripts.mapM (Script.reloaded saving loading) := by
  have hlen := length_internAll_saveScripts saving scripts
  refine ⟨_, _, ofBytes_writeFile hlen, ?_⟩
  rw [(Writes.flatMap fun s _ => s.events_writes _ saving).ahead_eq]
  exact decodeAllChunks_body (LabelTable.covers_entries hlen) hp hs

/-- Scripts that were saved with one registry and are loaded with another come back in their order,
each as `Script.reloaded` says. The first condition that cannot come back is the error. -/
theorem loadScripts_saveScripts (saving loading : Registry) (scripts : List Script)
    (hp : ∀ s ∈ scripts, s.InBounds) (hs : ∀ s ∈ scripts, s.bodySize saving ≤ 2147483647) :
    loadScripts loading (saveScripts saving scripts) =
      scripts.mapM (Script.reloaded saving loading) := by
  obtain ⟨labels, body, hopen, hfound⟩ := ofBytes_saveScripts saving loading hp hs
  rw [loadScripts_of_ok hopen, hfound]

namespace Renumbered

/-- A registry with a type that has another tag and a longer shape in `newer`. -/
def older : Registry := Registry.ofList [⟨1, "A", [.int]⟩]

def newer : Registry := Registry.ofList [⟨1, "B", []⟩, ⟨7, "A", [.coord3d, .int, .team]⟩]

def scripts : List Script :=
  [⟨"é→", "", true, false, true,
    ⟨[⟨[⟨1, [.ofInt .int 5, .ofText .int "x"], false, 3, 4⟩]⟩, ⟨[]⟩]⟩⟩]

def found : List Script :=
  [⟨"é?", "", true, false, true,
    ⟨[⟨[⟨7, [.ofInt .int 5, .ofText .int "x", .ofKind .team], true, 0, 0⟩]⟩, ⟨[]⟩]⟩⟩]

theorem loadScripts_saved : loadScripts newer (saveScripts older scripts) = .ok found := by
  rw [loadScripts_saveScripts _ _ _ (by decide) (by decide +kernel)]
  rfl

end Renumbered

end TriggerScript
