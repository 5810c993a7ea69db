import TriggerScript.Proofs.Chunk.Handing
import TriggerScript.Proofs.ScriptFile.Effort

/-!
# How loading fails

Loading can fail by the format of a file only. No read reaches past the end of the bytes: it has
been stopped by the end of the innermost open chunk before. No parser is handed the target of
another one: each stands in the table under the labels of the one scope where its own target is
filled, and a parser that stays registered after its chunk stands there still.
-/

namespace TriggerScript

variable {κ τ α β : Type}

/-! ## Errors of the format -/

/-- Something is wrong with the bytes themselves. The other errors come from getting hold of them,
and from what they are read into. -/
def ChunkError.isFormat : ChunkError → Bool
  | .badMagic | .malformed _ | .unknownLabel _ | .unknownConditionType _
  | .unknownParameterKind _ => true
  | .unreadable _ | .unexpectedTarget _ => false

def FailsByFormat (result : Except ChunkError α) : Prop :=
  ∀ e, result = .error e → e.isFormat = true

theorem failsByFormat_ok (a : α) : FailsByFormat (.ok a) := nofun

theorem failsByFormat_error {e : ChunkError} (h : e.isFormat = true) :
    FailsByFormat (.error e : Except ChunkError α) := by
  rintro _ ⟨⟩
  exact h

theorem FailsByFormat.bind {x : Except ChunkError α} {f : α → Except ChunkError β}
    (hx : FailsByFormat x) (hf : ∀ a, FailsByFormat (f a)) : FailsByFormat (x >>= f) := by
  intro e h
  obtain h | ⟨a, -, h⟩ := except_bind_eq_error_iff.1 h
  · exact hx e h
  · exact hf a e h

/-! ## Decoders -/

def SliceDecoder.FailsByFormat (d : SliceDecoder α) : Prop :=
  ∀ bytes, TriggerScript.FailsByFormat (d.run bytes)

namespace SliceDecoder.FailsByFormat

variable {d : SliceDecoder α}

theorem pure (a : α) : (Pure.pure a : SliceDecoder α).FailsByFormat :=
  fun bytes => failsByFormat_ok (a, bytes)

theorem throw {e : ChunkError} (h : e.isFormat = true) :
    (throwThe ChunkError e : SliceDecoder α).FailsByFormat :=
  fun _ => failsByFormat_error h

theorem bind {f : α → SliceDecoder β} (hd : d.FailsByFormat) (hf : ∀ a, (f a).FailsByFormat) :
    (d >>= f).FailsByFormat := by
  intro bytes
  rw [StateT.run_bind]
  exact (hd bytes).bind fun out => hf out.1 out.2

theorem ite {c : Prop} [Decidable c] {d' : SliceDecoder α} (hd : d.FailsByFormat)
    (hd' : d'.FailsByFormat) : (if c then d else d').FailsByFormat := by
  split
  · exact hd
  · exact hd'

theorem value (take? : List UInt8 → Option (α × List UInt8)) (field : Field) :
    (SliceDecoder.value take? field).FailsByFormat := by
  intro bytes
  cases ht : take? bytes with
  | none =>
      rw [run_value_error ht]
      exact failsByFormat_error rfl
  | some out =>
      rw [run_value ht]
      exact failsByFormat_ok out

theorem text : SliceDecoder.text.FailsByFormat :=
  .bind (.value _ _) fun _ => .bind (.value _ _) fun _ => .pure _

theorem count (n : ℕ) (hd : d.FailsByFormat) : (SliceDecoder.count n d).FailsByFormat := by
  induction n with
  | zero => exact .pure []
  | succ n ih => exact .bind hd fun a => .bind ih fun as => .pure (a :: as)

end SliceDecoder.FailsByFormat

theorem Parameter.failsByFormat_decode : decode.FailsByFormat := by
  refine .bind (.value _ _) fun code => ?_
  cases ParameterKind.ofCode? code with
  | none => exact .throw rfl
  | some kind =>
      refine .ite ?_ ?_
      · exact .bind (.value _ _) fun x => .bind (.value _ _) fun y => .bind (.value _ _) fun z =>
          .pure _
      · exact .bind (.value _ _) fun int => .bind (.value _ _) fun real => .bind .text fun text =>
          .pure _

theorem Condition.failsByFormat_decode (registry : Registry) (version : UInt16) :
    (decode registry version).FailsByFormat := by
  have htype : (decodeType registry version).FailsByFormat :=
    .bind (.value _ _) fun tag => .ite (.bind .text fun _ => .pure _) (.pure tag)
  have hparams : decodeParams.FailsByFormat :=
    .bind (.value _ _) fun count => .ite (.count _ Parameter.failsByFormat_decode) (.throw rfl)
  refine .bind htype fun type => ?_
  cases registry.template? type with
  | none => exact .throw rfl
  | some t => exact .ite (.throw rfl) (.bind hparams fun found => .pure _)

theorem Script.failsByFormat_decodeHeader : decodeHeader.FailsByFormat :=
  .bind .text fun _ => .bind .text fun _ => .bind (.value _ _) fun _ => .bind (.value _ _) fun _ =>
    .bind (.value _ _) fun _ => .pure _

/-! ## Files -/

theorem failsByFormat_takeChunk (labels : LabelTable) (bytes : List UInt8) :
    FailsByFormat (takeChunk labels bytes) := by
  unfold takeChunk
  split
  · exact failsByFormat_error rfl
  · split
    · exact failsByFormat_error rfl
    · split
      · exact failsByFormat_error rfl
      · split
        · exact failsByFormat_error rfl
        · exact failsByFormat_ok _

/-- Decoding by chunks fails where the header of a chunk or what it holds is refused. -/
theorem failsByFormat_decodeAllChunks (labels : LabelTable) (label : String)
    {decode : UInt16 → List UInt8 → Except ChunkError α}
    (hd : ∀ version body, FailsByFormat (decode version body)) (bytes : List UInt8) :
    FailsByFormat (decodeAllChunks labels label decode bytes) := by
  intro e h
  have hresult : decodeChunks labels label decode bytes = (_, .error e) :=
    Prod.ext rfl (decodeAllChunks_eq_error_iff.1 h)
  obtain ⟨before, rest, -, -, -, htake | ⟨chunk, after, -, -, hdecode⟩⟩ :=
    decodeChunks_eq_iff.1 hresult
  · exact failsByFormat_takeChunk labels rest e htake
  · exact hd _ _ e hdecode

theorem failsByFormat_decodeScripts (registry : Registry) (bytes : List UInt8) :
    FailsByFormat (decodeScripts registry bytes) := by
  have hcondition (version : UInt16) (body : List UInt8) :
      FailsByFormat (decodeCondition registry version body) := fun e he =>
    Condition.failsByFormat_decode registry version body e (decodeCondition_eq_error_iff.1 he)
  have hclause (labels : LabelTable) (body : List UInt8) :
      FailsByFormat (decodeClause registry labels body) :=
    (failsByFormat_decodeAllChunks _ _ hcondition body).bind fun _ => failsByFormat_ok _
  have hscript (labels : LabelTable) (body : List UInt8) :
      FailsByFormat (decodeScript registry labels body) :=
    (Script.failsByFormat_decodeHeader body).bind fun out =>
      (failsByFormat_decodeAllChunks _ _ (fun _ => hclause labels) out.2).bind fun _ =>
        failsByFormat_ok _
  rw [decodeScripts]
  split
  · split
    · exact failsByFormat_error rfl
    · exact failsByFormat_decodeAllChunks _ _ (fun _ => hscript _) _
  · exact failsByFormat_error rfl

/-! ## Reads -/

/-- No read from here, nor that of a header, reaches past the end of the file: one that fails has
been stopped by the end of the innermost open chunk. -/
structure Cursor.Guarded (c : Cursor κ) : Prop where
  byte : FailsByFormat c.readByte.1
  int : FailsByFormat c.readInt.1
  real : FailsByFormat c.readReal.1
  text : FailsByFormat c.readText.1
  chunk : FailsByFormat c.openChunk.1

namespace Reader

variable {r : Reader κ}

theorem failsByFormat_readWith (take? : List UInt8 → Option (α × List UInt8)) (field : Field) :
    FailsByFormat (r.readWith take? field).1 := by
  unfold readWith
  split
  · exact failsByFormat_ok _
  · exact failsByFormat_error rfl

theorem failsByFormat_readText : FailsByFormat r.readText.1 := by
  have hlength := r.failsByFormat_readWith LittleEndian.takeUInt16? .textLength
  unfold readText
  split
  · rename_i length r₁ _
    have htext := r₁.failsByFormat_readWith (LittleEndian.takeBytes? length.toNat) .text
    split
    · exact failsByFormat_ok _
    · rename_i e _ hread
      exact failsByFormat_error (htext e (by rw [hread]))
  · rename_i e _ hread
    exact failsByFormat_error (hlength e (by rw [hread]))

theorem failsByFormat_openChunk : FailsByFormat r.openChunk.1 := by
  cases ht : takeChunk r.labels r.unread with
  | error e =>
      obtain ⟨unread, ho⟩ := openChunk_of_refused ht
      rw [ho]
      exact failsByFormat_error (failsByFormat_takeChunk _ _ e ht)
  | ok out =>
      rw [openChunk_of_takeChunk ht]
      exact failsByFormat_ok _

end Reader

theorem Cursor.Mirrors.failsByFormat {c : Cursor κ} {out : Except ChunkError α × Cursor κ}
    {out' : Except ChunkError α × Reader κ} (h : c.Mirrors out out') (hr : FailsByFormat out'.1) :
    FailsByFormat out.1 := by
  rwa [h.eq] at hr

/-- The reader behind a sound cursor has no bytes outside the innermost chunk to read. -/
theorem Cursor.Sound.guarded {c : Cursor κ} (h : c.Sound) : c.Guarded where
  byte := h.readByte.failsByFormat (Reader.failsByFormat_readWith _ _)
  int := h.readInt.failsByFormat (Reader.failsByFormat_readWith _ _)
  real := h.readReal.failsByFormat (Reader.failsByFormat_readWith _ _)
  text := h.readText.failsByFormat Reader.failsByFormat_readText
  chunk := h.openChunk.failsByFormat Reader.failsByFormat_openChunk

/-! ## The parsers of script files -/

/-- The sort of target that a parser is for. -/
def ParserName.targetKind : ParserName → TargetKind
  | .script => .scripts
  | .clause => .script
  | .condition => .clause
  | .trace => .trace

/-- Any other target is refused without a look at the chunk. -/
theorem scriptParsers_of_kind_ne {registry : Registry} {k : ParserName} {target : Target}
    (info : ChunkInfo) (h : target.kind ≠ k.targetKind) :
    scriptParsers registry k info target =
      .done (.error (.unexpectedTarget k.targetKind), target) := by
  cases k <;> cases target <;> first | rfl | exact absurd rfl h

/-- The parser is for the target. -/
def ParserName.Fits (k : ParserName) (target : Target) : Prop := target.kind = k.targetKind

section Orderly

variable {registry : Registry} {labels : LabelTable}

theorem Parameter.quiet_read : (read : Reading κ τ Parameter).Quiet := by
  refine .bind .int fun code => ?_
  cases ParameterKind.ofCode? code with
  | none => exact .throw _
  | some kind =>
      refine .ite ?_ ?_
      · exact .bind .real fun x => .bind .real fun y => .bind .real fun z => .pure _
      · exact .bind .int fun int => .bind .real fun real => .bind .text fun text => .pure _

theorem Condition.quiet_read (version : UInt16) :
    (read registry version : Reading κ τ Condition).Quiet := by
  have htype : (readType registry version : Reading κ τ Int32).Quiet :=
    .bind .int fun tag => .ite (.bind .text fun _ => .pure _) (.pure tag)
  have hparams : (readParams : Reading κ τ (List Parameter)).Quiet :=
    .bind .int fun count => .ite (.count _ Parameter.quiet_read) (.throw _)
  refine .bind htype fun type => ?_
  cases ofType registry type with
  | error e => exact .throw _
  | ok c => exact .map _ hparams

theorem Script.quiet_readHeader : (readHeader : Reading κ τ Script).Quiet :=
  .bind .text fun _ => .bind .text fun _ => .bind .byte fun _ => .bind .byte fun _ =>
    .bind .byte fun _ => .pure _

theorem parseCondition_orderly (P : ParserTable ParserName → Prop) :
    Parser.Orderly (scriptParsers registry) ParserName.Fits P labels conditionLabel .condition
      fun found => .clause ⟨found⟩ := by
  intro info found c _ _ _
  refine Moment.orderly_of_quiet ?_ c
  refine Program.Quiet.bind (Condition.quiet_read info.version) fun result => ?_
  cases result <;> exact trivial

theorem parseClause_orderly (header : Script) {P Q : ParserTable ParserName → Prop}
    (henter : ∀ table, P table → Q (table.insert conditionLabel clauseLabel .condition))
    (hfind : ∀ table, Q table → ∀ l,
      table.find? l clauseLabel = if l = conditionLabel then some .condition else none) :
    Parser.Orderly (scriptParsers registry) ParserName.Fits P labels clauseLabel .clause
      fun found => .script { header with trigger := ⟨found⟩ } := by
  intro info found c hlabel h hr
  have hinside : (c.register conditionLabel info.label .condition).reader.Scope Q labels
      clauseLabel :=
    ⟨hr.labels, hr.enclosing, hlabel ▸ henter _ hr.parsers⟩
  refine .of_later rfl ?_
  refine Moment.Orderly.andThen (m := ⟨Moment.dispatch (Target.clause ⟨[]⟩), _⟩)
    (Moment.orderly_dispatch hfind (parseCondition_adds registry labels Q)
      (parseCondition_orderly Q) (fun _ => rfl) [] (h.register _ _ _).advances.sound hinside)
    fun n result c' _ => ?_
  obtain ⟨_ | _, _⟩ := result <;> exact Moment.orderly_done _ _

theorem parseScript_orderly :
    Parser.Orderly (scriptParsers registry) ParserName.Fits ParserTable.AtTop labels scriptLabel
      .script .scripts := by
  intro info found c hlabel h hr
  -- The header is read by calls that leave the table and the scope as they are.
  refine Moment.Orderly.andThen (m := ⟨Script.readHeader.run, c⟩)
    (Moment.orderly_of_quiet Script.quiet_readHeader c) fun n result c' hdone => ?_
  obtain ⟨hadvances, houtcome⟩ :=
    Moment.leads_iterate (scriptParsers registry) (m := ⟨Script.readHeader.run, c⟩) h n
  rw [hdone] at hadvances houtcome
  cases hd : Script.decodeHeader.run c.reader.unread with
  | error e =>
      obtain ⟨rest, hrun⟩ :
          ∃ rest, Program.run (scriptParsers registry) Script.readHeader.run c.reader =
            (.error e, { c.reader with unread := rest }) := Script.readHeader_follows.error hd
      obtain ⟨rfl, -⟩ := Prod.mk.inj (houtcome.trans hrun)
      exact Moment.orderly_done _ _
  | ok out =>
      obtain ⟨header, rest⟩ := out
      have hrun : Program.run (scriptParsers registry) Script.readHeader.run c.reader =
          (.ok header, { c.reader with unread := rest }) := Script.readHeader_follows.ok hd
      obtain ⟨rfl, hc'⟩ := Prod.mk.inj (houtcome.trans hrun)
      have hinside : (c'.register clauseLabel info.label .clause).reader.Scope ParserTable.InScript
          labels scriptLabel := by
        change (c'.reader.register clauseLabel info.label .clause).Scope _ _ _
        rw [hc']
        exact ⟨hr.labels, hr.enclosing, hlabel ▸ hr.parsers.insert⟩
      have hheader : Target.script header = .script { header with trigger := ⟨[]⟩ } := by
        rw [← Trigger.empty, ← (Script.decodeHeader_eq_ok hd).2.2]
      refine .of_later rfl ?_
      refine Moment.Orderly.andThen (m := ⟨Moment.dispatch (Target.script header), _⟩) ?_
        fun n result c' _ => ?_
      · rw [hheader]
        exact Moment.orderly_dispatch (fun _ h => ParserTable.InScript.find? h)
          (parseClause_adds registry labels header (fun _ => ParserTable.InScript.insert)
            (fun _ h => h.toInScript) fun _ h => ParserTable.InClause.find? h)
          (parseClause_orderly header (fun _ => ParserTable.InScript.insert)
            fun _ h => ParserTable.InClause.find? h)
          (fun _ => rfl) [] (hadvances.sound.register _ _ _).advances.sound hinside
      · obtain ⟨_ | _, _⟩ := result <;> exact Moment.orderly_done _ _

theorem loadingSession_orderly {c : Cursor ParserName} {unread : List UInt8} (h : c.Sound)
    (hc : c.reader = ⟨labels, [], unread, []⟩) :
    Moment.Orderly (scriptParsers registry) ParserName.Fits ⟨loadingSession, c⟩ := by
  have hinside : (c.register scriptLabel "" .script).reader.Scope ParserTable.AtTop labels "" := by
    change (c.reader.register scriptLabel "" .script).Scope _ _ _
    rw [hc]
    exact ⟨rfl, rfl, ParserTable.atTop_insert_nil⟩
  exact .of_later rfl (Moment.orderly_dispatch (fun _ h => h.script)
    (parseScript_adds registry labels) parseScript_orderly (fun _ => rfl) []
    (h.register _ _ _).advances.sound hinside)

end Orderly

/-! ## Loading -/

/-- Loading ends with scripts or with an error of the format. On a file that can be opened it is a
session that comes to its end step by step. At each moment on the way nothing that could be read
reaches past the end of the file, and a parser that is handed a chunk is handed a target of its
own. -/
theorem loadScripts_failsByFormat (registry : Registry) (bytes : List UInt8) :
    FailsByFormat (loadScripts registry bytes) ∧
    ∀ r : Reader ParserName, Reader.ofBytes bytes = .ok r →
      ∃ start : Cursor ParserName, Cursor.ofBytes bytes = .ok start ∧ start.reader = r ∧
        (∃ n result c, (Moment.next (scriptParsers registry))^[n] ⟨loadingSession, start⟩ =
          ⟨.done result, c⟩ ∧ loadScripts registry bytes = scriptsLoaded result) ∧
        ∀ n, let m := (Moment.next (scriptParsers registry))^[n] ⟨loadingSession, start⟩
          m.cursor.Guarded ∧
            ∀ k target, m.handed? = some (k, target) → target.kind = k.targetKind := by
  constructor
  · rw [loadScripts_eq_decodeScripts]
    exact failsByFormat_decodeScripts registry bytes
  · intro r h
    obtain ⟨start, hstart, rfl, -, hsound⟩ := Cursor.ofBytes_of_reader h
    obtain ⟨labels, unread, hr⟩ := Reader.eq_of_ofBytes h
    obtain ⟨n, c, hn, -⟩ :=
      @Moment.exists_done _ _ _ (scriptParsers registry) ⟨loadingSession, start⟩ hsound
    exact ⟨start, hstart, rfl, ⟨n, _, c, hn, loadScripts_eq_loadingSession h⟩, fun n =>
      ⟨(Moment.leads_iterate (scriptParsers registry) hsound n).advances.sound.guarded,
        loadingSession_orderly hsound hr n⟩⟩

/-- A script with one condition, of a type that no registry need know. -/
def orphan : List UInt8 :=
  magic ++ [3, 0, 0, 0] ++ [6, 83, 99, 114, 105, 112, 116, 1, 0, 0, 0] ++
    [11, 79, 114, 67, 111, 110, 100, 105, 116, 105, 111, 110, 2, 0, 0, 0] ++
    [9, 67, 111, 110, 100, 105, 116, 105, 111, 110, 3, 0, 0, 0] ++
    [1, 0, 0, 0, 1, 0, 31, 0, 0, 0] ++ [0, 0, 0, 0, 1, 1, 0] ++
    [2, 0, 0, 0, 1, 0, 14, 0, 0, 0] ++ [3, 0, 0, 0, 1, 0, 4, 0, 0, 0] ++ [5, 0, 0, 0]

theorem orphan_fails : ∃ start : Cursor ParserName,
    Cursor.ofBytes orphan = .ok start ∧
      loadScripts .empty orphan = .error (.unknownConditionType 5) ∧
      (ChunkError.unknownConditionType 5).isFormat = true ∧
      ((Moment.next (scriptParsers .empty))^[10] ⟨loadingSession, start⟩).handed? =
        some (.condition, .clause ⟨[]⟩) ∧
      (Target.clause ⟨[]⟩).kind = ParserName.condition.targetKind := by
  have hr : Reader.ofBytes orphan =
      .ok (⟨[(3, "Condition"), (2, "OrCondition"), (1, "Script")], [], orphan.drop 49, []⟩ :
        Reader ParserName) := rfl
  obtain ⟨hformat, hall⟩ := loadScripts_failsByFormat .empty orphan
  obtain ⟨start, hstart, hreader, -, hmoments⟩ := hall _ hr
  obtain ⟨_, hstart', -, -, hsound⟩ := Cursor.ofBytes_of_reader hr
  cases hstart'.symm.trans hstart
  have hload : loadScripts .empty orphan = .error (.unknownConditionType 5) := by
    have hlast := (Moment.leads_iterate (scriptParsers .empty) (m := ⟨loadingSession, start⟩)
      hsound 12).outcome
    rw [loadScripts_eq_loadingSession hr, ← hreader]
    refine (congrArg (fun out => scriptsLoaded out.1) hlast).symm.trans ?_
    cases hstart
    rfl
  have hhanded : ((Moment.next (scriptParsers .empty))^[10] ⟨loadingSession, start⟩).handed? =
      some (.condition, .clause ⟨[]⟩) := by
    cases hstart
    rfl
  exact ⟨start, hstart, hload, hformat _ hload, hhanded, (hmoments 10).2 _ _ hhanded⟩

end TriggerScript
