import TriggerScript.Proofs.Chunk.Pieces
import TriggerScript.Proofs.ScriptFile.Reload

/-!
# Foreign data in script files

A script file is read at three levels: the scripts of the file, the clauses of a script and the
conditions of a clause. Chunks of other labels are foreign at each of them, and so are bytes after
the last parameter of a condition. No foreign data shows in what is loaded, whatever it looks like.
-/

namespace TriggerScript

variable {α β : Type}

/-! ## Decoders that do not look ahead -/

/-- What the decoder finds in some bytes it finds in the same bytes with more after them. -/
def SliceDecoder.Stable (d : SliceDecoder α) : Prop :=
  ∀ bytes a rest, d.run bytes = .ok (a, rest) →
    ∀ extra, d.run (bytes ++ extra) = .ok (a, rest ++ extra)

namespace SliceDecoder

variable {d : SliceDecoder α}

theorem stable_pure (a : α) : (pure a : SliceDecoder α).Stable := by
  intro bytes a' rest h extra
  obtain ⟨rfl, rfl⟩ := run_pure_eq_ok_iff.1 h
  rfl

theorem stable_throw (e : ChunkError) : (throw e : SliceDecoder α).Stable :=
  fun _ _ _ h => nomatch h

theorem Stable.bind {f : α → SliceDecoder β} (hd : d.Stable) (hf : ∀ a, (f a).Stable) :
    (d >>= f).Stable := by
  intro bytes b rest h extra
  obtain ⟨a, mid, ha, hb⟩ := run_bind_eq_ok_iff.1 h
  exact run_bind_eq_ok_iff.2 ⟨a, mid ++ extra, hd _ _ _ ha extra, hf a _ _ _ hb extra⟩

theorem Stable.ite {c : Prop} [Decidable c] {d' : SliceDecoder α} (hd : d.Stable)
    (hd' : d'.Stable) : (if c then d else d').Stable := by
  split
  · exact hd
  · exact hd'

theorem stable_value {take? : List UInt8 → Option (α × List UInt8)} {encode : α → List UInt8}
    {width : Nat} (hw : LittleEndian.FixedWidth take? encode width) (field : Field) :
    (value take? field).Stable := by
  intro bytes a rest h extra
  obtain ⟨rfl, hlen⟩ := hw.take?_eq_some_iff.1 (take?_of_value h)
  exact run_value (hw.take?_eq_some_iff.2 ⟨List.append_assoc _ _ _, hlen⟩)

theorem stable_int : int.Stable := stable_value LittleEndian.fixedWidth_int32 .int

theorem stable_real : real.Stable := stable_value Single.fixedWidth .real

theorem stable_text : text.Stable :=
  .bind (stable_value LittleEndian.fixedWidth_uint16 .textLength) fun length =>
    .bind (stable_value (LittleEndian.fixedWidth_bytes length.toNat) .text) fun _ => stable_pure _

theorem Stable.count (hd : d.Stable) (n : Nat) : (count n d).Stable := by
  induction n with
  | zero => exact stable_pure []
  | succ n ih => exact hd.bind fun a => ih.bind fun as => stable_pure (a :: as)

end SliceDecoder

open SliceDecoder

theorem Parameter.stable_decode : decode.Stable := by
  refine stable_int.bind fun code => ?_
  cases ParameterKind.ofCode? code with
  | none => exact stable_throw _
  | some kind =>
      refine .ite ?_ ?_
      · exact stable_real.bind fun x => stable_real.bind fun y => stable_real.bind fun z =>
          stable_pure _
      · exact stable_int.bind fun int => stable_real.bind fun real => stable_text.bind fun text =>
          stable_pure _

namespace Condition

variable {registry : Registry} {version : UInt16}

theorem stable_decodeType : (decodeType registry version).Stable :=
  stable_int.bind fun tag => .ite (stable_text.bind fun _ => stable_pure _) (stable_pure tag)

theorem stable_decodeParams : decodeParams.Stable :=
  stable_int.bind fun _ => .ite (Parameter.stable_decode.count _) (stable_throw _)

theorem stable_decode : (decode registry version).Stable := by
  refine stable_decodeType.bind fun type => ?_
  cases registry.template? type with
  | none => exact stable_throw _
  | some t => exact .ite (stable_throw _) (stable_decodeParams.bind fun found => stable_pure _)

end Condition

/-! ## Files in pieces -/

/-- The chunks of a clause. Those of conditions hold bytes. -/
abbrev ClausePieces := List (Piece conditionLabel (List UInt8))

/-- What the chunk of a script holds: a header and chunks. -/
structure ScriptPieces where
  name : String
  comment : String
  active : UInt8
  oneShot : UInt8
  subroutine : UInt8
  clauses : List (Piece clauseLabel ClausePieces)

abbrev FilePieces := List (Piece scriptLabel ScriptPieces)

variable (registry : Registry)

namespace ClausePieces

def content : ClausePieces → Content := Piece.contents fun body => .data body .nil

def decoded (pieces : ClausePieces) : Except ChunkError Clause := do
  let conditions ← Piece.found (decodeCondition registry) pieces
  return ⟨conditions⟩

end ClausePieces

namespace ScriptPieces

def content (s : ScriptPieces) : Content :=
  .data (StoredText.encode s.name ++ StoredText.encode s.comment ++ [s.active] ++ [s.oneShot] ++
    [s.subroutine]) (Piece.contents ClausePieces.content s.clauses)

def decoded (s : ScriptPieces) : Except ChunkError Script := do
  let clauses ← Piece.found (fun _ => ClausePieces.decoded registry) s.clauses
  return ⟨StoredText.kept s.name, StoredText.kept s.comment, s.active ≠ 0, s.oneShot ≠ 0,
    s.subroutine ≠ 0, ⟨clauses⟩⟩

end ScriptPieces

def FilePieces.content : FilePieces → Content := Piece.contents ScriptPieces.content

/-! ## What is loaded from a file in pieces -/

variable {registry} {labels : LabelTable} {id : String → UInt32}

theorem ClausePieces.decodeClause_content {pieces : ClausePieces}
    (h : pieces.content.Legible labels id) :
    decodeClause registry labels (pieces.content.bytes id) = pieces.decoded registry := by
  have hbody (body : List UInt8) : (Content.data body .nil).bytes id = body := by
    rw [Content.bytes, Content.bytes, List.append_nil]
  rw [decodeClause, ClausePieces.decoded, content, Piece.decodeAllChunks_contents
    (fun _ => keptLabel_eq_iff (by decide) (by decide)) (fun _ body _ => by rw [hbody]) h]

theorem ScriptPieces.decodeScript_content {s : ScriptPieces} (h : s.content.Legible labels id) :
    decodeScript registry labels (s.content.bytes id) = s.decoded registry := by
  have hclauses : decodeAllChunks labels clauseLabel (fun _ => decodeClause registry labels)
      ((Piece.contents ClausePieces.content s.clauses).bytes id) =
        Piece.found (fun _ => ClausePieces.decoded registry) s.clauses :=
    Piece.decodeAllChunks_contents (fun _ => keptLabel_eq_iff (by decide) (by decide))
      (fun _ _ hclause => ClausePieces.decodeClause_content hclause) h.of_data
  rw [decodeScript, ScriptPieces.decoded, content, Content.bytes, Script.run_decodeHeader_bytes,
    ← hclauses]
  rfl

theorem FilePieces.loadScripts_content {file : FilePieces} (h : file.content.Storable) :
    loadScripts registry (writeFile file.content.events) =
      Piece.found (fun _ => ScriptPieces.decoded registry) file := by
  obtain ⟨labels, id, hlegible, hopen⟩ := h.ofBytes_writeFile
  rw [loadScripts_of_ok hopen]
  exact Piece.decodeAllChunks_contents (fun _ => keptLabel_eq_iff (by decide) (by decide))
    (fun _ _ hscript => ScriptPieces.decodeScript_content hscript) hlegible

/-! ## More foreign data -/

variable (registry)

/-- A condition is read from the content of its chunk. What comes after it is not looked at. -/
def Condition.ReadFrom (version : UInt16) (body : List UInt8) : Prop :=
  ∃ c r, Program.run (scriptParsers registry) (Condition.read registry version).run
    (⟨[], [], body, []⟩ : Reader ParserName) = (.ok c, r)

def Condition.Gains (version : UInt16) (body body' : List UInt8) : Prop :=
  ReadFrom registry version body ∧ body <+: body'

def ClausePieces.Gains : ClausePieces → ClausePieces → Prop :=
  Piece.Gains (Condition.Gains registry)

def ScriptPieces.Gains (s s' : ScriptPieces) : Prop :=
  ∃ clauses, s' = { s with clauses } ∧
    Piece.Gains (fun _ => ClausePieces.Gains registry) s.clauses clauses

/-- The second file is the first one with a foreign chunk more, at any place of the file, of a
script or of a clause, or with bytes after a condition that can be read. -/
def FilePieces.Gains : FilePieces → FilePieces → Prop :=
  Piece.Gains fun _ => ScriptPieces.Gains registry

variable {registry} {version : UInt16} {body body' : List UInt8}

theorem Condition.readFrom_iff :
    ReadFrom registry version body ↔ ∃ c, decodeCondition registry version body = .ok c := by
  have hread := read_follows (κ := ParserName) (τ := Target) registry version
  constructor
  · rintro ⟨c, r, hc⟩
    cases hd : decodeCondition registry version body with
    | ok c => exact ⟨c, rfl⟩
    | error e =>
        let r : Reader ParserName := ⟨[], [], body, []⟩
        obtain ⟨rest, he⟩ : ∃ rest, (read registry version).run.run (scriptParsers registry) r =
            (.error e, { r with unread := rest }) :=
          hread.error (decodeCondition_eq_error_iff.1 hd)
        cases hc.symm.trans he
  · rintro ⟨c, hc⟩
    obtain ⟨rest, hd⟩ := decodeCondition_eq_ok_iff.1 hc
    exact ⟨c, _, hread.ok hd⟩

theorem Condition.Gains.decodeCondition_eq (h : Gains registry version body body') :
    decodeCondition registry version body' = decodeCondition registry version body := by
  obtain ⟨hread, extra, rfl⟩ := h
  obtain ⟨c, hc⟩ := readFrom_iff.1 hread
  obtain ⟨rest, hd⟩ := decodeCondition_eq_ok_iff.1 hc
  rw [hc]
  exact decodeCondition_eq_ok_iff.2 ⟨rest ++ extra, stable_decode _ _ _ hd extra⟩

theorem ClausePieces.Gains.decoded_eq {pieces pieces' : ClausePieces}
    (h : pieces.Gains registry pieces') :
    pieces'.decoded registry = pieces.decoded registry := by
  rw [decoded, decoded, Piece.Gains.found_eq h fun _ _ _ => Condition.Gains.decodeCondition_eq]

theorem ScriptPieces.Gains.decoded_eq {s s' : ScriptPieces} (h : s.Gains registry s') :
    s'.decoded registry = s.decoded registry := by
  obtain ⟨clauses, rfl, hclauses⟩ := h
  rw [decoded, decoded, hclauses.found_eq fun _ _ _ => ClausePieces.Gains.decoded_eq]

/-- Foreign data does not show in what is loaded: the same scripts, or the same error. -/
theorem loadScripts_gained (registry : Registry) {file file' : FilePieces}
    (h : file.Gains registry file') (hfile : file.content.Storable)
    (hfile' : file'.content.Storable) :
    loadScripts registry (writeFile file'.content.events) =
      loadScripts registry (writeFile file.content.events) := by
  rw [FilePieces.loadScripts_content hfile, FilePieces.loadScripts_content hfile']
  exact Piece.Gains.found_eq h fun _ _ _ => ScriptPieces.Gains.decoded_eq

namespace Annotated

def types : Registry := Registry.ofList [⟨1, "A", [.int]⟩]

def stored : List UInt8 := [1, 0, 0, 0, 0, 0, 0, 0]

/-- A script of one clause. -/
def file (clause : ClausePieces) : FilePieces :=
  [.known 1 ⟨"S", "", 1, 0, 2, [.known 1 clause]⟩]

def plain : ClausePieces := [.known 1 stored]

/-- A chunk of scripts inside a clause, around a condition that cannot be read. -/
def misplaced : Content := .chunk "Condition" 1 (.data [255] .nil) .nil

def surrounded : ClausePieces :=
  [.foreign "Script" 1 misplaced (by decide), .known 1 stored]

def extended : ClausePieces := [.known 1 (stored ++ [7])]

theorem gains_file {clause clause' : ClausePieces} (h : clause.Gains types clause') :
    (file clause).Gains types (file clause') :=
  .within [] [] ⟨_, rfl, .within [] [] h⟩

theorem storable {clause : ClausePieces} (h : (file clause).content.size ≤ 2147483647) :
    (file clause).content.Storable :=
  Content.storable_of_size_le h

def scripts : List Script :=
  [⟨"S", "", true, false, true, ⟨[⟨[⟨1, [.ofKind .int], false, 0, 0⟩]⟩]⟩⟩]

theorem loadScripts_plain :
    loadScripts types (writeFile (file plain).content.events) = .ok scripts := by
  rw [FilePieces.loadScripts_content (storable (by decide +kernel))]
  rfl

theorem loaded_unchanged :
    loadScripts types (writeFile (file surrounded).content.events) = .ok scripts ∧
      loadScripts types (writeFile (file extended).content.events) = .ok scripts := by
  have hsurrounded : plain.Gains types surrounded :=
    .foreign [] plain "Script" 1 misplaced (by decide)
  have hextended : plain.Gains types extended :=
    .within [] [] ⟨Condition.readFrom_iff.2 ⟨_, rfl⟩, List.prefix_append stored [7]⟩
  constructor
  · rw [loadScripts_gained types (gains_file hsurrounded) (storable (by decide +kernel))
      (storable (by decide +kernel)), loadScripts_plain]
  · rw [loadScripts_gained types (gains_file hextended) (storable (by decide +kernel))
      (storable (by decide +kernel)), loadScripts_plain]

end Annotated

end TriggerScript
