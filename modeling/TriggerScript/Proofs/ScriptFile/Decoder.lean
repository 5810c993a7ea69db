import TriggerScript.ScriptFile.Parsers
import TriggerScript.Proofs.Chunk.Dispatch

/-!
# Decoding script files

The content of a script file as a recursive decoder on slices: a script holds clauses and a clause
holds conditions, each in a chunk with its own content. The programs that read single values find
what these decoders find.
-/

namespace TriggerScript

variable {κ τ : Type}

/-! ## Parameters -/

namespace Parameter

def decode : SliceDecoder Parameter := do
  let code ← SliceDecoder.int
  match ParameterKind.ofCode? code with
  | none => throw (.unknownParameterKind code)
  | some kind =>
    if kind = .coord3d then
      let x ← SliceDecoder.real
      let y ← SliceDecoder.real
      let z ← SliceDecoder.real
      return { ofKind .coord3d with coord := ⟨x, y, z⟩ }
    else
      let int ← SliceDecoder.int
      let real ← SliceDecoder.real
      let text ← SliceDecoder.text
      return { ofKind kind with int, real, text }

theorem read_follows : (read : Reading κ τ Parameter).Follows decode := by
  refine .bind .int fun code => ?_
  cases ParameterKind.ofCode? code with
  | none => exact .throw _
  | some kind =>
      refine .ite ?_ ?_
      · exact .bind .real fun x => .bind .real fun y => .bind .real fun z => .pure _
      · exact .bind .int fun int => .bind .real fun real => .bind .text fun text => .pure _

end Parameter

/-! ## Conditions -/

namespace Condition

/-- The condition of a type with the given shape in which `found` has been found: the parameters that
have a slot, and defaults in the slots that are left. -/
def ofFound (type : Int32) (shape : List ParameterKind) (found : List Parameter) : Condition where
  type := type
  params := found.take shape.length ++ (shape.drop found.length).map Parameter.ofKind
  hasWarnings := (found.zip shape).any fun (p, kind) => p.kind ≠ kind
  customData := 0
  reserved := 0

/-- The type that is meant by a tag and a stored name: that of the tag if it has the name, otherwise
the type of that name if there is one. -/
def typeMeant (registry : Registry) (tag : Int32) (name : String) : Int32 :=
  if registry.typeName? tag = some name then tag
  else ((registry.named? name).map (·.id)).getD tag

def decodeType (registry : Registry) (version : UInt16) : SliceDecoder Int32 := do
  let tag ← SliceDecoder.int
  if 4 ≤ version then
    let name ← SliceDecoder.text
    return typeMeant registry tag name
  else return tag

def decodeParams : SliceDecoder (List Parameter) := do
  let count ← SliceDecoder.int
  if 0 ≤ count.toInt ∧ count.toInt ≤ maxParameters then
    SliceDecoder.count count.toInt.toNat Parameter.decode
  else throw (.malformed (.parameterCount count))

def decode (registry : Registry) (version : UInt16) : SliceDecoder Condition := do
  let type ← decodeType registry version
  match registry.template? type with
  | none => throw (.unknownConditionType type)
  | some t =>
    if t.shape.length > maxParameters then
      throw (.malformed (.oversizedShape t.name t.shape.length))
    else
      let found ← decodeParams
      return ofFound type t.shape found

theorem resolveType_eq (registry : Registry) (tag : Int32) (name : String) :
    resolveType registry tag name = typeMeant registry tag name := by
  unfold resolveType typeMeant
  split
  · rfl
  · cases registry.named? name <;> rfl

theorem fillSlots_eq (slots found : List Parameter) :
    fillSlots slots found = found.take slots.length ++ slots.drop found.length := by
  induction slots generalizing found with
  | nil => cases found <;> rfl
  | cons slot slots ih =>
      cases found with
      | nil => rfl
      | cons p found => simp [fillSlots, ih]

theorem mismatch_eq (shape : List ParameterKind) (found : List Parameter) :
    mismatch (shape.map Parameter.ofKind) found =
      (found.zip shape).any fun (p, kind) => p.kind ≠ kind := by
  rw [mismatch]
  induction shape generalizing found with
  | nil => cases found <;> rfl
  | cons kind shape ih =>
      cases found with
      | nil => rfl
      | cons p found =>
          simp only [List.map_cons, List.zip_cons_cons, List.any_cons, ih]
          rfl

theorem fill_eq (type : Int32) (shape : List ParameterKind) (found : List Parameter) :
    fill { blank with type, params := shape.map Parameter.ofKind } found =
      ofFound type shape found := by
  simp only [fill, blank, fillSlots_eq, mismatch_eq, ofFound, List.length_map, List.map_drop,
    Bool.false_or]

theorem readType_follows (registry : Registry) (version : UInt16) :
    (readType registry version : Reading κ τ Int32).Follows (decodeType registry version) := by
  refine .bind .int fun tag => .ite (.bind .text fun name => ?_) (.pure tag)
  rw [resolveType_eq]
  exact .pure _

theorem readParams_follows : (readParams : Reading κ τ (List Parameter)).Follows decodeParams :=
  .bind .int fun count => .ite (.count count.toInt.toNat Parameter.read_follows) (.throw _)

theorem read_follows (registry : Registry) (version : UInt16) :
    (read registry version : Reading κ τ Condition).Follows (decode registry version) := by
  refine .bind (readType_follows registry version) fun type => ?_
  simp only [ofType, setType, provision]
  cases registry.template? type with
  | none => exact .throw _
  | some t =>
      by_cases hs : t.shape.length > maxParameters
      · simp only [if_pos hs]
        exact .throw _
      · simp only [if_neg hs, Except.map]
        rw [← bind_pure_comp]
        refine .bind readParams_follows fun found => ?_
        rw [← fill_eq]
        exact .pure _

end Condition

/-! ## Clauses and scripts -/

namespace Script

def decodeHeader : SliceDecoder Script := do
  let name ← SliceDecoder.text
  let comment ← SliceDecoder.text
  let active ← SliceDecoder.byte
  let oneShot ← SliceDecoder.byte
  let subroutine ← SliceDecoder.byte
  return ⟨name, comment, active ≠ 0, oneShot ≠ 0, subroutine ≠ 0, .empty⟩

theorem readHeader_follows : (readHeader : Reading κ τ Script).Follows decodeHeader :=
  .bind .text fun _ => .bind .text fun _ => .bind .byte fun _ => .bind .byte fun _ =>
    .bind .byte fun _ => .pure _

theorem decodeHeader_eq_ok {bytes rest : List UInt8} {header : Script}
    (h : decodeHeader.run bytes = .ok (header, rest)) :
    StoredText.fits header.name = true ∧ StoredText.fits header.comment = true ∧
      header.trigger = .empty := by
  obtain ⟨name, _, hname, h⟩ := SliceDecoder.run_bind_eq_ok_iff.1 h
  obtain ⟨comment, _, hcomment, h⟩ := SliceDecoder.run_bind_eq_ok_iff.1 h
  obtain ⟨active, _, -, h⟩ := SliceDecoder.run_bind_eq_ok_iff.1 h
  obtain ⟨oneShot, _, -, h⟩ := SliceDecoder.run_bind_eq_ok_iff.1 h
  obtain ⟨subroutine, _, -, h⟩ := SliceDecoder.run_bind_eq_ok_iff.1 h
  obtain ⟨rfl, rfl⟩ := SliceDecoder.run_pure_eq_ok_iff.1 h
  exact ⟨SliceDecoder.fits_of_text hname, SliceDecoder.fits_of_text hcomment, rfl⟩

end Script

/-- A condition in the content of its chunk. What the content has left over is ignored. -/
def decodeCondition (registry : Registry) (version : UInt16) (body : List UInt8) :
    Except ChunkError Condition :=
  match (Condition.decode registry version).run body with
  | .ok (c, _) => .ok c
  | .error e => .error e

theorem decodeCondition_eq_ok_iff {registry : Registry} {version : UInt16} {body : List UInt8}
    {c : Condition} :
    decodeCondition registry version body = .ok c ↔
      ∃ rest, (Condition.decode registry version).run body = .ok (c, rest) := by
  rw [decodeCondition]
  rcases (Condition.decode registry version).run body with e | ⟨c', rest⟩ <;> simp

theorem decodeCondition_eq_error_iff {registry : Registry} {version : UInt16} {body : List UInt8}
    {e : ChunkError} :
    decodeCondition registry version body = .error e ↔
      (Condition.decode registry version).run body = .error e := by
  rw [decodeCondition]
  rcases (Condition.decode registry version).run body with e | ⟨c', rest⟩ <;> simp

/-- A clause in the content of its chunk: the conditions in the condition chunks. -/
def decodeClause (registry : Registry) (labels : LabelTable) (body : List UInt8) :
    Except ChunkError Clause := do
  let conditions ← decodeAllChunks labels conditionLabel (decodeCondition registry) body
  return ⟨conditions⟩

/-- A script in the content of its chunk: a header, and the clauses in the clause chunks after it. -/
def decodeScript (registry : Registry) (labels : LabelTable) (body : List UInt8) :
    Except ChunkError Script := do
  let (header, rest) ← Script.decodeHeader.run body
  let clauses ← decodeAllChunks labels clauseLabel (fun _ => decodeClause registry labels) rest
  return { header with trigger := ⟨clauses⟩ }

/-- The scripts of a file: those in the script chunks after the magic and the label table. -/
def decodeScripts (registry : Registry) (bytes : List UInt8) : Except ChunkError (List Script) :=
  if magic.isPrefixOf bytes then
    match LabelTable.take? (bytes.drop magic.length) with
    | none => .error (.malformed .labelTable)
    | some (labels, body) =>
      decodeAllChunks labels scriptLabel (fun _ => decodeScript registry labels) body
  else .error .badMagic

end TriggerScript
