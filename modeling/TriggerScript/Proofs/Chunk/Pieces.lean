import TriggerScript.Proofs.Chunk.Content

/-!
# Known and foreign chunks

Where chunks of one label are looked for, chunks of other labels are foreign, whatever they hold.
Decoding finds what the known chunks hold, so that a foreign chunk that is put in anywhere does not
show, and neither does a change inside a known chunk that its decoder does not see.
-/

namespace TriggerScript

variable {label : String} {α β : Type}

/-- A chunk in a place where the chunks of a label are looked for. -/
inductive Piece (label : String) (α : Type) where
  | known (version : UInt16) (held : α)
  | foreign (other : String) (version : UInt16) (inside : Content) (h : other ≠ label)

namespace Piece

/-- The chunks one after another. The known ones hold what `inside` says. -/
def contents (inside : α → Content) : List (Piece label α) → Content
  | [] => .nil
  | .known version held :: rest => .chunk label version (inside held) (contents inside rest)
  | .foreign other version content _ :: rest => .chunk other version content (contents inside rest)

def known? : Piece label α → Option (UInt16 × α)
  | .known version held => some (version, held)
  | .foreign .. => none

/-- What is found in the known chunks, or the error for the first of them that does not decode. -/
def found (decode : UInt16 → α → Except ChunkError β) (pieces : List (Piece label α)) :
    Except ChunkError (List β) :=
  (pieces.filterMap known?).mapM fun (version, held) => decode version held

/-- There is one foreign chunk more in the second list, or a change in what a known chunk holds. -/
inductive Gains (Changes : UInt16 → α → α → Prop) :
    List (Piece label α) → List (Piece label α) → Prop
  | foreign (before after : List (Piece label α)) (other : String) (version : UInt16)
      (inside : Content) (h : other ≠ label) :
      Gains Changes (before ++ after) (before ++ .foreign other version inside h :: after)
  | within (before after : List (Piece label α)) {version : UInt16} {held held' : α} :
      Changes version held held' →
      Gains Changes (before ++ .known version held :: after)
        (before ++ .known version held' :: after)

variable {decode : UInt16 → α → Except ChunkError β} {pieces pieces' : List (Piece label α)}

theorem found_append (before after : List (Piece label α)) :
    found decode (before ++ after) = do
      let as ← found decode before
      let bs ← found decode after
      return as ++ bs := by
  simp only [found, List.filterMap_append, List.mapM_append]

theorem found_known (version : UInt16) (held : α) :
    found decode (.known version held :: pieces) = do
      let b ← decode version held
      let bs ← found decode pieces
      return b :: bs := by
  have hknown : known? (.known version held : Piece label α) = some (version, held) := rfl
  rw [found, List.filterMap_cons_some hknown, List.mapM_cons, found]

theorem found_foreign (other : String) (version : UInt16) (inside : Content) (h : other ≠ label) :
    found decode (.foreign other version inside h :: pieces) = found decode pieces := by
  have hforeign : known? (.foreign other version inside h : Piece label α) = none := rfl
  rw [found, List.filterMap_cons_none hforeign, found]

/-- Foreign chunks do not show, and neither do changes that leave what is found in a chunk. -/
theorem Gains.found_eq {Changes : UInt16 → α → α → Prop} (h : Gains Changes pieces pieces')
    (hdecode : ∀ version held held', Changes version held held' →
      decode version held' = decode version held) : found decode pieces' = found decode pieces := by
  cases h with
  | foreign before after other version inside hother =>
      rw [found_append, found_append, found_foreign]
  | within before after hchanges =>
      rw [found_append, found_append, found_known, found_known, hdecode _ _ _ hchanges]

/-- Decoding the bytes of chunks finds what the known ones hold, if the decoder for bytes finds it
in each of them. -/
theorem decodeAllChunks_contents {labels : LabelTable} {id : String → UInt32}
    {inside : α → Content} {decodeBytes : UInt16 → List UInt8 → Except ChunkError β}
    (hlabel : ∀ other, keptLabel other = label ↔ other = label)
    (hdecode : ∀ version held, (inside held).Legible labels id →
      decodeBytes version ((inside held).bytes id) = decode version held)
    (h : (contents inside pieces).Legible labels id) :
    decodeAllChunks labels label decodeBytes ((contents inside pieces).bytes id) =
      found decode pieces := by
  induction pieces with
  | nil => exact decodeAllChunks_nil
  | cons piece pieces ih =>
      cases piece with
      | known version held =>
          have hkept : keptLabel label = label := (hlabel label).2 rfl
          rw [contents] at h
          rw [contents, decodeAllChunks_of_takeChunk h.takeChunk hkept, hdecode _ _ h.inside,
            ih h.rest, found_known]
      | foreign other version content hother =>
          have hkept : keptLabel other ≠ label := fun hkept => hother ((hlabel other).1 hkept)
          rw [contents] at h
          rw [contents, decodeAllChunks, decodeChunks_of_other h.takeChunk hkept, ← decodeAllChunks,
            ih h.rest, found_foreign]

end Piece

end TriggerScript
