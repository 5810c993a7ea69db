import TriggerScript.Chunk.Error
import TriggerScript.Chunk.LabelTable
import TriggerScript.Binary.Single

/-!
# Reading chunks

A reader stands somewhere in nested chunks. It keeps the unread bytes of the innermost open chunk,
and for each open chunk the bytes that follow it in the enclosing one. A read can therefore never
leave the innermost chunk, and closing a chunk drops what is left of it.

No operation gives bytes back: `remaining` never grows, and opening a chunk takes the ten bytes of
its header.
-/

namespace TriggerScript

/-- What a chunk header says, and the label of the enclosing chunk, empty at the top level. -/
structure ChunkInfo where
  label : String
  parent : String
  version : UInt16
  size : Nat
  deriving DecidableEq

/-- An open chunk and the bytes after it in the enclosing one. -/
structure OpenChunk where
  label : String
  after : List UInt8

/-- The parsers registered for a label inside a parent label, the latest first. -/
abbrev ParserTable (κ : Type) := List ((String × String) × κ)

namespace ParserTable

variable {κ : Type}

def find? (table : ParserTable κ) (label parent : String) : Option κ :=
  table.lookup (label, parent)

/-- A pair has one parser: a new one takes the place of an old one. -/
def insert (table : ParserTable κ) (label parent : String) (parser : κ) : ParserTable κ :=
  ((label, parent), parser) :: table.filter fun entry => entry.1 != (label, parent)

end ParserTable

/-- A reader. Parsers are known to it by name only; `κ` is the type of their names. -/
structure Reader (κ : Type) where
  labels : LabelTable
  parsers : ParserTable κ
  unread : List UInt8
  /-- The open chunks, the innermost first. -/
  chunks : List OpenChunk

namespace Reader

open LittleEndian

variable {κ α : Type}

/-! ## Opening a file -/

def ofBytes (bytes : List UInt8) : Except ChunkError (Reader κ) :=
  match takeBytes? magic.length bytes with
  | none => .error .badMagic
  | some (front, rest) =>
    if front = magic then
      match LabelTable.take? rest with
      | some (labels, unread) => .ok { labels, parsers := [], unread, chunks := [] }
      | none => .error (.malformed .labelTable)
    else .error .badMagic

def ofSource (source : Except String (List UInt8)) : Except ChunkError (Reader κ) :=
  match source with
  | .ok bytes => ofBytes bytes
  | .error reason => .error (.unreadable reason)

/-! ## Position -/

/-- The bytes not yet read or skipped, in all open chunks and after them. -/
def remaining (r : Reader κ) : Nat :=
  r.unread.length + (r.chunks.flatMap (·.after)).length

/-- Nothing is left in the innermost open chunk, or in the file when none is open. -/
def atEnd (r : Reader κ) : Bool := r.unread.isEmpty

def enclosing (r : Reader κ) : String :=
  match r.chunks with
  | [] => ""
  | chunk :: _ => chunk.label

/-! ## Values -/

/-- Reads a value with `take?`; when too little is left, nothing is read. -/
def readWith (take? : List UInt8 → Option (α × List UInt8)) (field : Field) (r : Reader κ) :
    Except ChunkError α × Reader κ :=
  match take? r.unread with
  | some (a, rest) => (.ok a, { r with unread := rest })
  | none => (.error (.malformed (.truncated field)), r)

def readByte : Reader κ → Except ChunkError UInt8 × Reader κ := readWith takeByte? .byte

def readInt : Reader κ → Except ChunkError Int32 × Reader κ := readWith takeInt32? .int

def readReal : Reader κ → Except ChunkError Single × Reader κ := readWith Single.take? .real

/-- A length and that many characters. The length is read even if the characters are missing. -/
def readText (r : Reader κ) : Except ChunkError String × Reader κ :=
  match r.readWith takeUInt16? .textLength with
  | (.ok length, r) =>
    match r.readWith (takeBytes? length.toNat) .text with
    | (.ok bytes, r) => (.ok (Latin1.decode bytes), r)
    | (.error e, r) => (.error e, r)
  | (.error e, r) => (.error e, r)

/-! ## Chunks -/

def takeHeader? (bytes : List UInt8) : Option ((UInt32 × UInt16 × Int32) × List UInt8) := do
  let (id, bytes) ← takeUInt32? bytes
  let (version, bytes) ← takeUInt16? bytes
  let (size, bytes) ← takeInt32? bytes
  return ((id, version, size), bytes)

/-- Reads a header and enters the chunk. A header that is refused has been read all the same. -/
def openChunk (r : Reader κ) : Except ChunkError ChunkInfo × Reader κ :=
  match r.readWith takeHeader? .chunkHeader with
  | (.error e, r) => (.error e, r)
  | (.ok (id, version, size), r) =>
    match r.labels.label? id with
    | none => (.error (.unknownLabel id), r)
    | some label =>
      if size.toInt < 0 then (.error (.malformed (.negativeSize size label)), r)
      else
        match takeBytes? size.toInt.toNat r.unread with
        | none => (.error (.malformed (.truncated .chunkBody)), r)
        | some (body, after) =>
          (.ok { label, parent := r.enclosing, version, size := size.toInt.toNat },
            { r with unread := body, chunks := { label, after } :: r.chunks })

/-- Leaves the innermost chunk and skips what is left of it. -/
def closeChunk (r : Reader κ) : Reader κ :=
  match r.chunks with
  | [] => r
  | chunk :: outer => { r with unread := chunk.after, chunks := outer }

def register (r : Reader κ) (label parent : String) (parser : κ) : Reader κ :=
  { r with parsers := r.parsers.insert label parent parser }

/-! ## No operation gives bytes back -/

variable {r : Reader κ}

theorem readWith_remaining_le {take? : List UInt8 → Option (α × List UInt8)} {field : Field}
    (h : ∀ {bytes a rest}, take? bytes = some (a, rest) → rest.length ≤ bytes.length) :
    (r.readWith take? field).2.remaining ≤ r.remaining := by
  unfold readWith
  split
  · rename_i hr
    have := h hr
    simp only [remaining]
    omega
  · exact Nat.le_refl _

theorem readByte_remaining_le : r.readByte.2.remaining ≤ r.remaining :=
  readWith_remaining_le fun h => by have := length_of_takeByte? h; omega

theorem readInt_remaining_le : r.readInt.2.remaining ≤ r.remaining :=
  readWith_remaining_le fun h => by have := length_of_takeInt32? h; omega

theorem readReal_remaining_le : r.readReal.2.remaining ≤ r.remaining :=
  readWith_remaining_le fun h => by have := Single.length_of_take? h; omega

theorem readText_remaining_le : r.readText.2.remaining ≤ r.remaining := by
  have hl : (r.readWith takeUInt16? .textLength).2.remaining ≤ r.remaining :=
    readWith_remaining_le fun h => by have := length_of_takeUInt16? h; omega
  unfold readText
  split
  · rename_i length r' hr
    rw [hr] at hl
    have ht : (r'.readWith (takeBytes? length.toNat) .text).2.remaining ≤ r'.remaining :=
      readWith_remaining_le fun h => by have := length_of_takeBytes? h; omega
    split <;> rename_i hs <;> rw [hs] at ht <;> exact Nat.le_trans ht hl
  · rename_i hr
    rw [hr] at hl
    exact hl

theorem length_of_takeHeader? {bytes rest : List UInt8} {header : UInt32 × UInt16 × Int32}
    (h : takeHeader? bytes = some (header, rest)) : bytes.length = rest.length + 10 := by
  simp only [takeHeader?, Option.bind_eq_bind, Option.bind_eq_some_iff, Prod.exists] at h
  obtain ⟨id, r₁, h₁, version, r₂, h₂, size, r₃, h₃, h⟩ := h
  cases h
  have := length_of_takeUInt32? h₁
  have := length_of_takeUInt16? h₂
  have := length_of_takeInt32? h₃
  omega

theorem openChunk_remaining_le : r.openChunk.2.remaining ≤ r.remaining := by
  have hh : (r.readWith takeHeader? .chunkHeader).2.remaining ≤ r.remaining :=
    readWith_remaining_le fun h => by have := length_of_takeHeader? h; omega
  unfold openChunk
  split
  · rename_i hr
    rw [hr] at hh
    exact hh
  · rename_i r' hr
    rw [hr] at hh
    split
    · exact hh
    · split
      · exact hh
      · split
        · exact hh
        · rename_i body after hb
          have := length_of_takeBytes? hb
          obtain ⟨_, hl⟩ := takeBytes?_eq_some_iff.1 hb
          simp only [remaining, List.flatMap_cons, List.length_append] at hh ⊢
          omega

theorem openChunk_remaining {info : ChunkInfo} {r' : Reader κ} (h : r.openChunk = (.ok info, r')) :
    r'.remaining + 10 = r.remaining := by
  unfold openChunk readWith at h
  split at h
  · simp at h
  · rename_i hr
    split at hr
    · rename_i ht
      have hlen := length_of_takeHeader? ht
      simp only [Prod.mk.injEq, Except.ok.injEq] at hr
      obtain ⟨hv, rfl⟩ := hr
      split at h
      · simp at h
      · split at h
        · simp at h
        · split at h
          · simp at h
          · rename_i body after hb
            have := length_of_takeBytes? hb
            obtain ⟨_, hl⟩ := takeBytes?_eq_some_iff.1 hb
            simp only [Prod.mk.injEq, Except.ok.injEq] at h
            obtain ⟨_, rfl⟩ := h
            simp only [remaining, List.flatMap_cons, List.length_append] at *
            omega
    · simp at hr

theorem closeChunk_remaining_le : r.closeChunk.remaining ≤ r.remaining := by
  unfold closeChunk
  split
  · exact Nat.le_refl _
  · rename_i hc
    simp only [remaining, hc, List.flatMap_cons, List.length_append]
    omega

@[simp]
theorem register_remaining (label parent : String) (parser : κ) :
    (r.register label parent parser).remaining = r.remaining := rfl

end Reader

end TriggerScript
