import TriggerScript.Proofs.Chunk.Dispatch
import TriggerScript.Proofs.Chunk.LabelTable

/-!
# Positions in a file

A cursor keeps the whole file, a position in it, and for each open chunk the position at which it
ends. Nothing in this form keeps a read inside the innermost chunk, or a chunk inside the one around
it: each operation compares positions before it moves. A cursor is sound when the comparisons have
done their work, and every operation keeps it so. A sound cursor is a view of a reader, which keeps
the bytes ahead in place of the positions: both give the same answers.
-/

namespace TriggerScript

open LittleEndian

variable {κ α : Type}

/-- An open chunk and the position at which it ends. -/
structure Span where
  label : String
  stop : Nat

structure Cursor (κ : Type) where
  file : List UInt8
  labels : LabelTable
  parsers : ParserTable κ
  position : Nat
  /-- The open chunks, the innermost first. -/
  spans : List Span

namespace Cursor

/-! ## Operations -/

/-- At the beginning of the chunks of a file. -/
def ofBytes (file : List UInt8) : Except ChunkError (Cursor κ) :=
  if magic.isPrefixOf file then
    match LabelTable.take? (file.drop magic.length) with
    | some (labels, rest) =>
      .ok { file, labels, parsers := [], position := file.length - rest.length, spans := [] }
    | none => .error (.malformed .labelTable)
  else .error .badMagic

/-- The end of the innermost of some chunks, or of the file when there is none. -/
def endOf (file : List UInt8) : List Span → Nat
  | [] => file.length
  | span :: _ => span.stop

def scopeEnd (c : Cursor κ) : Nat := endOf c.file c.spans

def atEnd (c : Cursor κ) : Bool := c.scopeEnd ≤ c.position

def enclosing (c : Cursor κ) : String :=
  match c.spans with
  | [] => ""
  | span :: _ => span.label

/-- Reads a value of a fixed width. The width is compared with the end of the innermost chunk; the
bytes are then taken from the file, which knows nothing of chunks. -/
def readWith (take? : List UInt8 → Option (α × List UInt8)) (width : Nat) (field : Field)
    (c : Cursor κ) : Except ChunkError α × Cursor κ :=
  if c.scopeEnd < c.position + width then (.error (.malformed (.truncated field)), c)
  else
    match take? (c.file.drop c.position) with
    | some (a, _) => (.ok a, { c with position := c.position + width })
    | none =>
      (.error (.unreadable "failed to fill whole buffer"), { c with position := c.file.length })

def readByte : Cursor κ → Except ChunkError UInt8 × Cursor κ := readWith takeByte? 1 .byte

def readInt : Cursor κ → Except ChunkError Int32 × Cursor κ := readWith takeInt32? 4 .int

def readReal : Cursor κ → Except ChunkError Single × Cursor κ := readWith Single.take? 4 .real

def readText (c : Cursor κ) : Except ChunkError String × Cursor κ :=
  match c.readWith takeUInt16? 2 .textLength with
  | (.ok length, c) =>
    match c.readWith (takeBytes? length.toNat) length.toNat .text with
    | (.ok bytes, c) => (.ok (Latin1.decode bytes), c)
    | (.error e, c) => (.error e, c)
  | (.error e, c) => (.error e, c)

def openChunk (c : Cursor κ) : Except ChunkError ChunkInfo × Cursor κ :=
  match c.readWith Reader.takeHeader? 10 .chunkHeader with
  | (.error e, c) => (.error e, c)
  | (.ok (id, version, size), c) =>
    match c.labels.label? id with
    | none => (.error (.unknownLabel id), c)
    | some label =>
      if size.toInt < 0 then (.error (.malformed (.negativeSize size label)), c)
      else if c.scopeEnd < c.position + size.toInt.toNat then
        (.error (.malformed (.truncated .chunkBody)), c)
      else
        (.ok { label, parent := c.enclosing, version, size := size.toInt.toNat },
          { c with spans := ⟨label, c.position + size.toInt.toNat⟩ :: c.spans })

/-- Goes to the end of the innermost chunk and leaves it. -/
def closeChunk (c : Cursor κ) : Cursor κ :=
  match c.spans with
  | [] => c
  | span :: outer => { c with position := span.stop, spans := outer }

def register (c : Cursor κ) (label parent : String) (parser : κ) : Cursor κ :=
  { c with parsers := c.parsers.insert label parent parser }

/-! ## Sound cursors -/

/-- The ends of the open chunks do not increase from the outermost to the innermost, all are in the
file, and the position is not after the innermost end. -/
structure Sound (c : Cursor κ) : Prop where
  nested : (c.spans.map (·.stop)).Pairwise (· ≤ ·)
  inFile : ∀ span ∈ c.spans, span.stop ≤ c.file.length
  inScope : c.position ≤ c.scopeEnd

/-- What an operation does to a cursor: it stays in the same file, sound, and never goes back. -/
structure Advances (c c' : Cursor κ) : Prop where
  file : c'.file = c.file
  position : c.position ≤ c'.position
  sound : c'.Sound

variable {c c' : Cursor κ}

theorem endOf_le {file : List UInt8} {spans : List Span}
    (hfile : ∀ span ∈ spans, span.stop ≤ file.length) : endOf file spans ≤ file.length := by
  cases spans with
  | nil => exact Nat.le_refl _
  | cons span outer => exact hfile span List.mem_cons_self

/-- The end of a chunk is not after that of the chunk around it. -/
theorem stop_le_endOf {file : List UInt8} {span : Span} {outer : List Span}
    (hnested : ((span :: outer).map (·.stop)).Pairwise (· ≤ ·))
    (hfile : ∀ s ∈ span :: outer, s.stop ≤ file.length) : span.stop ≤ endOf file outer := by
  cases outer with
  | nil => exact hfile span List.mem_cons_self
  | cons around outer =>
      exact (List.pairwise_cons.1 hnested).1 _ (List.mem_map_of_mem List.mem_cons_self)

theorem Sound.scopeEnd_le (h : c.Sound) : c.scopeEnd ≤ c.file.length := endOf_le h.inFile

theorem Sound.scopeEnd_le_stop {span : Span} (h : c.Sound) (hspan : span ∈ c.spans) :
    c.scopeEnd ≤ span.stop := by
  have hnested := h.nested
  unfold scopeEnd
  cases hs : c.spans with
  | nil => simp [hs] at hspan
  | cons inner outer =>
      rw [hs] at hspan hnested
      obtain rfl | hspan := List.mem_cons.1 hspan
      · exact Nat.le_refl _
      · exact (List.pairwise_cons.1 hnested).1 _ (List.mem_map_of_mem hspan)

theorem Sound.advances_self (h : c.Sound) : c.Advances c := ⟨rfl, Nat.le_refl _, h⟩

theorem Advances.trans {c'' : Cursor κ} (h : c.Advances c') (h' : c'.Advances c'') :
    c.Advances c'' :=
  ⟨h'.file.trans h.file, Nat.le_trans h.position h'.position, h'.sound⟩

/-! ## The reader of a cursor -/

/-- The open chunks with the bytes after each in the one around it. -/
def openChunks (file : List UInt8) : List Span → List OpenChunk
  | [] => []
  | span :: outer =>
    ⟨span.label, file.extract span.stop (endOf file outer)⟩ :: openChunks file outer

/-- The reader that stands where the cursor does. -/
def reader (c : Cursor κ) : Reader κ where
  labels := c.labels
  parsers := c.parsers
  unread := c.file.extract c.position c.scopeEnd
  chunks := openChunks c.file c.spans

section Extract

variable {as : List α} {i j k : Nat}

theorem length_extract (hj : j ≤ as.length) : (as.extract i j).length = j - i := by
  rw [List.extract_eq_take_drop, List.length_take, List.length_drop]
  omega

theorem extract_append_extract (hij : i ≤ j) (hjk : j ≤ k) :
    as.extract i j ++ as.extract j k = as.extract i k := by
  have hk : k - i = (j - i) + (k - j) := by omega
  have hj : i + (j - i) = j := by omega
  simp only [List.extract_eq_take_drop]
  rw [hk, List.take_add, List.drop_drop, hj]

theorem extract_append_drop (hij : i ≤ j) : as.extract i j ++ as.drop j = as.drop i := by
  have hj : i + (j - i) = j := by omega
  have hsplit := List.take_append_drop (j - i) (as.drop i)
  rwa [List.drop_drop, hj, ← List.extract_eq_take_drop] at hsplit

end Extract

theorem Sound.length_unread (h : c.Sound) : c.reader.unread.length = c.scopeEnd - c.position :=
  length_extract h.scopeEnd_le

theorem length_after {file : List UInt8} {spans : List Span}
    (hnested : (spans.map (·.stop)).Pairwise (· ≤ ·))
    (hfile : ∀ span ∈ spans, span.stop ≤ file.length) :
    ((openChunks file spans).flatMap (·.after)).length = file.length - endOf file spans := by
  induction spans with
  | nil => simp [openChunks, endOf]
  | cons span outer ih =>
      have hstop := stop_le_endOf hnested hfile
      have houter : ∀ s ∈ outer, s.stop ≤ file.length := fun s hs =>
        hfile s (List.mem_cons_of_mem span hs)
      have hend := endOf_le houter
      rw [openChunks, List.flatMap_cons, List.length_append, length_extract hend,
        ih (List.pairwise_cons.1 hnested).2 houter, endOf]
      omega

/-- What is left to read, in all open chunks and after them, is what is after the position. -/
theorem Sound.remaining_reader (h : c.Sound) :
    c.reader.remaining = c.file.length - c.position := by
  have hscope := h.scopeEnd_le
  have hposition := h.inScope
  rw [Reader.remaining, h.length_unread, reader, length_after h.nested h.inFile, ← scopeEnd]
  omega

theorem Sound.remaining_le (h : c.Sound) (hc : c.Advances c') :
    c'.reader.remaining ≤ c.reader.remaining := by
  have hposition := hc.position
  rw [h.remaining_reader, hc.sound.remaining_reader, hc.file]
  omega

/-! ## The operations mirror those of the reader -/

/-- An operation on a cursor keeps it sound and does what the operation on its reader does. -/
structure Mirrors (c : Cursor κ) (out : α × Cursor κ) (out' : α × Reader κ) : Prop where
  advances : c.Advances out.2
  eq : out' = (out.1, out.2.reader)

theorem Sound.atEnd_reader (h : c.Sound) : c.reader.atEnd = c.atEnd := by
  have hlen := h.length_unread
  rw [Reader.atEnd, Bool.eq_iff_iff, List.isEmpty_iff_length_eq_zero, hlen, atEnd,
    decide_eq_true_eq]
  omega

theorem enclosing_reader (c : Cursor κ) : c.reader.enclosing = c.enclosing := by
  unfold Reader.enclosing enclosing reader
  cases c.spans <;> rfl

/-- A sound cursor that moves inside its innermost chunk. -/
theorem Sound.move {n : Nat} (h : c.Sound) (hn : c.position + n ≤ c.scopeEnd) :
    c.Advances { c with position := c.position + n } :=
  ⟨rfl, Nat.le_add_right _ _, h.nested, h.inFile, hn⟩

theorem Sound.readWith {take? : List UInt8 → Option (α × List UInt8)} {encode : α → List UInt8}
    {width : Nat} (hw : FixedWidth take? encode width) (h : c.Sound) (field : Field) :
    c.Mirrors (c.readWith take? width field) (c.reader.readWith take? field) := by
  have hlen := h.length_unread
  have hposition := h.inScope
  have hscope := h.scopeEnd_le
  unfold Cursor.readWith
  split
  · rename_i hshort
    have hnone : take? c.reader.unread = none := hw.eq_none (by omega)
    exact ⟨h.advances_self, by simp only [Reader.readWith, hnone]⟩
  · rename_i hlong
    have hin : c.position + width ≤ c.scopeEnd := Nat.le_of_not_lt hlong
    -- The bytes that the width covers are at the front of the scope as of the file.
    have hfront : (c.file.extract c.position (c.position + width)).length = width := by
      rw [length_extract (by omega)]
      omega
    obtain ⟨a, ha⟩ := hw.exists_encode _ hfront
    have hfile : take? (c.file.drop c.position) = some (a, c.file.drop (c.position + width)) :=
      hw.take?_eq_some_iff.2
        ⟨by rw [ha, extract_append_drop (Nat.le_add_right _ _)], by rw [ha, hfront]⟩
    have hunread : take? c.reader.unread =
        some (a, c.file.extract (c.position + width) c.scopeEnd) :=
      hw.take?_eq_some_iff.2
        ⟨by rw [ha, extract_append_extract (Nat.le_add_right _ _) hin]; rfl, by rw [ha, hfront]⟩
    rw [hfile]
    exact ⟨h.move hin, by simp only [Reader.readWith, hunread]; rfl⟩

theorem Sound.readByte (h : c.Sound) : c.Mirrors c.readByte c.reader.readByte :=
  h.readWith fixedWidth_byte .byte

theorem Sound.readInt (h : c.Sound) : c.Mirrors c.readInt c.reader.readInt :=
  h.readWith fixedWidth_int32 .int

theorem Sound.readReal (h : c.Sound) : c.Mirrors c.readReal c.reader.readReal :=
  h.readWith Single.fixedWidth .real

theorem Sound.readText (h : c.Sound) : c.Mirrors c.readText c.reader.readText := by
  obtain ⟨hlength, hr⟩ := h.readWith fixedWidth_uint16 .textLength
  unfold Cursor.readText Reader.readText
  rw [hr]
  generalize c.readWith takeUInt16? 2 .textLength = out at hlength ⊢
  obtain ⟨e | length, c₁⟩ := out
  · exact ⟨hlength, rfl⟩
  · obtain ⟨htext, hr⟩ := hlength.sound.readWith (fixedWidth_bytes length.toNat) .text
    simp only at hr ⊢
    rw [hr]
    generalize c₁.readWith (takeBytes? length.toNat) length.toNat .text = out at htext ⊢
    obtain ⟨e | bytes, c₂⟩ := out <;> exact ⟨hlength.trans htext, rfl⟩

theorem fixedWidth_header :
    FixedWidth Reader.takeHeader?
      (fun (id, version, size) => ofUInt32 id ++ ofUInt16 version ++ ofInt32 size) 10 where
  take?_eq_some_iff {bytes header rest} := by
    obtain ⟨id, version, size⟩ := header
    constructor
    · intro h
      simp only [Reader.takeHeader?, Option.bind_eq_bind, Option.bind_eq_some_iff, Prod.exists] at h
      obtain ⟨_, _, hid, _, _, hversion, _, _, hsize, h⟩ := h
      cases h
      rw [takeUInt32?_eq_some_iff.1 hid, takeUInt16?_eq_some_iff.1 hversion,
        takeInt32?_eq_some_iff.1 hsize]
      simp
    · rintro ⟨rfl, -⟩
      exact takeHeader?_append id version size rest
  exists_encode bytes h := by
    obtain ⟨id, hid⟩ := fixedWidth_uint32.exists_encode (bytes.take 4) (by simp [h])
    obtain ⟨version, hversion⟩ :=
      fixedWidth_uint16.exists_encode ((bytes.drop 4).take 2) (by simp [h])
    obtain ⟨size, hsize⟩ :=
      fixedWidth_int32.exists_encode ((bytes.drop 4).drop 2) (by simp [h])
    exact ⟨(id, version, size), by
      simp only [hid, hversion, hsize, List.append_assoc, List.take_append_drop]⟩

theorem Sound.atEnd (h : c.Sound) : c.Mirrors (c.atEnd, c) (c.reader.atEnd, c.reader) :=
  ⟨h.advances_self, by rw [h.atEnd_reader]⟩

theorem Sound.register (h : c.Sound) (label parent : String) (parser : κ) :
    c.Mirrors ((), c.register label parent parser) ((), c.reader.register label parent parser) :=
  ⟨⟨rfl, Nat.le_refl _, h.nested, h.inFile, h.inScope⟩, rfl⟩

theorem Sound.closeChunk (h : c.Sound) :
    c.Mirrors ((), c.closeChunk) ((), c.reader.closeChunk) := by
  unfold Cursor.closeChunk
  cases hs : c.spans with
  | nil => exact ⟨h.advances_self, by simp [Reader.closeChunk, reader, hs, openChunks]⟩
  | cons span outer =>
      have hnested := h.nested
      have hfile := h.inFile
      have hscope := h.inScope
      rw [hs] at hnested hfile
      rw [scopeEnd, hs] at hscope
      have hsound : Sound { c with position := span.stop, spans := outer } :=
        ⟨(List.pairwise_cons.1 hnested).2, fun s hmem => hfile s (List.mem_cons_of_mem span hmem),
          stop_le_endOf hnested hfile⟩
      exact ⟨⟨rfl, hscope, hsound⟩, by simp [Reader.closeChunk, reader, hs, openChunks]; rfl⟩

/-- Entering a chunk that is inside the innermost one. -/
theorem Sound.enter {size : Nat} (h : c.Sound) (hsize : c.position + size ≤ c.scopeEnd)
    (label : String) :
    c.Advances { c with spans := ⟨label, c.position + size⟩ :: c.spans } := by
  refine ⟨rfl, Nat.le_refl _, ?_, ?_, Nat.le_add_right _ _⟩
  · refine List.pairwise_cons.2 ⟨fun stop hstop => ?_, h.nested⟩
    obtain ⟨span, hspan, rfl⟩ := List.mem_map.1 hstop
    exact Nat.le_trans hsize (h.scopeEnd_le_stop hspan)
  · exact List.forall_mem_cons.2 ⟨Nat.le_trans hsize h.scopeEnd_le, h.inFile⟩

theorem Sound.takeBytes?_unread {size : Nat} (h : c.Sound)
    (hsize : c.position + size ≤ c.scopeEnd) :
    takeBytes? size c.reader.unread =
      some (c.file.extract c.position (c.position + size),
        c.file.extract (c.position + size) c.scopeEnd) := by
  have hscope := h.scopeEnd_le
  refine takeBytes?_eq_some_iff.2
    ⟨(extract_append_extract (Nat.le_add_right _ _) hsize).symm, ?_⟩
  rw [length_extract (by omega)]
  omega

theorem Sound.openChunk (h : c.Sound) : c.Mirrors c.openChunk c.reader.openChunk := by
  obtain ⟨hheader, hr⟩ := h.readWith fixedWidth_header .chunkHeader
  unfold Cursor.openChunk Reader.openChunk
  rw [hr]
  generalize c.readWith Reader.takeHeader? 10 .chunkHeader = out at hheader ⊢
  obtain ⟨e | ⟨id, version, size⟩, c₁⟩ := out
  · exact ⟨hheader, rfl⟩
  simp only at hheader ⊢
  have hlabels : c₁.reader.labels = c₁.labels := rfl
  rw [hlabels]
  cases c₁.labels.label? id with
  | none => exact ⟨hheader, rfl⟩
  | some label =>
      simp only
      split
      · exact ⟨hheader, rfl⟩
      · split
        · rename_i hshort
          have hlen := hheader.sound.length_unread
          have hscope := hheader.sound.inScope
          have hnone : takeBytes? size.toInt.toNat c₁.reader.unread = none :=
            (fixedWidth_bytes _).eq_none (by omega)
          exact ⟨hheader, by rw [hnone]⟩
        · rename_i hlong
          have hin := Nat.le_of_not_lt hlong
          rw [hheader.sound.takeBytes?_unread hin, enclosing_reader]
          exact ⟨hheader.trans (hheader.sound.enter hin label), rfl⟩

/-! ## What only moves a cursor -/

/-- `c'` differs from `c` in its position alone. -/
def Moves (c c' : Cursor κ) : Prop := c' = { c with position := c'.position }

theorem Moves.spans (h : c.Moves c') : c'.spans = c.spans := by rw [h]

theorem Moves.parsers (h : c.Moves c') : c'.parsers = c.parsers := by rw [h]

theorem Moves.trans {c'' : Cursor κ} (h : c.Moves c') (h' : c'.Moves c'') : c.Moves c'' := by
  rw [Moves, h', h]

theorem moves_readWith (take? : List UInt8 → Option (α × List UInt8)) (width : Nat) (field : Field)
    (c : Cursor κ) : c.Moves (c.readWith take? width field).2 := by
  unfold readWith
  split
  · rfl
  · split <;> rfl

theorem moves_readText (c : Cursor κ) : c.Moves c.readText.2 := by
  have hlength := c.moves_readWith takeUInt16? 2 .textLength
  unfold readText
  split
  · rename_i length c₁ h₁
    rw [h₁] at hlength
    have htext := c₁.moves_readWith (takeBytes? length.toNat) length.toNat .text
    split <;> rename_i h₂ <;> rw [h₂] at htext <;> exact hlength.trans htext
  · rename_i h₁
    rwa [h₁] at hlength

/-! ## Opening a file -/

/-- A file that a reader opens is opened by a sound cursor, and the reader is that of the cursor. -/
theorem ofBytes_of_reader {file : List UInt8} {r : Reader κ} (h : Reader.ofBytes file = .ok r) :
    ∃ start : Cursor κ, ofBytes file = .ok start ∧ start.reader = r ∧ start.file = file ∧
      start.Sound := by
  rw [Reader.ofBytes_eq] at h
  rw [ofBytes]
  split at h
  · rename_i hmagic
    rw [if_pos hmagic]
    cases ht : LabelTable.take? (file.drop magic.length) with
    | none =>
        rw [ht] at h
        cases h
    | some out =>
        obtain ⟨labels, rest⟩ := out
        rw [ht] at h
        cases h
        have hrest : rest <:+ file :=
          (LabelTable.suffix_of_take? ht).trans (List.drop_suffix _ _)
        refine ⟨_, rfl, ?_, rfl, List.Pairwise.nil, nofun, Nat.sub_le _ _⟩
        have hunread : file.extract (file.length - rest.length) file.length = rest := by
          rw [List.extract_eq_take_drop, ← List.suffix_iff_eq_drop.1 hrest]
          exact List.take_of_length_le (by have := hrest.length_le; omega)
        simp only [reader, scopeEnd, endOf, hunread, openChunks]
  · cases h

end Cursor

end TriggerScript
