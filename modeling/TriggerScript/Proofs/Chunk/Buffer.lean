import TriggerScript.Proofs.Chunk.Layout

/-!
# Writing in place

A buffer holds all that has been written as one piece. The size of a chunk is not known when its
header is written: the four bytes of the field are left zero, and are set when the chunk is closed,
far behind the end of the buffer. A buffer is a view of a writer, which puts a chunk together when
it is closed: both write the same files. In this view closing sets the size field of the innermost
open chunk, and changes no other byte.
-/

namespace TriggerScript

open LittleEndian

/-- A number in four bytes, the least significant first. -/
def word (n : Nat) : List UInt8 :=
  [UInt8.ofNat n, UInt8.ofNat (n / 256), UInt8.ofNat (n / 65536), UInt8.ofNat (n / 16777216)]

theorem ofUInt32_ofNat (n : Nat) : ofUInt32 (UInt32.ofNat n) = word n := by
  have hbyte {a b : Nat} (h : a % 256 = b % 256) : UInt8.ofNat a = UInt8.ofNat b := by
    rw [← UInt8.toNat_inj, UInt8.toNat_ofNat', UInt8.toNat_ofNat', h]
  simp only [ofUInt32, word, UInt32.toNat_ofNat', List.cons.injEq, and_true]
  exact ⟨hbyte (by omega), hbyte (by omega), hbyte (by omega), hbyte (by omega)⟩

theorem ofInt32_ofNat (n : Nat) : ofInt32 (Int32.ofNat n) = word n := by
  rw [ofInt32]
  exact ofUInt32_ofNat n

/-- Sets the bytes from a position on. -/
def overwrite (bytes : List UInt8) (position : Nat) : List UInt8 → List UInt8
  | [] => bytes
  | b :: field => overwrite (bytes.set position b) (position + 1) field

structure Buffer where
  labels : List String
  bytes : List UInt8
  /-- Where the size fields of the open chunks begin, the innermost first. -/
  sizeFields : List Nat

namespace Buffer

/-! ## Operations -/

def empty : Buffer := ⟨[], [], []⟩

def put (b : Buffer) (bytes : List UInt8) : Buffer := { b with bytes := b.bytes ++ bytes }

/-- Writes a header with a size of zero. The size field comes after the six bytes of the identifier
and the version. -/
def openChunk (b : Buffer) (label : String) (version : UInt16) : Buffer :=
  let labels := intern b.labels label
  { labels
    bytes := b.bytes ++ ofUInt32 (labelId labels label) ++ ofUInt16 version ++ ofInt32 0
    sizeFields := (b.bytes.length + 6) :: b.sizeFields }

/-- The size is the number of bytes after its field, or the greatest there is. -/
def closeChunk (b : Buffer) : Buffer :=
  match b.sizeFields with
  | [] => b
  | offset :: outer =>
    let size := min (b.bytes.length - (offset + 4)) 2147483647
    { b with bytes := overwrite b.bytes offset (ofInt32 (Int32.ofNat size)), sizeFields := outer }

def apply (b : Buffer) : Event → Buffer
  | .openChunk label version => b.openChunk label version
  | .closeChunk => b.closeChunk
  | .byte value => b.put [value]
  | .int value => b.put (ofInt32 value)
  | .real value => b.put value.toBytes
  | .text value => b.put (StoredText.encode value)

def run (b : Buffer) (events : List Event) : Buffer := events.foldl apply b

def finish (b : Buffer) : List UInt8 :=
  magic ++ Writer.labelTable b.labels ++ (b.sizeFields.length.repeat closeChunk b).bytes

end Buffer

/-! ## Overwriting -/

section Overwrite

variable (bytes before old after field : List UInt8) (position : Nat)

@[simp]
theorem length_overwrite : (overwrite bytes position field).length = bytes.length := by
  induction field generalizing bytes position with
  | nil => rfl
  | cons b field ih => rw [overwrite, ih, List.length_set]

theorem overwrite_append (h : old.length = field.length) :
    overwrite (before ++ (old ++ after)) before.length field = before ++ (field ++ after) := by
  induction field generalizing before old with
  | nil => rw [List.length_eq_zero_iff.1 h, overwrite]
  | cons b field ih =>
      obtain ⟨a, old, rfl⟩ := List.exists_cons_of_length_eq_add_one h
      have hset : (before ++ (a :: old ++ after)).set before.length b =
          (before ++ [b]) ++ (old ++ after) := by simp
      have hlen : before.length + 1 = (before ++ [b]).length := by simp
      rw [overwrite, hset, hlen, ih (before ++ [b]) old (Nat.succ.inj h)]
      simp

end Overwrite

namespace Buffer

/-! ## Sizes -/

/-- Only opening a chunk and writing a value make the buffer longer. -/
theorem length_apply (b : Buffer) (e : Event) :
    (b.apply e).bytes.length = b.bytes.length + e.size := by
  cases e with
  | openChunk label version => simp [apply, openChunk, Event.size]
  | closeChunk =>
      rw [apply, closeChunk]
      split <;> simp [Event.size]
  | _ => simp [apply, put, Event.size]

theorem run_cons (b : Buffer) (e : Event) (events : List Event) :
    b.run (e :: events) = (b.apply e).run events := rfl

theorem length_run (b : Buffer) (events : List Event) :
    (b.run events).bytes.length = b.bytes.length + written events := by
  induction events generalizing b with
  | nil => rfl
  | cons e rest ih => rw [run_cons, ih, length_apply, written, Nat.add_assoc]

/-! ## Closing -/

/-- Closing the innermost open chunk sets its size field, which has been zero, to the number of the
bytes after the field, and changes no other byte. With no chunk open it does nothing. -/
def ClosesInPlace (b : Buffer) : Prop :=
  match b.sizeFields with
  | [] => b.closeChunk = b
  | offset :: outer => ∃ before inside, before.length = offset ∧
      b.bytes = before ++ word 0 ++ inside ∧
      b.closeChunk =
        { b with bytes := before ++ word inside.length ++ inside, sizeFields := outer }

end Buffer

/-! ## The buffer of a writer -/

namespace Writer

/-- What has been written before the content of the innermost of some open chunks. -/
def outside : List Enclosing → List UInt8
  | [] => []
  | chunk :: outer =>
    outside outer ++ chunk.before.toList ++ ofUInt32 chunk.id ++ ofUInt16 chunk.version ++ ofInt32 0

/-- Where the size fields of some open chunks begin. -/
def sizeFields : List Enclosing → List Nat
  | [] => []
  | chunk :: outer => ((outside outer).length + chunk.before.size + 6) :: sizeFields outer

/-- All that has been written as one piece. -/
def buffer (w : Writer) : Buffer where
  labels := w.labels
  bytes := outside w.chunks ++ w.content.toList
  sizeFields := sizeFields w.chunks

@[simp]
theorem length_sizeFields (chunks : List Enclosing) : (sizeFields chunks).length = chunks.length := by
  induction chunks with
  | nil => rfl
  | cons chunk outer ih => rw [sizeFields, List.length_cons, ih, List.length_cons]

theorem buffer_put (w : Writer) (bytes : List UInt8) : (w.put bytes).buffer = w.buffer.put bytes := by
  simp [buffer, put, Buffer.put]

theorem buffer_openChunk (w : Writer) (label : String) (version : UInt16) :
    (w.openChunk label version).buffer = w.buffer.openChunk label version := by
  rw [openChunk_eq]
  simp [buffer, Buffer.openChunk, outside, sizeFields]

/-- The innermost open chunk in the buffer: its size field is zero, and begins where the buffer says
that it does. -/
theorem buffer_of_cons {w : Writer} {chunk : Enclosing} {outer : List Enclosing}
    (h : w.chunks = chunk :: outer) : ∃ before : List UInt8,
      w.buffer.bytes = before ++ (ofInt32 0 ++ w.content.toList) ∧
      w.buffer.sizeFields = before.length :: sizeFields outer ∧
      before = outside outer ++ chunk.before.toList ++ ofUInt32 chunk.id ++ ofUInt16 chunk.version := by
  refine ⟨_, ?_, ?_, rfl⟩
  · simp [buffer, h, outside]
  · simp [buffer, h, sizeFields]
    omega

theorem closeChunk_buffer_of_cons {w : Writer} {before : List UInt8} {outer : List Nat}
    (hbytes : w.buffer.bytes = before ++ (ofInt32 0 ++ w.content.toList))
    (hfields : w.buffer.sizeFields = before.length :: outer) :
    w.buffer.closeChunk =
      ⟨w.labels,
        before ++ (ofInt32 (Int32.ofNat (min w.content.toList.length maxSize)) ++ w.content.toList),
        outer⟩ := by
  have hsize : (before ++ (ofInt32 0 ++ w.content.toList)).length - (before.length + 4) =
      w.content.toList.length := by
    simp
    omega
  have hfield (i : Int32) : (ofInt32 0).length = (ofInt32 i).length := rfl
  rw [Buffer.closeChunk, hfields]
  simp only [hbytes, hsize]
  rw [overwrite_append _ _ _ _ (hfield _)]
  rfl

theorem buffer_closeChunk (w : Writer) : w.closeChunk.buffer = w.buffer.closeChunk := by
  cases hc : w.chunks with
  | nil => simp [closeChunk, Buffer.closeChunk, buffer, hc, sizeFields]
  | cons chunk outer =>
      obtain ⟨before, hbytes, hfields, hbefore⟩ := buffer_of_cons hc
      obtain ⟨hcontent, hchunks⟩ := closeChunk_of_cons hc
      rw [closeChunk_buffer_of_cons hbytes hfields, buffer, hcontent, hchunks, closeChunk_labels,
        hbefore]
      simp [chunkBytes]

/-- The step: writing an event and writing it in place mirror each other. -/
theorem buffer_apply (w : Writer) (e : Event) : (w.apply e).buffer = w.buffer.apply e := by
  cases e with
  | openChunk label version => exact w.buffer_openChunk label version
  | closeChunk => exact w.buffer_closeChunk
  | byte value => exact w.buffer_put _
  | int value => exact w.buffer_put _
  | real value => exact w.buffer_put _
  | text value => exact w.buffer_put _

/-- The run. -/
theorem buffer_run (w : Writer) (events : List Event) :
    (w.run events).buffer = w.buffer.run events := by
  induction events generalizing w with
  | nil => rfl
  | cons e rest ih => rw [run_cons, ih, buffer_apply, Buffer.run_cons]

theorem closeAll_chunks (w : Writer) : w.closeAll.chunks = [] := by
  induction hc : w.chunks generalizing w with
  | nil => rw [closeAll, hc, List.length_nil, Nat.repeat, hc]
  | cons chunk outer ih =>
      rw [closeAll_of_cons hc]
      exact ih _ (closeChunk_of_cons hc).2

theorem finish_buffer (w : Writer) : w.buffer.finish = w.finish := by
  have hrepeat (n : Nat) : n.repeat Buffer.closeChunk w.buffer = (n.repeat closeChunk w).buffer := by
    induction n with
    | zero => rfl
    | succ n ih => rw [Nat.repeat, Nat.repeat, buffer_closeChunk, ih]
  rw [Buffer.finish, hrepeat, finish, buffer, length_sizeFields]
  change _ ++ (outside w.closeAll.chunks ++ w.closeAll.content.toList) = _
  rw [closeAll_chunks, outside, List.nil_append]

/-- What the writer closes it closes in place, as long as no chunk is larger than its size field can
state. -/
theorem buffer_closesInPlace {w : Writer} (h : w.buffer.bytes.length ≤ maxSize) :
    w.buffer.ClosesInPlace := by
  cases hc : w.chunks with
  | nil => simp [Buffer.ClosesInPlace, Buffer.closeChunk, buffer, hc, sizeFields]
  | cons chunk outer =>
      obtain ⟨before, hbytes, hfields, -⟩ := buffer_of_cons hc
      have hsize : w.content.toList.length ≤ maxSize := by
        rw [hbytes] at h
        simp at h ⊢
        omega
      rw [Buffer.ClosesInPlace, hfields]
      refine ⟨before, w.content.toList, rfl, by rw [hbytes, List.append_assoc]; rfl, ?_⟩
      rw [closeChunk_buffer_of_cons hbytes hfields, Nat.min_eq_left hsize, ofInt32_ofNat]
      simp [buffer]

end Writer

end TriggerScript
