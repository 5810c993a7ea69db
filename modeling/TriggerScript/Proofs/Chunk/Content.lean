import TriggerScript.Proofs.Chunk.LabelTable

/-!
# Contents

What is written in a chunk, or at the top level of a file, as a tree of bytes and chunks. The events
that write it close each chunk that they open, and no other, so that its bytes are found in one
piece: each chunk with a header that states its size, whatever has been written before it.
-/

namespace TriggerScript

open LittleEndian

/-- Bytes and chunks, in the order in which they are written. -/
inductive Content where
  | nil
  | data (bytes : List UInt8) (rest : Content)
  | chunk (label : String) (version : UInt16) (inside rest : Content)

namespace Content

/-- The events that write a content. -/
def events : Content → List Event
  | nil => []
  | data bytes rest => bytes.map .byte ++ rest.events
  | chunk label version inside rest =>
    .openChunk label version :: inside.events ++ [.closeChunk] ++ rest.events

/-- The bytes of a content, for given identifiers of labels. -/
def bytes (id : String → UInt32) : Content → List UInt8
  | nil => []
  | data bytes rest => bytes ++ rest.bytes id
  | chunk label version inside rest =>
    chunkBytes (id label) version (inside.bytes id) ++ rest.bytes id

def size : Content → Nat
  | nil => 0
  | data bytes rest => bytes.length + rest.size
  | chunk _ _ inside rest => 10 + inside.size + rest.size

/-- What holds of every chunk of a content, at any depth. -/
def Each (P : String → UInt16 → Content → Prop) : Content → Prop
  | nil => True
  | data _ rest => rest.Each P
  | chunk label version inside rest => P label version inside ∧ inside.Each P ∧ rest.Each P

/-- No bytes stand between chunks, at any depth. -/
def OnlyChunks : Content → Prop
  | nil => True
  | data _ _ => False
  | chunk _ _ inside rest => inside.OnlyChunks ∧ rest.OnlyChunks

variable {P Q : String → UInt16 → Content → Prop}

instance decidableEach [∀ label version inside, Decidable (P label version inside)] :
    (c : Content) → Decidable (c.Each P)
  | nil => isTrue trivial
  | data _ rest => decidableEach rest
  | chunk label version inside rest =>
    have := decidableEach inside
    have := decidableEach rest
    inferInstanceAs (Decidable (P label version inside ∧ inside.Each P ∧ rest.Each P))

instance decidableOnlyChunks : (c : Content) → Decidable c.OnlyChunks
  | nil => isTrue trivial
  | data _ _ => isFalse id
  | chunk _ _ inside rest =>
    have := decidableOnlyChunks inside
    have := decidableOnlyChunks rest
    inferInstanceAs (Decidable (inside.OnlyChunks ∧ rest.OnlyChunks))

theorem Each.mono {c : Content} (h : c.Each P)
    (hPQ : ∀ label version inside, P label version inside → Q label version inside) : c.Each Q := by
  induction c with
  | nil => trivial
  | data bytes rest ih => exact ih h
  | chunk label version inside rest ihInside ihRest =>
      exact ⟨hPQ label version inside h.1, ihInside h.2.1, ihRest h.2.2⟩

/-- The 32-bit fields of a file can state the size of every chunk and the number of labels. The size
of a larger chunk would be written too small. -/
structure Storable (c : Content) : Prop where
  sizes : c.Each fun _ _ inside => inside.size ≤ 2147483647
  labels : (internAll [] c.events).length ≤ 2147483647

/-! ## What is written -/

variable (id : String → UInt32)

@[simp]
theorem length_bytes (c : Content) : (c.bytes id).length = c.size := by
  induction c with
  | nil => rfl
  | data bytes rest ih => simp [Content.bytes, size, ih]
  | chunk label version inside rest ihInside ihRest =>
      simp [Content.bytes, size, ihInside, ihRest]

theorem events_writes (c : Content) : Writes id c.events (c.bytes id) := by
  induction c with
  | nil => exact .nil
  | data bytes rest ih =>
      have hbytes : Writes id (bytes.flatMap fun b => [.byte b]) (bytes.flatMap fun b => [b]) :=
        Writes.flatMap fun b _ => Writes.byte b
      rw [← List.map_eq_flatMap, ← List.map_eq_flatMap, List.map_id'] at hbytes
      exact hbytes.append ih
  | chunk label version inside rest ihInside ihRest =>
      exact (Writes.chunk label version ihInside).append ihRest

theorem each_size_le {c : Content} {n : Nat} (h : c.size ≤ n) :
    c.Each fun _ _ inside => inside.size ≤ n := by
  induction c with
  | nil => trivial
  | data bytes rest ih => exact ih (Nat.le_trans (Nat.le_add_left _ _) h)
  | chunk label version inside rest ihInside ihRest =>
      rw [size] at h
      have hinside : inside.size ≤ n := by omega
      have hrest : rest.size ≤ n := by omega
      exact ⟨hinside, ihInside hinside, ihRest hrest⟩

/-- A content is storable if all of it is no larger than a chunk can be: each label is used by some
chunk of it. -/
theorem storable_of_size_le {c : Content} (h : c.size ≤ 2147483647) : c.Storable where
  sizes := each_size_le h
  labels := by
    let id : String → UInt32 := fun _ => 0
    have hlen := length_internAll_le [] c.events
    rw [← length_ahead id, (c.events_writes id).ahead_eq, length_bytes, List.length_nil,
      Nat.zero_add] at hlen
    exact Nat.le_trans hlen h

/-! ## What is read -/

/-- A content of which each chunk can be taken off its bytes. -/
structure Legible (labels : LabelTable) (id : String → UInt32) (c : Content) : Prop where
  covers : labels.Covers id c.events
  sizes : c.Each fun _ _ inside => inside.size ≤ maxSize

namespace Legible

variable {labels : LabelTable} {id : String → UInt32}
variable {label : String} {version : UInt16} {written : List UInt8} {here after : Content}

theorem of_data (h : (data written after).Legible labels id) : after.Legible labels id :=
  ⟨h.covers.mono fun e he => by simp [events, he], h.sizes⟩

theorem inside (h : (chunk label version here after).Legible labels id) : here.Legible labels id :=
  ⟨h.covers.mono fun e he => by simp [events, he], h.sizes.2.1⟩

theorem rest (h : (chunk label version here after).Legible labels id) : after.Legible labels id :=
  ⟨h.covers.mono fun e he => by simp [events, he], h.sizes.2.2⟩

theorem takeChunk (h : (chunk label version here after).Legible labels id) :
    TriggerScript.takeChunk labels ((chunk label version here after).bytes id) =
      .ok (⟨keptLabel label, version, here.bytes id⟩, after.bytes id) := by
  have hlabel : labels.label? (id label) = some (keptLabel label) :=
    h.covers label version (by simp [events])
  have hsize : (here.bytes id).length ≤ maxSize := by
    rw [length_bytes]
    exact h.sizes.1
  exact takeChunk_append hlabel hsize version (after.bytes id)

end Legible

/-- A file of a content can be opened, and the content comes after its label table. -/
theorem Storable.ofBytes_writeFile {κ : Type} {c : Content} (h : c.Storable) :
    ∃ labels id, c.Legible labels id ∧
      Reader.ofBytes (writeFile c.events) = .ok (⟨labels, [], c.bytes id, []⟩ : Reader κ) := by
  refine ⟨_, labelId (internAll [] c.events), ⟨LabelTable.covers_entries h.labels, h.sizes⟩, ?_⟩
  rw [TriggerScript.ofBytes_writeFile h.labels, (c.events_writes _).ahead_eq]

end Content

end TriggerScript
