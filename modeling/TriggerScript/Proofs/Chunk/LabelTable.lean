import TriggerScript.Proofs.Binary.Words
import TriggerScript.Proofs.Chunk.Layout

/-!
# Reading back the label table

The table that a writer puts in front of a file is taken off as a whole, and the identifier of a
label that was used stands for what is kept of the label: an ASCII label of at most 255 characters
is kept as it is.
-/

namespace TriggerScript

open LittleEndian

/-- The label that comes back for one that was written. -/
def keptLabel (label : String) : String := Latin1.decode (Writer.labelName label)

/-! ## ASCII labels -/

theorem utf8EncodeChar_of_ascii {c : Char} (h : c.toNat < 128) :
    String.utf8EncodeChar c = [UInt8.ofNat c.toNat] := by
  have hle : c.val.toNat ≤ 0x7F := Nat.le_of_lt_succ h
  simp only [String.utf8EncodeChar, if_pos hle]
  rfl

theorem keptLabel_of_ascii {label : String} (hascii : ∀ c ∈ label.toList, c.toNat < 128)
    (hlen : label.length ≤ 255) : keptLabel label = label := by
  have hbytes : label.toList.flatMap String.utf8EncodeChar =
      label.toList.map fun c => UInt8.ofNat c.toNat := by
    rw [List.map_eq_flatMap, List.flatMap_def, List.flatMap_def]
    rw [List.map_congr_left fun c hc => utf8EncodeChar_of_ascii (hascii c hc)]
  have hchar (c : Char) (hc : c ∈ label.toList) :
      (Latin1.decodeByte ∘ fun c => UInt8.ofNat c.toNat) c = c := by
    have hb : (UInt8.ofNat c.toNat).toNat = c.toNat := by
      have := hascii c hc
      rw [UInt8.toNat_ofNat']
      omega
    simp [Latin1.decodeByte, hb]
  have htake : (label.toList.map fun c => UInt8.ofNat c.toNat).length ≤ 255 := by
    rwa [List.length_map, String.length_toList]
  rw [keptLabel, Writer.labelName, hbytes, List.take_of_length_le htake, Latin1.decode, List.map_map,
    List.map_congr_left hchar, List.map_id', String.ofList_toList]

/-- Nothing else is kept as an ASCII label of less than 255 characters. -/
theorem keptLabel_eq_iff {label other : String}
    (hascii : label.toList.all (fun c => c.toNat < 128) = true) (hlen : label.length < 255) :
    keptLabel other = label ↔ other = label := by
  have hkept : keptLabel label = label :=
    keptLabel_of_ascii (by simpa using hascii) (Nat.le_of_lt hlen)
  constructor
  · intro h
    have hname : Writer.labelName other = Writer.labelName label := by
      rw [← Latin1.encode_decode (Writer.labelName other),
        ← Latin1.encode_decode (Writer.labelName label)]
      exact congrArg Latin1.encode (h.trans hkept.symm)
    -- A label that had been cut would have all of the 255 bytes.
    have hshort : (Writer.labelName label).length < 255 := by
      have hlength := congrArg String.length hkept
      rw [keptLabel, Latin1.decode, String.length_ofList, List.length_map] at hlength
      omega
    have huncut {l : String} (hl : Writer.labelName l = Writer.labelName label) :
        Writer.labelName l = l.toList.flatMap String.utf8EncodeChar := by
      rw [← hl, Writer.labelName, List.length_take] at hshort
      exact List.take_of_length_le (by omega)
    have hutf8 : other.toList.utf8Encode = label.toList.utf8Encode :=
      congrArg List.toByteArray ((huncut hname).symm.trans (hname.trans (huncut rfl)))
    rw [String.utf8Encode_toList, String.utf8Encode_toList] at hutf8
    exact String.toByteArray_inj.1 hutf8
  · rintro rfl
    exact hkept

/-! ## Entries -/

theorem length_labelName_le (label : String) : (Writer.labelName label).length ≤ 255 :=
  List.length_take_le _ _

theorem toNat_length_labelName (label : String) :
    (UInt8.ofNat (Writer.labelName label).length).toNat = (Writer.labelName label).length := by
  have := length_labelName_le label
  rw [UInt8.toNat_ofNat']
  omega

namespace LabelTable

theorem suffix_of_takeItem? {bytes rest : List UInt8} {entry : UInt32 × String}
    (h : takeItem? bytes = some (entry, rest)) : rest <:+ bytes := by
  simp only [takeItem?, Option.bind_eq_bind, Option.bind_eq_some_iff, Prod.exists] at h
  obtain ⟨length, _, hlength, name, _, hname, id, _, hid, h⟩ := h
  cases h
  rw [takeByte?_eq_some_iff.1 hlength, (takeBytes?_eq_some_iff.1 hname).1,
    takeUInt32?_eq_some_iff.1 hid]
  exact ((List.suffix_append _ _).trans (List.suffix_append _ _)).trans (List.suffix_append _ _)

theorem suffix_of_takeEntries? {count : Nat} {table table' : LabelTable} {bytes rest : List UInt8}
    (h : takeEntries? count table bytes = some (table', rest)) : rest <:+ bytes := by
  induction count generalizing table bytes with
  | zero =>
      cases h
      exact List.suffix_refl _
  | succ count ih =>
      rw [takeEntries?] at h
      split at h
      · rename_i entry mid hitem
        exact (ih h).trans (suffix_of_takeItem? hitem)
      · cases h

/-- A table is at the front of the bytes: what is left is the rest of them. -/
theorem suffix_of_take? {bytes rest : List UInt8} {table : LabelTable}
    (h : take? bytes = some (table, rest)) : rest <:+ bytes := by
  simp only [take?, Option.bind_eq_bind, Option.bind_eq_some_iff, Prod.exists] at h
  obtain ⟨count, _, hcount, h⟩ := h
  rw [takeInt32?_eq_some_iff.1 hcount]
  exact (suffix_of_takeEntries? h).trans (List.suffix_append _ _)

def entries (ids : Nat → UInt32) (labels : List String) : LabelTable :=
  labels.mapIdx fun index label => (ids index, keptLabel label)

theorem takeItem?_append (label : String) (id : UInt32) (rest : List UInt8) :
    takeItem? (Writer.labelEntry label id ++ rest) = some ((id, keptLabel label), rest) := by
  have hlen := (toNat_length_labelName label).symm
  simp only [takeItem?, Writer.labelEntry, List.cons_append, takeByte?, List.append_assoc,
    Option.bind_eq_bind, Option.bind_some, takeBytes?_append _ hlen, takeUInt32?_append]
  rfl

theorem takeEntries?_append (ids : Nat → UInt32) (labels : List String) (table : LabelTable)
    (rest : List UInt8) :
    takeEntries? labels.length table
        ((labels.mapIdx fun index label => Writer.labelEntry label (ids index)).flatten ++ rest) =
      some ((entries ids labels).reverse ++ table, rest) := by
  induction labels generalizing ids table with
  | nil => rfl
  | cons label labels ih =>
      have h := ih (fun index => ids (index + 1)) ((ids 0, keptLabel label) :: table)
      simp only [List.length_cons, takeEntries?, List.mapIdx_cons, List.flatten_cons,
        List.append_assoc, takeItem?_append, h]
      simp [entries, List.mapIdx_cons]

theorem take?_append {labels : List String} (h : labels.length ≤ maxSize) (rest : List UInt8) :
    take? (Writer.labelTable labels ++ rest) =
      some ((entries Writer.idAt labels).reverse, rest) := by
  have hcount : (Int32.ofNat labels.length).toInt.toNat = labels.length := by
    rw [Int32.toInt_ofNat_of_lt (by rw [maxSize] at h; omega)]
    rfl
  simp only [take?, Writer.labelTable, List.append_assoc, takeInt32?_append, Option.bind_eq_bind,
    Option.bind_some, hcount, takeEntries?_append, List.append_nil]

/-! ## Identifiers -/

/-- A table in which the labels that events open are found under their identifiers. -/
def Covers (table : LabelTable) (id : String → UInt32) (events : List Event) : Prop :=
  ∀ label version, .openChunk label version ∈ events → table.label? (id label) = some (keptLabel label)

theorem Covers.mono {table : LabelTable} {id : String → UInt32} {events part : List Event}
    (h : table.Covers id events) (hsub : part ⊆ events) : table.Covers id part :=
  fun label version hmem => h label version (hsub hmem)

theorem idAt_ne {i j : Nat} (hij : i < j) (hj : j ≤ maxSize) : Writer.idAt i ≠ Writer.idAt j := by
  intro h
  have h := congrArg UInt32.toNat h
  rw [maxSize] at hj
  simp only [Writer.idAt, UInt32.toNat_ofNat'] at h
  omega

theorem label?_labelId {labels : List String} {label : String} (h : labels.length ≤ maxSize)
    (hmem : label ∈ labels) :
    label? (entries Writer.idAt labels).reverse (labelId labels label) = some (keptLabel label) := by
  obtain ⟨before, after, rfl, hfirst⟩ := List.eq_append_cons_of_mem hmem
  have hid : labelId (before ++ label :: after) label = Writer.idAt before.length := by
    rw [labelId, List.idxOf_append, if_neg hfirst, List.idxOf_cons_self, Nat.zero_add]
  rw [hid, label?, List.lookup_eq_some_iff, entries, List.mapIdx_append, List.mapIdx_cons,
    List.reverse_append, List.reverse_cons, List.append_assoc, Nat.zero_add]
  refine ⟨_, _, rfl, fun entry hentry => ?_⟩
  -- the entries after that of the label have greater identifiers
  obtain ⟨i, hi, rfl⟩ := List.mem_mapIdx.1 (List.mem_reverse.1 hentry)
  rw [List.length_append, List.length_cons] at h
  rw [bne_iff_ne]
  exact idAt_ne (by omega) (by omega)

theorem covers_entries {events : List Event} (h : (internAll [] events).length ≤ maxSize) :
    Covers (entries Writer.idAt (internAll [] events)).reverse (labelId (internAll [] events)) events :=
  fun _ _ hmem => label?_labelId h (mem_internAll hmem)

end LabelTable

/-- A file that was written can be opened, and all that was written comes after its table. -/
theorem ofBytes_writeFile {κ : Type} {events : List Event}
    (h : (internAll [] events).length ≤ maxSize) :
    Reader.ofBytes (writeFile events) =
      .ok (⟨(LabelTable.entries Writer.idAt (internAll [] events)).reverse, [],
        (ahead (labelId (internAll [] events)) 0 events).1, []⟩ : Reader κ) := by
  have htake (rest : List UInt8) : takeBytes? magic.length (magic ++ rest) = some (magic, rest) :=
    takeBytes?_append rest rfl
  rw [writeFile_eq, List.append_assoc, Reader.ofBytes, htake]
  simp only [if_pos, LabelTable.take?_append h]

end TriggerScript
