import TriggerScript.Binary.Single

/-!
# Round trips of words

Taking a word from the front of a list finds exactly the words that were written there: the bytes
taken are the bytes of the word.
-/

namespace TriggerScript

namespace LittleEndian

variable {bytes rest : List UInt8}

/-! ## What is written can be taken -/

@[simp]
theorem takeByte?_append (b : UInt8) (rest : List UInt8) : takeByte? ([b] ++ rest) = some (b, rest) :=
  rfl

@[simp]
theorem takeUInt16?_append (w : UInt16) (rest : List UInt8) :
    takeUInt16? (ofUInt16 w ++ rest) = some (w, rest) := by
  have hw : w.toNat < 65536 := w.toNat_lt
  simp only [ofUInt16, List.cons_append, List.nil_append, takeUInt16?, Option.some.injEq,
    Prod.mk.injEq, and_true]
  apply UInt16.toNat_inj.1
  simp only [UInt8.toNat_ofNat', UInt16.toNat_ofNat']
  omega

@[simp]
theorem takeUInt32?_append (w : UInt32) (rest : List UInt8) :
    takeUInt32? (ofUInt32 w ++ rest) = some (w, rest) := by
  have hw : w.toNat < 4294967296 := w.toNat_lt
  simp only [ofUInt32, List.cons_append, List.nil_append, takeUInt32?, Option.some.injEq,
    Prod.mk.injEq, and_true]
  apply UInt32.toNat_inj.1
  simp only [UInt8.toNat_ofNat', UInt32.toNat_ofNat']
  omega

@[simp]
theorem takeInt32?_append (i : Int32) (rest : List UInt8) :
    takeInt32? (ofInt32 i ++ rest) = some (i, rest) := by
  simp [takeInt32?, ofInt32]

@[simp]
theorem takeBytes?_append {n : Nat} {front : List UInt8} (rest : List UInt8) (h : front.length = n) :
    takeBytes? n (front ++ rest) = some (front, rest) :=
  takeBytes?_eq_some_iff.2 ⟨rfl, h⟩

/-! ## Sizes -/

@[simp]
theorem length_ofUInt16 (w : UInt16) : (ofUInt16 w).length = 2 := rfl

@[simp]
theorem length_ofUInt32 (w : UInt32) : (ofUInt32 w).length = 4 := rfl

@[simp]
theorem length_ofInt32 (i : Int32) : (ofInt32 i).length = 4 := rfl

/-! ## What is taken was written -/

theorem takeByte?_eq_some_iff {b : UInt8} :
    takeByte? bytes = some (b, rest) ↔ bytes = [b] ++ rest := by
  cases bytes <;> simp [takeByte?]

theorem takeUInt16?_eq_some_iff {w : UInt16} :
    takeUInt16? bytes = some (w, rest) ↔ bytes = ofUInt16 w ++ rest := by
  constructor
  · intro h
    unfold takeUInt16? at h
    split at h
    · rename_i a b rest'
      cases h
      have ha : a.toNat < 256 := a.toNat_lt
      have hb : b.toNat < 256 := b.toNat_lt
      have hw : (UInt16.ofNat (a.toNat + 256 * b.toNat)).toNat = a.toNat + 256 * b.toNat := by
        rw [UInt16.toNat_ofNat']
        omega
      simp only [ofUInt16, hw, List.cons_append, List.nil_append, List.cons.injEq, and_true]
      constructor <;> apply UInt8.toNat_inj.1 <;> rw [UInt8.toNat_ofNat'] <;> omega
    · cases h
  · rintro rfl
    exact takeUInt16?_append w rest

theorem takeUInt32?_eq_some_iff {w : UInt32} :
    takeUInt32? bytes = some (w, rest) ↔ bytes = ofUInt32 w ++ rest := by
  constructor
  · intro h
    unfold takeUInt32? at h
    split at h
    · rename_i a b c d rest'
      cases h
      have ha : a.toNat < 256 := a.toNat_lt
      have hb : b.toNat < 256 := b.toNat_lt
      have hc : c.toNat < 256 := c.toNat_lt
      have hd : d.toNat < 256 := d.toNat_lt
      have hw : (UInt32.ofNat
          (a.toNat + 256 * b.toNat + 65536 * c.toNat + 16777216 * d.toNat)).toNat =
            a.toNat + 256 * b.toNat + 65536 * c.toNat + 16777216 * d.toNat := by
        rw [UInt32.toNat_ofNat']
        omega
      simp only [ofUInt32, hw, List.cons_append, List.nil_append, List.cons.injEq, and_true]
      refine ⟨?_, ?_, ?_, ?_⟩ <;> apply UInt8.toNat_inj.1 <;> rw [UInt8.toNat_ofNat'] <;> omega
    · cases h
  · rintro rfl
    exact takeUInt32?_append w rest

theorem takeInt32?_eq_some_iff {i : Int32} :
    takeInt32? bytes = some (i, rest) ↔ bytes = ofInt32 i ++ rest := by
  constructor
  · intro h
    obtain ⟨⟨w, rest'⟩, hw, hi⟩ := Option.map_eq_some_iff.1 h
    cases hi
    simpa [ofInt32] using takeUInt32?_eq_some_iff.1 hw
  · rintro rfl
    exact takeInt32?_append i rest

/-! ## Words of a fixed width -/

/-- Each value has `width` bytes: `take?` finds exactly the values whose bytes are at the front, and
all that many bytes are the bytes of a value. -/
structure FixedWidth {α : Type} (take? : List UInt8 → Option (α × List UInt8))
    (encode : α → List UInt8) (width : Nat) : Prop where
  take?_eq_some_iff : ∀ {bytes a rest}, take? bytes = some (a, rest) ↔
    bytes = encode a ++ rest ∧ (encode a).length = width
  exists_encode : ∀ bytes, bytes.length = width → ∃ a, encode a = bytes

theorem FixedWidth.eq_none {α : Type} {take? : List UInt8 → Option (α × List UInt8)}
    {encode : α → List UInt8} {width : Nat} (h : FixedWidth take? encode width)
    (hb : bytes.length < width) : take? bytes = none := by
  rw [Option.eq_none_iff_forall_ne_some]
  rintro ⟨a, rest⟩ htake
  obtain ⟨rfl, ha⟩ := h.take?_eq_some_iff.1 htake
  rw [List.length_append] at hb
  omega

theorem FixedWidth.exists_append {α : Type} {take? : List UInt8 → Option (α × List UInt8)}
    {encode : α → List UInt8} {width : Nat} (h : FixedWidth take? encode width)
    (hb : width ≤ bytes.length) : ∃ a rest, encode a ++ rest = bytes := by
  obtain ⟨a, ha⟩ := h.exists_encode (bytes.take width) (List.length_take_of_le hb)
  exact ⟨a, bytes.drop width, by rw [ha, List.take_append_drop]⟩

theorem fixedWidth_byte : FixedWidth takeByte? (fun b => [b]) 1 where
  take?_eq_some_iff := by simp [takeByte?_eq_some_iff]
  exists_encode bytes h := by
    obtain ⟨b, rfl⟩ := List.length_eq_one_iff.1 h
    exact ⟨b, rfl⟩

theorem fixedWidth_uint16 : FixedWidth takeUInt16? ofUInt16 2 where
  take?_eq_some_iff := by simp [takeUInt16?_eq_some_iff]
  exists_encode bytes h := by
    match bytes, h with
    | [a, b], _ =>
      have hw : [a, b] = ofUInt16 _ ++ [] := takeUInt16?_eq_some_iff.1 rfl
      exact ⟨_, (hw.trans (List.append_nil _)).symm⟩

theorem fixedWidth_uint32 : FixedWidth takeUInt32? ofUInt32 4 where
  take?_eq_some_iff := by simp [takeUInt32?_eq_some_iff]
  exists_encode bytes h := by
    match bytes, h with
    | [a, b, c, d], _ =>
      have hw : [a, b, c, d] = ofUInt32 _ ++ [] := takeUInt32?_eq_some_iff.1 rfl
      exact ⟨_, (hw.trans (List.append_nil _)).symm⟩

theorem fixedWidth_int32 : FixedWidth takeInt32? ofInt32 4 where
  take?_eq_some_iff := by simp [takeInt32?_eq_some_iff]
  exists_encode bytes h := by
    obtain ⟨w, rfl⟩ := fixedWidth_uint32.exists_encode bytes h
    exact ⟨w.toInt32, by simp [ofInt32]⟩

theorem fixedWidth_bytes (n : Nat) : FixedWidth (takeBytes? n) id n where
  take?_eq_some_iff := takeBytes?_eq_some_iff
  exists_encode bytes _ := ⟨bytes, rfl⟩

end LittleEndian

namespace Single

@[simp]
theorem take?_append (x : Single) (rest : List UInt8) : take? (x.toBytes ++ rest) = some (x, rest) := by
  simp [take?, toBytes]

@[simp]
theorem length_toBytes (x : Single) : x.toBytes.length = 4 := rfl

theorem take?_eq_some_iff {bytes rest : List UInt8} {x : Single} :
    take? bytes = some (x, rest) ↔ bytes = x.toBytes ++ rest := by
  constructor
  · intro h
    obtain ⟨⟨w, rest'⟩, hw, hx⟩ := Option.map_eq_some_iff.1 h
    cases hx
    exact LittleEndian.takeUInt32?_eq_some_iff.1 hw
  · rintro rfl
    exact take?_append x rest

theorem fixedWidth : LittleEndian.FixedWidth take? toBytes 4 where
  take?_eq_some_iff := by simp [take?_eq_some_iff]
  exists_encode bytes h := by
    obtain ⟨w, rfl⟩ := LittleEndian.fixedWidth_uint32.exists_encode bytes h
    exact ⟨⟨w⟩, rfl⟩

end Single

end TriggerScript
