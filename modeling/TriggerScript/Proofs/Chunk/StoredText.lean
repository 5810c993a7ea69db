import TriggerScript.Chunk.StoredText
import TriggerScript.Proofs.Binary.Words

/-!
# What storing keeps of a text

A stored text comes back with a question mark for each character above U+00FF, and without the
characters after the first 65535. A text that fits comes back as it is, and so does every text that
was read from a file.
-/

namespace TriggerScript.StoredText

def keptChar (c : Char) : Char := if c.toNat ≤ 0xFF then c else '?'

/-- The text that comes back for one that was stored. -/
def kept (s : String) : String := String.ofList ((s.toList.map keptChar).take maxLength)

variable {s : String} {bytes : List UInt8}

/-! ## Characters -/

theorem keptChar_of_holds {c : Char} (h : Latin1.holds c = true) : keptChar c = c := by
  rw [Latin1.holds, decide_eq_true_eq] at h
  simp [keptChar, h]

theorem holds_keptChar (c : Char) : Latin1.holds (keptChar c) = true := by
  unfold keptChar
  split
  · simpa [Latin1.holds]
  · decide

theorem decodeByte_encodeChar (c : Char) : Latin1.decodeByte (Latin1.encodeChar c) = keptChar c := by
  by_cases h : c.toNat ≤ 0xFF
  · have hb : (UInt8.ofNat c.toNat).toNat = c.toNat := by
      simp only [UInt8.toNat_ofNat']
      omega
    simp [Latin1.decodeByte, Latin1.encodeChar, Latin1.holds, keptChar, h, hb]
  · simp only [Latin1.encodeChar, Latin1.holds, keptChar, h, decide_false, Bool.false_eq_true,
      ↓reduceIte]
    rfl

/-! ## Texts -/

theorem stored_eq_kept (s : String) : stored s = kept s := by
  simp [stored, kept, content, Latin1.decode, Latin1.encode, List.map_take, decodeByte_encodeChar,
    Function.comp_def]

theorem fits_iff : fits s = true ↔ s.length ≤ maxLength ∧ ∀ c ∈ s.toList, Latin1.holds c = true := by
  simp [fits]

theorem kept_of_fits (h : fits s = true) : kept s = s := by
  obtain ⟨hlen, hchars⟩ := fits_iff.1 h
  have hmap : s.toList.map keptChar = s.toList :=
    (List.map_congr_left fun c hc => keptChar_of_holds (hchars c hc)).trans (List.map_id _)
  rw [kept, hmap, List.take_of_length_le (String.length_toList ▸ hlen), String.ofList_toList]

theorem fits_empty : fits "" = true := by decide

theorem kept_empty : kept "" = "" := kept_of_fits fits_empty

theorem fits_kept (s : String) : fits (kept s) = true := by
  rw [fits_iff]
  constructor
  · rw [kept, String.length_ofList, List.length_take]
    exact Nat.min_le_left _ _
  · intro c hc
    rw [kept, String.toList_ofList] at hc
    obtain ⟨d, _, rfl⟩ := List.mem_map.1 (List.mem_of_mem_take hc)
    exact holds_keptChar d

theorem kept_eq_iff : kept s = s ↔ fits s = true := ⟨fun h => h ▸ fits_kept s, kept_of_fits⟩

theorem fits_decode (h : bytes.length ≤ maxLength) : fits (Latin1.decode bytes) = true := by
  rw [fits_iff]
  constructor
  · simpa [Latin1.decode] using h
  · intro c hc
    rw [Latin1.decode, String.toList_ofList] at hc
    obtain ⟨b, _, rfl⟩ := List.mem_map.1 hc
    exact Latin1.holds_decodeByte b

/-- The bytes from which a text was read are the bytes that store it. -/
theorem encode_decode {length : UInt16} (h : bytes.length = length.toNat) :
    encode (Latin1.decode bytes) = LittleEndian.ofUInt16 length ++ bytes := by
  have hmax : length.toNat < 65536 := length.toNat_lt
  have hcontent : content (Latin1.decode bytes) = bytes := by
    rw [content, Latin1.encode_decode]
    exact List.take_of_length_le (by rw [maxLength]; omega)
  rw [encode, hcontent, h, UInt16.ofNat_toNat]

/-! ## Texts with a byte for each character -/

/-- Only the length of the text can keep it from being stored as it is. -/
def Bytewise (s : String) : Prop := ∀ c ∈ s.toList, Latin1.holds c = true

theorem bytewise_of_fits (h : fits s = true) : Bytewise s := (fits_iff.1 h).2

theorem Bytewise.append {t : String} (hs : Bytewise s) (ht : Bytewise t) : Bytewise (s ++ t) := by
  intro c hc
  rw [String.toList_append] at hc
  exact (List.mem_append.1 hc).elim (hs c) (ht c)

theorem Bytewise.kept_eq_iff (h : Bytewise s) : kept s = s ↔ s.length ≤ maxLength := by
  rw [StoredText.kept_eq_iff, fits_iff]
  exact and_iff_left h

/-! ## Sizes -/

@[simp]
theorem length_content (s : String) : (content s).length = min maxLength s.length := by
  simp [content, Latin1.encode, String.length_toList]

theorem toNat_length_content (s : String) :
    (UInt16.ofNat (content s).length).toNat = (content s).length := by
  have h : (content s).length ≤ 65535 := by
    rw [length_content]
    exact Nat.min_le_left _ _
  rw [UInt16.toNat_ofNat']
  omega

@[simp]
theorem length_encode (s : String) : (encode s).length = 2 + min maxLength s.length := by
  simp [encode]

end TriggerScript.StoredText
