/-!
# Latin-1 text

The characters U+0000 to U+00FF take one byte each. Decoding is total; encoding puts a question
mark in the place of a character that no byte can hold.
-/

namespace TriggerScript.Latin1

def holds (c : Char) : Bool := c.toNat ≤ 255

/-- The byte of a character, or that of a question mark. -/
def encodeChar (c : Char) : UInt8 := if holds c then UInt8.ofNat c.toNat else 63

def decodeByte (b : UInt8) : Char := Char.ofNat b.toNat

def encode (s : String) : List UInt8 := s.toList.map encodeChar

def decode (bytes : List UInt8) : String := String.ofList (bytes.map decodeByte)

/-! ## Round trip -/

theorem toNat_decodeByte (b : UInt8) : (decodeByte b).toNat = b.toNat := by
  have h : b.toNat < 256 := b.toNat_lt
  have hv : b.toNat.isValidChar := Or.inl (by omega)
  rw [decodeByte, Char.ofNat, dif_pos hv]
  rfl

theorem holds_decodeByte (b : UInt8) : holds (decodeByte b) = true := by
  have h : b.toNat < 256 := b.toNat_lt
  simp only [holds, toNat_decodeByte, decide_eq_true_eq]
  omega

theorem encodeChar_decodeByte (b : UInt8) : encodeChar (decodeByte b) = b := by
  simp [encodeChar, holds_decodeByte, toNat_decodeByte]

theorem encode_decode (bytes : List UInt8) : encode (decode bytes) = bytes := by
  simp [encode, decode, Function.comp_def, encodeChar_decodeByte]

end TriggerScript.Latin1
