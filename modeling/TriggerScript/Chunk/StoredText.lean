import TriggerScript.Text.Latin1
import TriggerScript.Binary.LittleEndian

/-!
# Stored text

Chunk files store text as a 16-bit length and one byte a character. Text that is too long is cut,
and characters without a byte become question marks.
-/

namespace TriggerScript.StoredText

def maxLength : Nat := 65535

/-- Text that is stored without a change. -/
def fits (s : String) : Bool := s.length ≤ maxLength && s.toList.all Latin1.holds

/-- The bytes of the characters that are stored. -/
def content (s : String) : List UInt8 := (Latin1.encode s).take maxLength

def encode (s : String) : List UInt8 :=
  LittleEndian.ofUInt16 (UInt16.ofNat (content s).length) ++ content s

def stored (s : String) : String := Latin1.decode (content s)

end TriggerScript.StoredText
