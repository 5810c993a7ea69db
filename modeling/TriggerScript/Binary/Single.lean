import TriggerScript.Binary.FloatFormat
import TriggerScript.Binary.LittleEndian

/-!
# Single-precision numbers

A number is its bit pattern, so that every not-a-number keeps its payload.
-/

namespace TriggerScript

/-- A single-precision number by its bits. -/
structure Single where
  bits : UInt32
  deriving DecidableEq

namespace Single

def zero : Single := ⟨0⟩

instance : Inhabited Single := ⟨zero⟩

def value (x : Single) : FloatValue := FloatFormat.single.decode x.bits.toNat

def isNaN (x : Single) : Bool := x.value = .nan

/-- A zero of either sign. -/
def isZero (x : Single) : Bool := x.bits.toNat % 2147483648 = 0

/-- Equality of numbers: the two zeros are equal, and a not-a-number equals nothing. -/
def sameValue (x y : Single) : Bool :=
  !x.isNaN && !y.isNaN && (x.bits = y.bits || x.isZero && y.isZero)

/-! ## Bytes -/

def toBytes (x : Single) : List UInt8 := LittleEndian.ofUInt32 x.bits

def take? (bytes : List UInt8) : Option (Single × List UInt8) :=
  (LittleEndian.takeUInt32? bytes).map fun (bits, rest) => (⟨bits⟩, rest)

theorem length_of_take? {bytes rest : List UInt8} {x : Single} (h : take? bytes = some (x, rest)) :
    bytes.length = rest.length + 4 := by
  obtain ⟨⟨w, r⟩, hw, hr⟩ := Option.map_eq_some_iff.1 h
  cases hr
  exact LittleEndian.length_of_takeUInt32? hw

end Single

end TriggerScript
