import TriggerScript.Text.Latin1
import TriggerScript.Binary.LittleEndian

/-!
# Label tables

A chunk file begins with the magic bytes and a table that gives each label an identifier. The table
is a count and that many entries; an entry is a length, a name and an identifier.
-/

namespace TriggerScript

def magic : List UInt8 := [0x43, 0x6B, 0x4D, 0x70]

/-- Identifiers and labels, the latest entry first. -/
abbrev LabelTable := List (UInt32 × String)

namespace LabelTable

open LittleEndian

/-- The label of an identifier: the one that was entered last. -/
def label? (table : LabelTable) (id : UInt32) : Option String := table.lookup id

/-- One entry: the length of the name, the name and the identifier. -/
def takeItem? (bytes : List UInt8) : Option ((UInt32 × String) × List UInt8) := do
  let (length, bytes) ← takeByte? bytes
  let (name, bytes) ← takeBytes? length.toNat bytes
  let (id, bytes) ← takeUInt32? bytes
  return ((id, Latin1.decode name), bytes)

theorem length_of_takeItem? {bytes rest : List UInt8} {entry : UInt32 × String}
    (h : takeItem? bytes = some (entry, rest)) : rest.length + 5 ≤ bytes.length := by
  simp only [takeItem?, Option.bind_eq_bind, Option.bind_eq_some_iff, Prod.exists] at h
  obtain ⟨n, r₁, h₁, name, r₂, h₂, id, r₃, h₃, h⟩ := h
  cases h
  have := length_of_takeByte? h₁
  have := length_of_takeBytes? h₂
  have := length_of_takeUInt32? h₃
  omega

def takeEntries? (count : Nat) (table : LabelTable) (bytes : List UInt8) :
    Option (LabelTable × List UInt8) :=
  match count with
  | 0 => some (table, bytes)
  | count + 1 =>
    match takeItem? bytes with
    | some (entry, rest) => takeEntries? count (entry :: table) rest
    | none => none

/-- A count and its entries. A negative count stands for none. -/
def take? (bytes : List UInt8) : Option (LabelTable × List UInt8) := do
  let (count, bytes) ← takeInt32? bytes
  takeEntries? count.toInt.toNat [] bytes

end LabelTable

end TriggerScript
