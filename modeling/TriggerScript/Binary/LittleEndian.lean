/-!
# Little-endian words

Words are written with the least significant byte first. A reader takes the bytes of a word from
the front of a list, or nothing when the list is too short.
-/

namespace TriggerScript.LittleEndian

/-! ## Writing -/

def ofUInt16 (w : UInt16) : List UInt8 :=
  [UInt8.ofNat w.toNat, UInt8.ofNat (w.toNat / 256)]

def ofUInt32 (w : UInt32) : List UInt8 :=
  [UInt8.ofNat w.toNat, UInt8.ofNat (w.toNat / 256),
    UInt8.ofNat (w.toNat / 65536), UInt8.ofNat (w.toNat / 16777216)]

/-- Signed words are written in two's complement. -/
def ofInt32 (i : Int32) : List UInt8 := ofUInt32 i.toUInt32

/-! ## Reading -/

def takeByte? : List UInt8 → Option (UInt8 × List UInt8)
  | a :: rest => some (a, rest)
  | _ => none

def takeUInt16? : List UInt8 → Option (UInt16 × List UInt8)
  | a :: b :: rest => some (UInt16.ofNat (a.toNat + 256 * b.toNat), rest)
  | _ => none

def takeUInt32? : List UInt8 → Option (UInt32 × List UInt8)
  | a :: b :: c :: d :: rest =>
    some (UInt32.ofNat (a.toNat + 256 * b.toNat + 65536 * c.toNat + 16777216 * d.toNat), rest)
  | _ => none

def takeInt32? (bytes : List UInt8) : Option (Int32 × List UInt8) :=
  (takeUInt32? bytes).map fun (w, rest) => (w.toInt32, rest)

def takeBytes? (n : Nat) (bytes : List UInt8) : Option (List UInt8 × List UInt8) :=
  let (front, rest) := bytes.splitAt n
  if front.length = n then some (front, rest) else none

/-! ## What a reader leaves -/

variable {bytes rest : List UInt8}

theorem length_of_takeByte? {b : UInt8} (h : takeByte? bytes = some (b, rest)) :
    bytes.length = rest.length + 1 := by
  cases bytes <;> simp_all [takeByte?]

theorem length_of_takeUInt16? {w : UInt16} (h : takeUInt16? bytes = some (w, rest)) :
    bytes.length = rest.length + 2 := by
  unfold takeUInt16? at h
  split at h <;> simp_all

theorem length_of_takeUInt32? {w : UInt32} (h : takeUInt32? bytes = some (w, rest)) :
    bytes.length = rest.length + 4 := by
  unfold takeUInt32? at h
  split at h <;> simp_all

theorem length_of_takeInt32? {i : Int32} (h : takeInt32? bytes = some (i, rest)) :
    bytes.length = rest.length + 4 := by
  obtain ⟨⟨w, r⟩, hw, hr⟩ := Option.map_eq_some_iff.1 h
  cases hr
  exact length_of_takeUInt32? hw

theorem takeBytes?_eq_some_iff {n : Nat} {front : List UInt8} :
    takeBytes? n bytes = some (front, rest) ↔ bytes = front ++ rest ∧ front.length = n := by
  simp only [takeBytes?, List.splitAt_eq, Option.ite_none_right_eq_some, Option.some.injEq,
    Prod.mk.injEq]
  constructor
  · rintro ⟨hn, rfl, rfl⟩
    exact ⟨(List.take_append_drop n bytes).symm, hn⟩
  · rintro ⟨rfl, rfl⟩
    simp

theorem length_of_takeBytes? {n : Nat} {front : List UInt8}
    (h : takeBytes? n bytes = some (front, rest)) : bytes.length = rest.length + n := by
  obtain ⟨rfl, rfl⟩ := takeBytes?_eq_some_iff.1 h
  simp [Nat.add_comm]

end TriggerScript.LittleEndian
