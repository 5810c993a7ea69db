/-!
# Binary floating point

A format is given by the widths of its two stored fields. Finite values are kept exactly, as an
integer times a power of two, so that everything below is arithmetic on natural numbers.
-/

namespace TriggerScript

/-- A binary interchange format: how many bits hold the fraction and how many the exponent. -/
structure FloatFormat where
  fractionBits : Nat
  exponentBits : Nat

/-- What a floating-point number is: `finite s m q` is `m * 2 ^ q`, negated when `s` holds. -/
inductive FloatValue where
  | nan
  | infinite (negative : Bool)
  | finite (negative : Bool) (significand : Nat) (exponent : Int)
  deriving DecidableEq

namespace FloatFormat

def single : FloatFormat := ⟨23, 8⟩

def double : FloatFormat := ⟨52, 11⟩

/-- The exponent of subnormal numbers, the least there is. -/
def leastExponent (f : FloatFormat) : Int :=
  2 - Nat.pow 2 (f.exponentBits - 1) - f.fractionBits

/-- The exponent of the largest finite numbers. -/
def greatestExponent (f : FloatFormat) : Int :=
  Nat.pow 2 (f.exponentBits - 1) - 1 - f.fractionBits

/-- The least significand of a normal number. -/
def hiddenBit (f : FloatFormat) : Nat := Nat.pow 2 f.fractionBits

/-- The value of a bit pattern: sign, exponent and fraction, from the most significant bit on. -/
def decode (f : FloatFormat) (bits : Nat) : FloatValue :=
  let fraction := bits % f.hiddenBit
  let stored := bits / f.hiddenBit % Nat.pow 2 f.exponentBits
  let negative := bits / f.hiddenBit / Nat.pow 2 f.exponentBits % 2 = 1
  if stored = Nat.pow 2 f.exponentBits - 1 then
    if fraction = 0 then .infinite negative else .nan
  else if stored = 0 then .finite negative fraction f.leastExponent
  else .finite negative (f.hiddenBit + fraction) (f.leastExponent + (stored - 1 : Nat))

/-! ## Rounding -/

/-- The integer nearest to `n / d`, the even one of two. -/
def nearestEven (n d : Nat) : Nat :=
  let low := n / d
  let excess := 2 * (n % d)
  if excess < d then low
  else if d < excess then low + 1
  else low + low % 2

/-- `n / d` over `2 ^ q`, as a fraction of natural numbers. -/
def scaled (n d : Nat) (q : Int) : Nat × Nat :=
  (n * Nat.pow 2 (-q).toNat, d * Nat.pow 2 q.toNat)

/-- The number of the format nearest to `n / d`, the one with an even significand of two. -/
def round (f : FloatFormat) (negative : Bool) (n d : Nat) : FloatValue :=
  if n = 0 then .finite negative 0 f.leastExponent
  else
    let guess : Int := (n.log2 : Int) - d.log2 - f.fractionBits
    let (top, bottom) := scaled n d guess
    let q := max f.leastExponent (if top < f.hiddenBit * bottom then guess - 1 else guess)
    let (top, bottom) := scaled n d q
    let m := nearestEven top bottom
    let (m, q) := if m = 2 * f.hiddenBit then (f.hiddenBit, q + 1) else (m, q)
    if q > f.greatestExponent then .infinite negative else .finite negative m q

end FloatFormat

namespace FloatValue

def isFinite : FloatValue → Bool
  | .finite .. => true
  | _ => false

/-- The integer part, its sign included. -/
def truncate : FloatValue → Int
  | .finite negative m q =>
    let size : Int := (m * Nat.pow 2 q.toNat / Nat.pow 2 (-q).toNat : Nat)
    if negative then -size else size
  | _ => 0

end FloatValue

end TriggerScript
