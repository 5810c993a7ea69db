import TriggerScript.Decimal.Shortest

/-!
# Layout of numbers

A layout says how the digits of a number become text: which sizes are written positionally, whether
whole numbers end in `.0`, and what stands for the values that have no digits.
-/

namespace TriggerScript

/-- The choices that a way of writing floating-point numbers makes. -/
structure NumberLayout where
  /-- Leading exponents written without an exponent part. -/
  positional : Int → Bool
  /-- Whole numbers written positionally end in `.0`. -/
  pointZero : Bool
  tie : Tie
  nan : String
  infinity : String
  minusInfinity : String

namespace NumberLayout

/-- `digits` with a point `places` digits before the end, zeros filling in where needed. -/
def withPoint (digits : String) (places : Nat) : String :=
  let padded := "".pushn '0' (places + 1 - digits.length) ++ digits
  let whole := padded.toList.take (padded.length - places)
  let fraction := padded.toList.drop (padded.length - places)
  String.ofList whole ++ "." ++ String.ofList fraction

def positionalText (l : NumberLayout) (d : Decimal) : String :=
  if d.exponent < 0 then withPoint (toString d.digits) (-d.exponent).toNat
  else (toString d.digits).pushn '0' d.exponent.toNat ++ if l.pointZero then ".0" else ""

/-- Written as a number with one digit before the point and a power of ten. -/
def exponentText (d : Decimal) : String :=
  let digits := toString d.digits
  let exponent := d.exponent + (digits.length - 1 : Nat)
  let mantissa := if digits.length = 1 then digits else withPoint digits (digits.length - 1)
  mantissa ++ "e" ++ (if exponent < 0 then "-" else "+") ++ toString exponent.natAbs

def decimalText (l : NumberLayout) (d : Decimal) : String :=
  if l.positional (d.exponent + ((toString d.digits).length - 1 : Nat)) then l.positionalText d
  else exponentText d

def text (l : NumberLayout) (f : FloatFormat) : FloatValue → String
  | .nan => l.nan
  | .infinite negative => if negative then l.minusInfinity else l.infinity
  | .finite negative m q =>
    let size := if m = 0 then l.positionalText ⟨0, 0⟩
      else l.decimalText (Decimal.shortest f l.tie m q)
    if negative then "-" ++ size else size

/-- Plain text: never an exponent, and whole numbers without a point. -/
def plain : NumberLayout where
  positional _ := true
  pointZero := false
  tie := .away
  nan := "NaN"
  infinity := "inf"
  minusInfinity := "-inf"

/-- Plain text in which every number has a point. -/
def plainPoint : NumberLayout := { plain with pointZero := true }

/-- JSON: numbers from `1e-6` up to `1e13` are positional, and what JSON cannot say is `null`. -/
def json : NumberLayout where
  positional e := -6 ≤ e && e < 13
  pointZero := true
  tie := .toEven
  nan := "null"
  infinity := "null"
  minusInfinity := "null"

end NumberLayout

end TriggerScript
