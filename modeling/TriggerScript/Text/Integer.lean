/-!
# Whole numbers in text
-/

namespace TriggerScript

/-- The value of a nonempty run of decimal digits. -/
def parseDigits? (digits : List Char) : Option Nat :=
  if digits.isEmpty || !digits.all Char.isDigit then none
  else some (digits.foldl (fun n c => 10 * n + (c.toNat - 48)) 0)

/-- An optional sign and digits, of which there may be more than needed. -/
def parseInt? (s : String) : Option Int :=
  match s.toList with
  | '-' :: digits => (parseDigits? digits).map fun n => -(n : Int)
  | '+' :: digits => (parseDigits? digits).map fun n => (n : Int)
  | digits => (parseDigits? digits).map fun n => (n : Int)

def parseInt32? (s : String) : Option Int32 :=
  (parseInt? s).bind fun i =>
    if -2147483648 ≤ i ∧ i ≤ 2147483647 then some (Int32.ofInt i) else none

end TriggerScript
