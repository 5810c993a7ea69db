import TriggerScript.Json5.Value
import TriggerScript.Binary.FloatFormat

/-!
# Numbers of JSON5

A number is read as a whole number or as one of double precision, by how it is written. Digits to
base sixteen are only understood without a sign.
-/

namespace TriggerScript.Json5

inductive NumberError where
  | hex
  | integer
  | real
  | tooLarge
  deriving DecidableEq

namespace NumberError

def message : NumberError → String
  | .hex => "error parsing hex"
  | .integer => "error parsing integer"
  | .real => "error parsing number"
  | .tooLarge => "error parsing number: too large"

end NumberError

inductive Number where
  | integer (value : Int)
  | real (value : FloatValue)
  deriving DecidableEq

/-! ## Whole numbers -/

/-- Digits to base sixteen that fit in 32 bits. -/
def parseHex (digits : List Char) : Except NumberError Nat :=
  match digits.mapM hexValue? with
  | none => .error .hex
  | some values =>
    let n := values.foldl (fun n digit => 16 * n + digit) 0
    if values.isEmpty || 4294967296 ≤ n then .error .hex else .ok n

def isHex : List Char → Bool
  | '0' :: x :: _ :: _ => x = 'x' || x = 'X'
  | _ => false

def splitSign : List Char → Bool × List Char
  | '-' :: rest => (true, rest)
  | '+' :: rest => (false, rest)
  | chars => (false, chars)

def digitsValue (digits : List Char) : Nat :=
  digits.foldl (fun n c => 10 * n + (c.toNat - 48)) 0

/-- Decimal digits that fit in 64 bits, the sign included. -/
def parseInteger (text : List Char) : Except NumberError Int :=
  if isHex text then (parseHex (text.drop 2)).map fun n => (n : Int)
  else
    let (negative, digits) := splitSign text
    let size : Int := digitsValue digits
    let value := if negative then -size else size
    if digits.isEmpty || !digits.all isDigit || value < Int64.minValue.toInt
        || Int64.maxValue.toInt < value then
      .error .integer
    else .ok value

/-! ## Real numbers -/

/-- The double nearest to `digits * 10 ^ exponent`. Beyond these bounds on the leading digit the
result is infinite or zero. -/
def decimalReal (negative : Bool) (digits : Nat) (exponent : Int) : FloatValue :=
  let leading := exponent + (toString digits).length
  if digits ≠ 0 ∧ 400 < leading then .infinite negative
  else if leading < -400 then .finite negative 0 FloatFormat.double.leastExponent
  else if digits = 0 then .finite negative 0 FloatFormat.double.leastExponent
  else FloatFormat.double.round negative (digits * Nat.pow 10 exponent.toNat)
    (Nat.pow 10 (-exponent).toNat)

/-- Digits with an optional point and an optional power of ten. -/
def parseDecimal? (negative : Bool) (chars : List Char) : Option FloatValue :=
  let whole := chars.takeWhile isDigit
  let rest := chars.dropWhile isDigit
  let (fraction, rest) := match rest with
    | '.' :: rest => (rest.takeWhile isDigit, rest.dropWhile isDigit)
    | rest => ([], rest)
  let digits := digitsValue (whole ++ fraction)
  if whole.isEmpty && fraction.isEmpty then none
  else
    match rest with
    | [] => some (decimalReal negative digits (-(fraction.length : Int)))
    | e :: power =>
      let (down, power) := splitSign power
      if (e = 'e' || e = 'E') && !power.isEmpty && power.all isDigit then
        let size : Int := digitsValue power
        some (decimalReal negative digits ((if down then -size else size) - fraction.length))
      else none

/-- A number as one of double precision. A plus sign is not understood before a name. -/
def parseReal (text : List Char) : Except NumberError FloatValue :=
  if text = "Infinity".toList then .ok (.infinite false)
  else if text = "-Infinity".toList then .ok (.infinite true)
  else if text = "NaN".toList || text = "-NaN".toList then .ok .nan
  else if isHex text then
    (parseHex (text.drop 2)).map fun n => FloatFormat.double.round false n 1
  else
    let (negative, rest) := splitSign text
    if rest = "Infinity".toList || rest = "NaN".toList then .error .tooLarge
    else
      match parseDecimal? negative rest with
      | none => .error .real
      | some value => if value.isFinite then .ok value else .error .tooLarge

/-- A number without a point and without a power of ten is whole, and so is one to base sixteen. -/
def isWhole (text : List Char) : Bool :=
  let named := (splitSign text).2
  !text.contains '.' && (isHex text || !text.contains 'e' && !text.contains 'E')
    && !((named = "Infinity".toList || named = "NaN".toList) && text.head? ≠ some '+')

def parseNumber (text : List Char) : Except NumberError Number :=
  if isWhole text then (parseInteger text).map .integer else (parseReal text).map .real

/-- A 32-bit number: the fraction is dropped, and what is too large is cut to the nearest bound. -/
def toInt32 (value : FloatValue) : Int32 :=
  match value with
  | .nan => 0
  | .infinite negative => if negative then Int32.minValue else Int32.maxValue
  | value => Int32.ofInt (max Int32.minValue.toInt (min Int32.maxValue.toInt value.truncate))

end TriggerScript.Json5
