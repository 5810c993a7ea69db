import TriggerScript.Json5.Value

/-!
# Texts of JSON5

What the parts of a string stand for. An escape by four digits can be half of a surrogate pair. The
half that comes first takes the next part as its other half, whatever that part is.
-/

namespace TriggerScript.Json5

inductive TextError where
  | hex
  | trailFirst
  | trailMissing
  | trailExpected
  deriving DecidableEq

namespace TextError

def message : TextError → String
  | .hex => "error parsing hex"
  | .trailFirst => "unexpected unicode trail surrogate"
  | .trailMissing => "missing unicode trail surrogate"
  | .trailExpected => "expecting unicode trail surrogate"

end TextError

def codeValue? (digits : List Char) : Option Nat :=
  (digits.mapM hexValue?).map (·.foldl (fun n digit => 16 * n + digit) 0)

/-- The character that is meant after a backslash. -/
def unescape (c : Char) : Char :=
  if c = '0' then Char.ofNat 0
  else if c = 'b' then Char.ofNat 0x08
  else if c = 't' then Char.ofNat 0x09
  else if c = 'n' then Char.ofNat 0x0A
  else if c = 'v' then Char.ofNat 0x0B
  else if c = 'f' then Char.ofNat 0x0C
  else if c = 'r' then Char.ofNat 0x0D
  else c

namespace Part

/-- How a part is written, without its backslash and letter. -/
def written : Part → List Char
  | .char c => [c]
  | .escaped c => [c]
  | .code digits => digits

end Part

def isLead (n : Nat) : Bool := 0xD800 ≤ n && n < 0xDC00

def isTrail (n : Nat) : Bool := 0xDC00 ≤ n && n < 0xE000

/-- The character of a pair. The two halves are joined bit by bit. -/
def pairChar (lead trail : Nat) : Char :=
  Char.ofNat ((lead - 0xD800) * 0x400 ||| (trail - 0xDC00 + 0x10000))

/-- The characters that parts stand for. -/
def chars : List Part → Except TextError (List Char)
  | [] => .ok []
  | .char c :: rest => (c :: ·) <$> chars rest
  | .escaped c :: rest => (unescape c :: ·) <$> chars rest
  | .code digits :: rest =>
    match codeValue? digits with
    | none => .error .hex
    | some code =>
      if isTrail code then .error .trailFirst
      else if isLead code then
        match rest with
        | [] => .error .trailMissing
        | part :: rest =>
          match codeValue? part.written with
          | none => .error .hex
          | some trail =>
            if isTrail trail then (pairChar code trail :: ·) <$> chars rest
            else .error .trailExpected
      else (Char.ofNat code :: ·) <$> chars rest

def text (parts : List Part) : Except TextError String := String.ofList <$> chars parts

end TriggerScript.Json5
