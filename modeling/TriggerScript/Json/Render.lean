import TriggerScript.Json.Basic

/-!
# JSON text

Compact text has no blanks at all. Pretty text has one item or field a line, two blanks deeper for
each level.
-/

namespace TriggerScript.Json

/-! ## Strings -/

def hexDigit (n : Nat) : Char := Nat.digitChar n

/-- Quotes, backslashes and control characters are escaped, and nothing else. -/
def escapeChar (c : Char) : String :=
  if c = '\x22' then "\\\""
  else if c = '\\' then "\\\\"
  else if c.toNat = 0x08 then "\\b"
  else if c.toNat = 0x09 then "\\t"
  else if c.toNat = 0x0A then "\\n"
  else if c.toNat = 0x0C then "\\f"
  else if c.toNat = 0x0D then "\\r"
  else if c.toNat < 0x20 then
    String.ofList ['\\', 'u', '0', '0', hexDigit (c.toNat / 16), hexDigit (c.toNat % 16)]
  else String.singleton c

def quote (s : String) : String := "\"" ++ String.join (s.toList.map escapeChar) ++ "\""

/-! ## Values -/

def brackets (inner : String) : String := "[" ++ inner ++ "]"

def braces (inner : String) : String := "\x7b" ++ inner ++ "\x7d"

def atomText : Json → String
  | .null => "null"
  | .bool value => if value then "true" else "false"
  | .int value => toString value
  | .number text => text
  | .string value => quote value
  | .array _ => "[]"
  | .object _ => "\x7b\x7d"

mutual

def compact : Json → String
  | .array items => brackets (String.intercalate "," (compactItems items))
  | .object fields => braces (String.intercalate "," (compactFields fields))
  | atom => atomText atom

def compactItems : List Json → List String
  | [] => []
  | item :: rest => compact item :: compactItems rest

def compactFields : List (String × Json) → List String
  | [] => []
  | (name, value) :: rest => (quote name ++ ":" ++ compact value) :: compactFields rest

end

/-- The parts of a value on lines of their own, or nothing between the brackets. -/
def block (depth : Nat) (lines : List String) : String :=
  if lines.isEmpty then ""
  else
    let margin := "\n".pushn ' ' (2 * (depth + 1))
    margin ++ String.intercalate ("," ++ margin) lines ++ "\n".pushn ' ' (2 * depth)

mutual

def prettyAt (depth : Nat) : Json → String
  | .array items => brackets (block depth (prettyItems (depth + 1) items))
  | .object fields => braces (block depth (prettyFields (depth + 1) fields))
  | atom => atomText atom

def prettyItems (depth : Nat) : List Json → List String
  | [] => []
  | item :: rest => prettyAt depth item :: prettyItems depth rest

def prettyFields (depth : Nat) : List (String × Json) → List String
  | [] => []
  | (name, value) :: rest =>
    (quote name ++ ": " ++ prettyAt depth value) :: prettyFields depth rest

end

def pretty (value : Json) : String := prettyAt 0 value

end TriggerScript.Json
