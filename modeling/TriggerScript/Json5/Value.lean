import TriggerScript.Json5.Token

/-!
# JSON5 values

A value is built from tokens one at a time, with the arrays and objects around it on a stack. A
comma may stand before a closing bracket.
-/

namespace TriggerScript.Json5

/-- Strings, keys and numbers are kept as they are written. -/
inductive Value where
  | null
  | bool (value : Bool)
  | number (text : List Char)
  | string (parts : List Part)
  | array (items : List Value)
  | object (fields : List (List Part × Value))

/-- What surrounds a value: an array with the items before it, or an object with the fields before
it and the key of the value. The latest item or field comes first. -/
inductive Frame where
  | array (items : List Value)
  | field (fields : List (List Part × Value)) (key : List Part)

/-- What may come next, and what has been read. -/
inductive State where
  | value (stack : List Frame)
  | item (stack : List Frame) (items : List Value)
  | key (stack : List Frame) (fields : List (List Part × Value))
  | colon (stack : List Frame) (fields : List (List Part × Value)) (key : List Part)
  | afterItem (stack : List Frame) (items : List Value)
  | afterField (stack : List Frame) (fields : List (List Part × Value))
  | finished (value : Value)

namespace State

def put (value : Value) : List Frame → State
  | [] => .finished value
  | .array items :: stack => .afterItem stack (value :: items)
  | .field fields name :: stack => .afterField stack ((name, value) :: fields)

def wordValue? (parts : List Part) : Option Value :=
  let written (s : String) : Bool := parts = s.toList.map Part.char
  if written "null" then some .null
  else if written "true" then some (.bool true)
  else if written "false" then some (.bool false)
  else if written "Infinity" then some (.number "Infinity".toList)
  else if written "NaN" then some (.number "NaN".toList)
  else none

def start (stack : List Frame) : Token → Option State
  | .openBracket => some (.item stack [])
  | .openBrace => some (.key stack [])
  | .string parts => some (put (.string parts) stack)
  | .number text => some (put (.number text) stack)
  | .word parts => (wordValue? parts).map (put · stack)
  | _ => none

def next : State → Token → Option State
  | .value stack, token => start stack token
  | .item stack items, .closeBracket => some (put (.array items.reverse) stack)
  | .item stack items, token => start (.array items :: stack) token
  | .key stack fields, .closeBrace => some (put (.object fields.reverse) stack)
  | .key stack fields, .string parts => some (.colon stack fields parts)
  | .key stack fields, .word parts => some (.colon stack fields parts)
  | .colon stack fields name, .colon => some (.value (.field fields name :: stack))
  | .afterItem stack items, .comma => some (.item stack items)
  | .afterItem stack items, .closeBracket => some (put (.array items.reverse) stack)
  | .afterField stack fields, .comma => some (.key stack fields)
  | .afterField stack fields, .closeBrace => some (put (.object fields.reverse) stack)
  | _, _ => none

end State

/-- The value that a text holds, when it holds exactly one. -/
def parse? (text : String) : Option Value := do
  let tokens ← tokens? text.toList
  match ← tokens.foldlM State.next (.value []) with
  | .finished value => some value
  | _ => none

end TriggerScript.Json5
