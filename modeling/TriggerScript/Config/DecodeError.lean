import TriggerScript.Json5.Number
import TriggerScript.Json5.Text
import TriggerScript.Parameter.Kind
import TriggerScript.Text.Quoted
import TriggerScript.Decimal.Layout

/-!
# Errors of configuration texts

Why a text is not a configuration: it is not JSON5, or its value is not of the right form.
-/

namespace TriggerScript

/-- A value of the wrong sort. -/
inductive Found where
  | integer (value : Int)
  | real (value : FloatValue)
  | string (value : String)
  | bool (value : Bool)
  | null
  | object
  | array

namespace Found

def text : Found → String
  | .integer value => s!"integer `{value}`"
  | .real value =>
    "floating point `" ++ NumberLayout.plainPoint.text .double value ++ "`"
  | .string value => "string " ++ Quoted.quote value
  | .bool value => s!"boolean `{value}`"
  | .null => "unit value"
  | .object => "map"
  | .array => "sequence"

end Found

inductive Form where
  | config
  | settings
  | conditionType
  | array
  | string
  | bool

namespace Form

def text : Form → String
  | .config => "struct Config"
  | .settings => "struct Settings"
  | .conditionType => "struct ConditionTypeConfig"
  | .array => "a sequence"
  | .string => "a string"
  | .bool => "a boolean"

end Form

inductive DecodeError where
  | number (error : Json5.NumberError)
  | text (error : Json5.TextError)
  | wrongForm (found : Found) (wanted : Form)
  | tooShort (length : Nat)
  | duplicateField (name : String)
  | missingField (name : String)
  | unknownKind (name : String)
  | emptyKind
  | notAKind

namespace DecodeError

/-- All kinds of parameters, each between backticks. -/
def kindList : String :=
  String.intercalate ", " (ParameterKind.all.map fun k => "`" ++ k.name ++ "`")

def message : DecodeError → String
  | .number error => error.message
  | .text error => error.message
  | .wrongForm found wanted => "invalid type: " ++ found.text ++ ", expected " ++ wanted.text
  | .tooShort length =>
    s!"invalid length {length}, expected " ++ Form.conditionType.text ++ " with 3 elements"
  | .duplicateField name => s!"duplicate field `{name}`"
  | .missingField name => s!"missing field `{name}`"
  | .unknownKind name => s!"unknown variant `{name}`, expected one of " ++ kindList
  | .emptyKind => "expected a nonempty object"
  | .notAKind => "expected a string or an object"

end DecodeError

inductive ConfigError where
  | notJson5
  | data (error : DecodeError)

namespace ConfigError

/-- A text that is not JSON5 is told by an arrow. The place of the fault is not shown. -/
def message : ConfigError → String
  | .notJson5 => " --> not a JSON5 text"
  | .data error => error.message

end ConfigError

end TriggerScript
