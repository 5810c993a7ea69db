import TriggerScript.Registry.Table
import TriggerScript.Json.Basic

/-!
# Configurations

A configuration declares condition types on top of the standard table, or on top of none.
-/

namespace TriggerScript

structure Settings where
  includeBuiltinTypes : Bool
  logLevel : String
  deriving DecidableEq

namespace Settings

def standard : Settings := ⟨true, "warn"⟩

end Settings

structure Config where
  conditionTypes : List Template
  settings : Settings
  deriving DecidableEq

namespace Config

def standard : Config := ⟨[], .standard⟩

/-- A configuration to start from, with one type declared. -/
def sample : Config := ⟨[⟨100, "UNIT_HEALTH_BELOW", [.unit, .int]⟩], .standard⟩

def baseTable (c : Config) : TemplateTable :=
  if c.settings.includeBuiltinTypes then .builtin else .empty

/-- The table that the configuration describes: a declared type replaces one with its tag. -/
def table (c : Config) : Except InsertError TemplateTable := c.baseTable.insertAll c.conditionTypes

end Config

/-! ## As JSON -/

def Template.toJson (t : Template) : Json :=
  .object [("id", .int t.id.toInt), ("name", .string t.name),
    ("params", .array (t.shape.map fun k => .string k.name))]

def Settings.toJson (s : Settings) : Json :=
  .object [("include_builtin_types", .bool s.includeBuiltinTypes),
    ("log_level", .string s.logLevel)]

def Config.toJson (c : Config) : Json :=
  .object [("condition_types", .array (c.conditionTypes.map Template.toJson)),
    ("settings", c.settings.toJson)]

end TriggerScript
