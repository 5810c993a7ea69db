import TriggerScript.Config.Basic
import TriggerScript.Config.DecodeError

/-!
# Reading configurations

A configuration is read from a JSON5 value. A structure can be given by its fields or by a list of
their values in order; what a structure does not know is skipped, but has to have a value. Values
are read in the order in which they are written, and the first error counts.
-/

namespace TriggerScript.Config.Decode

open Json5

variable {α : Type}

/-! ## Plain values -/

def text (parts : List Part) : Except DecodeError String := (Json5.text parts).mapError .text

def number (chars : List Char) : Except DecodeError Number :=
  (parseNumber chars).mapError .number

/-- Refuses a value. A string or a number is read before it is refused. -/
def refuse (wanted : Form) : Value → Except DecodeError α
  | .null => .error (.wrongForm .null wanted)
  | .bool value => .error (.wrongForm (.bool value) wanted)
  | .array _ => .error (.wrongForm .array wanted)
  | .object _ => .error (.wrongForm .object wanted)
  | .string parts => do
    let value ← text parts
    .error (.wrongForm (.string value) wanted)
  | .number chars => do
    match ← number chars with
    | .integer value => .error (.wrongForm (.integer value) wanted)
    | .real value => .error (.wrongForm (.real value) wanted)

mutual

/-- Reads a value that is not used. -/
def skip : Value → Except DecodeError Unit
  | .string parts => do
    let _ ← text parts
    return ()
  | .number chars => do
    let _ ← number chars
    return ()
  | .array items => skipItems items
  | .object fields => skipFields fields
  | _ => .ok ()

def skipItems : List Value → Except DecodeError Unit
  | [] => .ok ()
  | item :: rest => do
    skip item
    skipItems rest

def skipFields : List (List Part × Value) → Except DecodeError Unit
  | [] => .ok ()
  | (name, value) :: rest => do
    let _ ← text name
    skip value
    skipFields rest

end

def string : Value → Except DecodeError String
  | .string parts => text parts
  | value => refuse .string value

def bool : Value → Except DecodeError Bool
  | .bool value => .ok value
  | value => refuse .bool value

def list (item : Value → Except DecodeError α) : Value → Except DecodeError (List α)
  | .array items => items.mapM item
  | value => refuse .array value

/-- A tag is any number, cut to 32 bits. -/
def tag : Value → Except DecodeError Int32
  | .number chars => (toInt32 <$> parseReal chars).mapError .number
  | _ => .error (.number .real)

def kindNamed (parts : List Part) : Except DecodeError ParameterKind := do
  let name ← text parts
  match ParameterKind.ofName? name with
  | some kind => .ok kind
  | none => .error (.unknownKind name)

/-- A kind is given by its name, or by an object whose first key is its name. -/
def kind : Value → Except DecodeError ParameterKind
  | .string parts => kindNamed parts
  | .object ((name, _) :: _) => kindNamed name
  | .object [] => .error .emptyKind
  | _ => .error .notAKind

/-! ## Structures -/

/-- Sets a field that must not have been set. -/
def once (name : String) (old : Option α) (read : Except DecodeError α) :
    Except DecodeError (Option α) :=
  match old with
  | some _ => .error (.duplicateField name)
  | none => some <$> read

/-- The fields of a structure, read one after the other. -/
def fields (set : α → String → Value → Except DecodeError α) (start : α)
    (given : List (List Part × Value)) : Except DecodeError α :=
  given.foldlM (fun a (name, value) => do set a (← text name) value) start

def field (a : Option α) (name : String) : Except DecodeError α :=
  match a with
  | some a => .ok a
  | none => .error (.missingField name)

structure GivenSettings where
  includeBuiltinTypes : Option Bool
  logLevel : Option String

def GivenSettings.complete (g : GivenSettings) : Settings where
  includeBuiltinTypes := g.includeBuiltinTypes.getD Settings.standard.includeBuiltinTypes
  logLevel := g.logLevel.getD Settings.standard.logLevel

def GivenSettings.set (g : GivenSettings) (name : String) (value : Value) :
    Except DecodeError GivenSettings :=
  if name = "include_builtin_types" then
    (fun b => { g with includeBuiltinTypes := b }) <$> once name g.includeBuiltinTypes (bool value)
  else if name = "log_level" then
    (fun s => { g with logLevel := s }) <$> once name g.logLevel (string value)
  else (fun _ => g) <$> skip value

def settings : Value → Except DecodeError Settings
  | .object given => GivenSettings.complete <$> fields GivenSettings.set ⟨none, none⟩ given
  | .array items => do
    let includeBuiltinTypes ← items[0]?.mapM bool
    let logLevel ← items[1]?.mapM string
    return GivenSettings.complete { includeBuiltinTypes, logLevel }
  | value => refuse .settings value

/-- The fields of a condition type that have been given. -/
structure GivenType where
  id : Option Int32
  name : Option String
  params : Option (List ParameterKind)

def GivenType.complete (g : GivenType) : Except DecodeError Template := do
  let id ← field g.id "id"
  let name ← field g.name "name"
  return { id, name, shape := g.params.getD [] }

def GivenType.set (g : GivenType) (name : String) (value : Value) :
    Except DecodeError GivenType :=
  if name = "id" then (fun i => { g with id := i }) <$> once name g.id (tag value)
  else if name = "name" then (fun s => { g with name := s }) <$> once name g.name (string value)
  else if name = "params" then
    (fun ks => { g with params := ks }) <$> once name g.params (list kind value)
  else (fun _ => g) <$> skip value

def conditionType : Value → Except DecodeError Template
  | .object given => do (← fields GivenType.set ⟨none, none, none⟩ given).complete
  | .array [] => .error (.tooShort 0)
  | .array [first] => do
    let _ ← tag first
    .error (.tooShort 1)
  | .array (first :: second :: rest) => do
    let id ← tag first
    let name ← string second
    let params ← rest.head?.mapM (list kind)
    return { id, name, shape := params.getD [] }
  | value => refuse .conditionType value

structure GivenConfig where
  conditionTypes : Option (List Template)
  settings : Option Settings

def GivenConfig.complete (g : GivenConfig) : Config where
  conditionTypes := g.conditionTypes.getD []
  settings := g.settings.getD .standard

def GivenConfig.set (g : GivenConfig) (name : String) (value : Value) :
    Except DecodeError GivenConfig :=
  if name = "condition_types" then
    (fun ts => { g with conditionTypes := ts }) <$>
      once name g.conditionTypes (list conditionType value)
  else if name = "settings" then
    (fun s => { g with settings := s }) <$> once name g.settings (Decode.settings value)
  else (fun _ => g) <$> skip value

def config : Value → Except DecodeError Config
  | .object given => GivenConfig.complete <$> fields GivenConfig.set ⟨none, none⟩ given
  | .array items => do
    let conditionTypes ← items[0]?.mapM (list conditionType)
    let settings ← items[1]?.mapM Decode.settings
    return GivenConfig.complete { conditionTypes, settings }
  | value => refuse .config value

end TriggerScript.Config.Decode

namespace TriggerScript

def Config.parse (text : String) : Except ConfigError Config :=
  match Json5.parse? text with
  | none => .error .notJson5
  | some value => (Config.Decode.config value).mapError .data

end TriggerScript
