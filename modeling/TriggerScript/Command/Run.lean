import TriggerScript.Command.Arguments
import TriggerScript.Command.Report
import TriggerScript.Config.Decode
import TriggerScript.Config.Verify
import TriggerScript.Registry.Search
import TriggerScript.ScriptFile.Load
import TriggerScript.ScriptFile.Save

/-!
# Running commands

A command looks at files and at its environment and ends in a reply. The one command that changes a
file leaves a request to write it, with the reply that follows.
-/

namespace TriggerScript

structure Reply where
  exitCode : Nat
  out : String
  err : String
  deriving DecidableEq

structure Surroundings where
  /-- The path of the configuration, by an environment variable. -/
  configPath : Option String
  home : Option String
  terminal : Bool
  present : String → Bool
  read : String → Except IoFailure (List UInt8)

/-- How a command ends: at once, or once a file has been written. -/
inductive Plan where
  | finish (reply : Reply)
  | write (path : String) (content : List UInt8) (success : Reply) (failure : IoFailure → Reply)

namespace Reply

def ok (out : String) : Reply := ⟨0, out, ""⟩

/-- A problem is reported on the standard output as JSON, and else on the error output. -/
def problem (mode : OutputMode) (p : Problem) : Reply :=
  if mode = .json then ⟨p.exitCode, p.errorLine, ""⟩ else ⟨p.exitCode, "", p.text⟩

/-- A failure outside the reported problems, with its cause. -/
def failed (message : String) (cause : Option String) : Reply :=
  ⟨1, "", "Error: " ++ message ++ "\n" ++
    match cause with
    | some cause => "\nCaused by:\n    " ++ cause ++ "\n"
    | none => ""⟩

/-- What is printed in each mode; to be quiet is to print nothing. -/
def result (mode : OutputMode) (json : Json) (text : String) : Reply :=
  match mode with
  | .json => ok (resultLine json)
  | .text => ok text
  | .quiet => ok ""

end Reply

/-! ## Configuration -/

namespace Surroundings

variable (s : Surroundings)

/-- The path that was asked for, else the one of the environment, else the one at home. -/
def configFile? (asked : Option String) : Option String :=
  match asked, s.configPath with
  | some path, _ => some path
  | none, some path => some path
  | none, none => s.home.map fun home =>
    (if home.endsWith "/" then home else home ++ "/") ++ ".scriptcond/config.json"

def readText (path : String) : Except String String :=
  match s.read path with
  | .error failure => .error failure.message
  | .ok content =>
    match String.fromUTF8? (ByteArray.mk content.toArray) with
    | some text => .ok text
    | none => .error "stream did not contain valid UTF-8"

/-- Without a file the standard configuration is used. -/
def loadConfig (asked : Option String) : Except ConfigFailure Config :=
  match s.configFile? asked with
  | none => .error .homeless
  | some path =>
    if s.present path then
      match s.readText path with
      | .error reason => .error (.unreadable path reason)
      | .ok text => (Config.parse text).mapError (.invalid path)
    else .ok .standard

def loadTable (asked : Option String) : Except Problem TemplateTable := do
  let config ← (s.loadConfig asked).mapError .noConfig
  config.table.mapError .badTypes

def loadFile (registry : Registry) (file : String) : Except Problem (List Script) := do
  let content ← (s.read file).mapError (.unreadable file)
  (loadScripts registry content).mapError (.unparsable file)

/-- Checks a configuration file, which has to exist. -/
def verifyFile (path : String) : Except Problem (List (Nat × ConfigProblem)) :=
  if s.present path then
    match s.readText path with
    | .error _ => .error (.configUnreadable path)
    | .ok text =>
      match Config.parse text with
      | .error error => .error (.configInvalid error)
      | .ok config => .ok config.verify
  else .error (.configMissing path)

end Surroundings

/-! ## Commands -/

/-- Values that files cannot hold, or that leave nothing to do, are refused. -/
def Qualifier.check (q : Qualifier) : Except Problem Unit :=
  if q.suffix.isEmpty && q.templatePlayer.isEmpty then .error .nothingToQualify
  else if !q.templatePlayer.isEmpty && q.player.isEmpty then .error .playerMissing
  else if !StoredText.fits q.suffix then .error (.unstorable .qualifier q.suffix)
  else if !StoredText.fits q.templatePlayer then
    .error (.unstorable .templatePlayer q.templatePlayer)
  else if !StoredText.fits q.player then .error (.unstorable .player q.player)
  else .ok ()

namespace Plan

variable (s : Surroundings) (mode : OutputMode) (asked : Option String)

def scriptsText (names : TypeNames) (scripts : List Script) : String :=
  String.join (scripts.map (Script.text names))

def scriptsJson (names : TypeNames) (scripts : List Script) : Json :=
  .array (scripts.map (Script.toJson names))

def dump (file : String) : Except Problem Plan := do
  let table ← s.loadTable asked
  let names := table.registry.typeName?
  let scripts ← s.loadFile table.registry file
  let json := Json.object [("file", .string file), ("scripts", scriptsJson names scripts)]
  return .finish (.result mode json (scriptsText names scripts))

def qualify (file : String) (q : Qualifier) (output : Option String) : Except Problem Plan := do
  q.check
  let table ← s.loadTable asked
  let names := table.registry.typeName?
  let scripts := (← s.loadFile table.registry file).map (Script.duplicateQualified q)
  let json := Json.object <|
    [("action", .string "qualify"), ("file", .string file), ("qualifier", .string q.suffix)]
      ++ Json.optionalField "output" (output.map .string)
      ++ [("scripts", scriptsJson names scripts)]
  match output with
  | none => return .finish (.result mode json (scriptsText names scripts))
  | some path =>
    let written := s!"Wrote {scripts.length} script(s) to {path}\n"
    return .write path (saveScripts table.registry scripts) (.result mode json written)
      fun failure => .failed s!"Failed to write {path}" (some failure.message)

def types (query : Option String) : Except Problem Plan := do
  let table ← s.loadTable asked
  let found ← match query with
    | none => pure table.templates
    | some query =>
      match table.find? query with
      | some t => pure [t]
      | none => throw (.unknownType query (table.suggest query 3))
  let json := Json.object [("types", .array (found.map Template.toJson))]
  return .finish (.result mode json (String.join (found.map Template.text)))

/-- The result of a check. What is wrong is told in every mode. -/
def verifyReply (path : String) (problems : List (Nat × ConfigProblem)) : Reply :=
  if problems.isEmpty then
    .ok (if mode = .quiet then "" else s!"✓ Configuration is valid: {path}\n")
  else
    let lines := problems.map fun problem => "  - " ++ Config.problemText problem ++ "\n"
    ⟨5, s!"✗ Configuration has {problems.length} error(s): {path}\n\n" ++ String.join lines, ""⟩

def config (action : ConfigAction) : Except Problem Plan :=
  match action with
  | .display => do
    let config ← (s.loadConfig asked).mapError .noConfig
    return .finish (.ok (config.toJson.pretty ++ "\n"))
  | .sample => return .finish (.ok (Config.sample.toJson.pretty ++ "\n"))
  | .path =>
    match s.configFile? asked with
    | some path => return .finish (.ok (path ++ "\n"))
    | none => return .finish (.failed ConfigFailure.homelessMessage none)
  | .verify =>
    match s.configFile? asked with
    | some path => do return .finish (verifyReply mode path (← s.verifyFile path))
    | none => return .finish (.failed ConfigFailure.homelessMessage none)

end Plan

/-- How an invocation ends. Completion scripts are not part of this program. -/
def Invocation.plan (i : Invocation) (s : Surroundings) : Plan :=
  let mode := i.mode s.terminal
  let plan := match i.command with
    | .dump file => Plan.dump s mode i.configPath file
    | .qualify file q output => Plan.qualify s mode i.configPath file q output
    | .types query => Plan.types s mode i.configPath query
    | .config action => Plan.config s mode i.configPath action
    | .completions _ => .ok (.finish (.ok ""))
  match plan with
  | .ok plan => plan
  | .error problem => .finish (.problem mode problem)

/-! ## Command lines -/

def versionLine : String := "scriptcond 0.1.0\n"

def usageText : String :=
  "Usage: scriptcond [OPTIONS] <COMMAND>\n\nCommands: dump, qualify, types, config, completions\n"

def Stop.reply : Stop → Reply
  | .version => .ok versionLine
  | .help => .ok usageText
  | .usage reason => ⟨2, "", "error: " ++ reason ++ "\n\n" ++ usageText⟩

def planOf (args : List String) (s : Surroundings) : Plan :=
  match Invocation.ofArguments args with
  | .error stop => .finish stop.reply
  | .ok i => i.plan s

end TriggerScript
