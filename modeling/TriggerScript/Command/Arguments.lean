import TriggerScript.Command.Invocation

/-!
# Arguments

A command line has levels: each subcommand begins a new one. Options stand anywhere on their level,
as `--name value`, `--name=value`, `-n value`, `-nvalue` or `-n=value`; short flags can be joined.
After `--` everything is positional.
-/

namespace TriggerScript

inductive OptionName where
  | config
  | json
  | noJson
  | quiet
  | verbose
  | help
  | version
  | qualifier
  | templatePlayer
  | player
  | output
  deriving DecidableEq

/-- What an option takes. A path must not be empty. -/
inductive ValueKind where
  | flag
  | text
  | path
  deriving DecidableEq

structure OptionSpec where
  name : OptionName
  long : String
  short : Option Char
  takes : ValueKind

inductive Stop where
  | usage (reason : String)
  | help
  | version
  deriving DecidableEq

/-- A level: its options, its subcommands and the positional values it takes. -/
structure LevelSpec where
  options : List OptionSpec
  subcommands : List String
  positionals : List ValueKind

/-! ## One level -/

structure Level where
  given : List (OptionName × String)
  positionals : List String
  /-- An option that still waits for its value. -/
  pending : Option OptionSpec
  /-- Everything is positional from here on. -/
  literal : Bool
  subcommand : Option String
  rest : List String

namespace Level

def start : Level := ⟨[], [], none, false, none, []⟩

def has (l : Level) (name : OptionName) : Bool := (l.given.lookup name).isSome

def checkValue (kind : ValueKind) (value : String) : Except Stop Unit :=
  if kind = .path && value.isEmpty then .error (.usage "a value is required") else .ok ()

/-- Notes an option. Only `verbose` can be given more than once. -/
def give (l : Level) (o : OptionSpec) (value : String) : Except Stop Level :=
  if o.name = .help then .error .help
  else if o.name = .version then .error .version
  else if l.has o.name && o.name ≠ .verbose then .error (.usage "an option is given twice")
  else do
    checkValue o.takes value
    return { l with given := (o.name, value) :: l.given, pending := none }

/-- An option without an attached value. -/
def open? (l : Level) (o : OptionSpec) : Except Stop Level :=
  if o.takes = .flag then l.give o "" else .ok { l with pending := some o }

def longOption (spec : LevelSpec) (l : Level) (body : String) : Except Stop Level :=
  let name := body.toList.takeWhile (· ≠ '=')
  match spec.options.find? fun o => o.long.toList = name with
  | none => .error (.usage "unexpected argument")
  | some o =>
    match body.toList.drop name.length with
    | [] => l.open? o
    | _ :: value =>
      if o.takes = .flag then .error (.usage "unexpected value") else l.give o (String.ofList value)

/-- Short options joined behind one dash. The first that takes a value takes all that is left. -/
def shortOptions (spec : LevelSpec) (l : Level) : List Char → Except Stop Level
  | [] => .ok l
  | c :: rest =>
    match spec.options.find? fun o => o.short = some c with
    | none => .error (.usage "unexpected argument")
    | some o =>
      if o.takes = .flag then do shortOptions spec (← l.give o "") rest
      else
        match rest with
        | [] => .ok { l with pending := some o }
        | '=' :: value => l.give o (String.ofList value)
        | value => l.give o (String.ofList value)

/-- A positional value, as far as the level takes one. -/
def positional (spec : LevelSpec) (l : Level) (value : String) : Except Stop Level :=
  match spec.positionals[l.positionals.length]? with
  | none => .error (.usage "unexpected argument")
  | some kind => do
    checkValue kind value
    return { l with positionals := l.positionals ++ [value] }

/-- A word that begins with a dash, and is more than a dash, is an option. -/
def looksLikeOption (arg : String) : Bool :=
  match arg.toList with
  | '-' :: _ :: _ => true
  | _ => false

def argument (spec : LevelSpec) (l : Level) (arg : String) : Except Stop Level :=
  if l.subcommand.isSome then .ok { l with rest := l.rest ++ [arg] }
  else
    match l.pending with
    | some o =>
      if looksLikeOption arg then .error (.usage "a value is required") else l.give o arg
    | none =>
      if l.literal then l.positional spec arg
      else
        match arg.toList with
        | ['-', '-'] => .ok { l with literal := true }
        | '-' :: '-' :: body => longOption spec l (String.ofList body)
        | '-' :: c :: body => shortOptions spec l (c :: body)
        | _ =>
          if spec.subcommands.isEmpty then l.positional spec arg
          else if arg ∈ spec.subcommands then .ok { l with subcommand := some arg }
          else if arg = "help" then .error .help
          else .error (.usage "unrecognized subcommand")

def read (spec : LevelSpec) (args : List String) : Except Stop Level := do
  let l ← args.foldlM (argument spec) start
  if l.pending.isSome then .error (.usage "a value is required")
  else .ok l

/-- What has to hold once a level and all below it are read. -/
def check (l : Level) : Except Stop Unit :=
  if l.has .json && l.has .noJson then .error (.usage "options exclude each other") else .ok ()

end Level

/-! ## The levels of the program -/

namespace Invocation

def helpOption : OptionSpec := ⟨.help, "help", some 'h', .flag⟩

def globalOptions : List OptionSpec :=
  [⟨.config, "config", none, .path⟩, ⟨.json, "json", some 'j', .flag⟩,
    ⟨.noJson, "no-json", none, .flag⟩, ⟨.quiet, "quiet", some 'q', .flag⟩,
    ⟨.verbose, "verbose", some 'v', .flag⟩, helpOption]

def topSpec : LevelSpec where
  options := ⟨.version, "version", some 'V', .flag⟩ :: globalOptions
  subcommands := ["dump", "qualify", "types", "config", "completions"]
  positionals := []

def dumpSpec : LevelSpec := ⟨globalOptions, [], [.path]⟩

def qualifySpec : LevelSpec where
  options :=
    [⟨.qualifier, "qualifier", none, .text⟩, ⟨.templatePlayer, "template-player", none, .text⟩,
      ⟨.player, "player", none, .text⟩, ⟨.output, "output", some 'o', .path⟩] ++ globalOptions
  subcommands := []
  positionals := [.path]

def typesSpec : LevelSpec := ⟨globalOptions, [], [.text]⟩

def configSpec : LevelSpec := ⟨globalOptions, ["show", "path", "verify", "default"], []⟩

def configActionSpec : LevelSpec := ⟨globalOptions, [], []⟩

def shellNames : List String := ["bash", "elvish", "fish", "powershell", "zsh"]

def required (l : Level) : Except Stop String :=
  match l.positionals with
  | value :: _ => .ok value
  | [] => .error (.usage "a required argument is missing")

/-- Reads the levels below the given one. The innermost level comes first. -/
def readCommand (name : String) (args : List String) : Except Stop (Command × List Level) :=
  if name = "dump" then do
    let l ← Level.read dumpSpec args
    return (.dump (← required l), [l])
  else if name = "qualify" then do
    let l ← Level.read qualifySpec args
    let text (o : OptionName) := (l.given.lookup o).getD ""
    return (.qualify (← required l) ⟨text .qualifier, text .templatePlayer, text .player⟩
      (l.given.lookup .output), [l])
  else if name = "types" then do
    let l ← Level.read typesSpec args
    return (.types l.positionals.head?, [l])
  else if name = "config" then do
    let l ← Level.read configSpec args
    match l.subcommand with
    | none => .error (.usage "a subcommand is required")
    | some action =>
      let inner ← Level.read configActionSpec l.rest
      let action :=
        if action = "show" then ConfigAction.display
        else if action = "path" then .path
        else if action = "verify" then .verify
        else .sample
      return (.config action, [inner, l])
  else do
    let l ← Level.read ⟨globalOptions, [], [.text]⟩ args
    let shell ← required l
    if shell ∈ shellNames then return (.completions shell, [l])
    else .error (.usage "invalid value")

/-- An option of an inner level counts before one of an outer level. -/
def ofArguments (args : List String) : Except Stop Invocation := do
  let top ← Level.read topSpec args
  match top.subcommand with
  | none => .error (.usage "a subcommand is required")
  | some name =>
    let (command, inner) ← readCommand name top.rest
    let levels := inner ++ [top]
    levels.forM Level.check
    let has (o : OptionName) := levels.any (·.has o)
    return {
      configPath := levels.findSome? fun l => l.given.lookup .config
      json := has .json
      noJson := has .noJson
      quiet := has .quiet
      command }

end Invocation

end TriggerScript
