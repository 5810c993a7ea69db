import TriggerScript.Chunk.Error
import TriggerScript.Config.DecodeError
import TriggerScript.Registry.Error

/-!
# Problems of commands

Why a command fails: its exit code and its message.
-/

namespace TriggerScript

inductive IoFailure where
  | notFound
  | isDirectory
  | notDirectory
  | nameTooLong
  | permissionDenied
  | tooManyLinks
  | other (reason : String)
  deriving DecidableEq

namespace IoFailure

def message : IoFailure → String
  | .notFound => "No such file or directory (os error 2)"
  | .notDirectory => "Not a directory (os error 20)"
  | .isDirectory => "Is a directory (os error 21)"
  | .nameTooLong => "File name too long (os error 36)"
  | .permissionDenied => "Permission denied (os error 13)"
  | .tooManyLinks => "Too many levels of symbolic links (os error 40)"
  | .other reason => reason

end IoFailure

inductive ConfigFailure where
  | homeless
  | unreadable (path : String) (reason : String)
  | invalid (path : String) (error : ConfigError)

namespace ConfigFailure

def homelessMessage : String := "Could not find home directory"

def message : ConfigFailure → String
  | .homeless => homelessMessage
  | .unreadable path reason => s!"Failed to read config file: {path}: {reason}"
  | .invalid path error => s!"Failed to parse config file: {path}: {error.message}"

end ConfigFailure

/-- A flag whose value is stored in files. -/
inductive StoredFlag where
  | qualifier
  | templatePlayer
  | player
  deriving DecidableEq

namespace StoredFlag

def name : StoredFlag → String
  | .qualifier => "--qualifier"
  | .templatePlayer => "--template-player"
  | .player => "--player"

end StoredFlag

inductive Problem where
  | nothingToQualify
  | playerMissing
  | unstorable (flag : StoredFlag) (value : String)
  | noConfig (failure : ConfigFailure)
  | badTypes (error : InsertError)
  | unreadable (file : String) (failure : IoFailure)
  | unparsable (file : String) (error : ChunkError)
  | unknownType (query : String) (suggestions : List String)
  | configMissing (path : String)
  | configUnreadable (path : String)
  | configInvalid (error : ConfigError)

namespace Problem

def exitCode : Problem → Nat
  | .unreadable .. => 1
  | .nothingToQualify | .playerMissing | .unstorable .. => 4
  | .noConfig _ | .badTypes _ | .configMissing _ | .configUnreadable _ | .configInvalid _ => 5
  | .unparsable .. => 8
  | .unknownType .. => 9

def message : Problem → String
  | .nothingToQualify => "nothing to qualify: pass --qualifier and/or --template-player"
  | .playerMissing => "--template-player requires --player"
  | .unstorable flag _ => s!"{flag.name} must use latin-1 characters only"
  | .noConfig _ => "failed to load config"
  | .badTypes _ => "invalid condition types in config"
  | .unreadable file _ => s!"failed to read {file}"
  | .unparsable file _ => s!"failed to parse {file}"
  | .unknownType query _ => s!"condition type '{query}' not found"
  | .configMissing path => s!"config file not found: {path}"
  | .configUnreadable path => s!"failed to read config file: {path}"
  | .configInvalid error => s!"invalid config: {error.message}"

def details : Problem → Option String
  | .unstorable _ value => some value
  | .noConfig failure => some failure.message
  | .badTypes error => some error.message
  | .unreadable _ failure => some failure.message
  | .unparsable _ error => some error.message
  | _ => none

end Problem

end TriggerScript
