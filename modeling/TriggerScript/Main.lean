import TriggerScript.Command.Run

/-!
# The program

Reads the files that a command may look at, decides, and carries the decision out.
-/

namespace TriggerScript.Main

def ioFailure : IO.Error → IoFailure
  | .noFileOrDirectory .. => .notFound
  | .noSuchThing .. => .notFound
  | .inappropriateType .. => .isDirectory
  | .permissionDenied .. => .permissionDenied
  | e => .other (toString e)

def readFile (path : String) : IO (Except IoFailure (List UInt8)) := do
  match ← (IO.FS.readBinFile path).toBaseIO with
  | .ok content => return .ok content.toList
  | .error e => return .error (ioFailure e)

/-- The files that a command may read. -/
def inputs (i : Invocation) (configFile : Option String) : List String :=
  configFile.toList ++
    match i.command with
    | .dump file => [file]
    | .qualify file _ _ => [file]
    | _ => []

def surroundings (args : List String) : IO Surroundings := do
  let configPath ← IO.getEnv "SCRIPTCOND_CONFIG"
  let home := (← IO.getEnv "HOME").filter (!·.isEmpty)
  let terminal ← (← IO.getStdout).isTty
  let outside : Surroundings :=
    { configPath, home, terminal, present := fun _ => false, read := fun _ => .error .notFound }
  match Invocation.ofArguments args with
  | .error _ => return outside
  | .ok i =>
    let paths := inputs i (outside.configFile? i.configPath)
    let contents ← paths.mapM fun path => return (path, ← readFile path)
    let read (path : String) := (contents.lookup path).getD (.error .notFound)
    let present (path : String) :=
      match read path with
      | .error .notFound => false
      | _ => true
    return { outside with present, read }

def give (reply : Reply) : IO UInt32 := do
  (← IO.getStdout).putStr reply.out
  (← IO.getStderr).putStr reply.err
  return UInt32.ofNat reply.exitCode

def perform : Plan → IO UInt32
  | .finish reply => give reply
  | .write path content success failure => do
    match ← (IO.FS.writeBinFile path (ByteArray.mk content.toArray)).toBaseIO with
    | .ok () => give success
    | .error e => give (failure (ioFailure e))

end TriggerScript.Main

def main (args : List String) : IO UInt32 := do
  let s ← TriggerScript.Main.surroundings args
  TriggerScript.Main.perform (TriggerScript.planOf args s)
