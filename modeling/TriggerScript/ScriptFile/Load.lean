import TriggerScript.ScriptFile.Parsers

/-!
# Loading scripts

The scripts of a file are those of its top-level script chunks; all other chunks are skipped.
-/

namespace TriggerScript

/-- A reader at the beginning of a file that parses top-level script chunks. -/
def openScripts (bytes : List UInt8) : Except ChunkError (Reader ParserName) :=
  (Reader.ofBytes bytes).map fun r => r.register scriptLabel "" .script

def loadScripts (registry : Registry) (bytes : List UInt8) : Except ChunkError (List Script) := do
  let r ← openScripts bytes
  match r.parse (scriptParsers registry) (.scripts []) with
  | ((.error e, _), _) => .error e
  | ((.ok (), target), _) => .ok target.foundScripts

end TriggerScript
