import TriggerScript.ScriptFile.Parsers
import TriggerScript.Chunk.Writer

/-!
# Saving scripts

Scripts are written as nested chunks. The name of its type goes with each condition, so that a file
survives a renumbering of the types.
-/

namespace TriggerScript

def chunkEvents (label : String) (version : UInt16) (content : List Event) : List Event :=
  .openChunk label version :: content ++ [.closeChunk]

def Condition.events (registry : Registry) (c : Condition) : List Event :=
  chunkEvents conditionLabel namedVersion <|
    [.int c.type, .text ((registry.typeName? c.type).getD ""),
      .int (Int32.ofNat c.params.length)] ++ c.params.flatMap Parameter.events

def Clause.events (registry : Registry) (c : Clause) : List Event :=
  chunkEvents clauseLabel 1 (c.conditions.flatMap (Condition.events registry))

def flagByte (b : Bool) : UInt8 := if b then 1 else 0

def Script.events (registry : Registry) (s : Script) : List Event :=
  chunkEvents scriptLabel 1 <|
    [.text s.name, .text s.comment, .byte (flagByte s.active), .byte (flagByte s.oneShot),
      .byte (flagByte s.subroutine)] ++ s.trigger.clauses.flatMap (Clause.events registry)

def saveScripts (registry : Registry) (scripts : List Script) : List UInt8 :=
  writeFile (scripts.flatMap (Script.events registry))

end TriggerScript
