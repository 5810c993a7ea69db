import TriggerScript.Registry.Error

/-!
# Chunk errors

What can be wrong with a chunk file, one constructor for each cause, and the text of each.
-/

namespace TriggerScript

/-- A part of a file that is read as a whole. -/
inductive Field where
  | chunkHeader
  | chunkBody
  | int
  | real
  | byte
  | textLength
  | text
  deriving DecidableEq

namespace Field

def name : Field → String
  | .chunkHeader => "chunk header"
  | .chunkBody => "chunk body"
  | .int => "int"
  | .real => "real"
  | .byte => "byte"
  | .textLength => "string length"
  | .text => "string"

end Field

inductive TargetKind where
  | scripts
  | script
  | clause
  | trace
  deriving DecidableEq

namespace TargetKind

def name : TargetKind → String
  | .scripts => "ScriptListParseTarget"
  | .script => "ScriptParseTarget"
  | .clause => "ConditionParseTarget"
  | .trace => "LogTarget"

end TargetKind

/-- Why bytes do not form the chunks that they should. -/
inductive Malformation where
  | labelTable
  | truncated (field : Field)
  | negativeSize (size : Int32) (label : String)
  | parameterCount (count : Int32)
  | oversizedShape (typeName : String) (count : Nat)
  | refused (reason : String)
  deriving DecidableEq

namespace Malformation

def message : Malformation → String
  | .labelTable => "label table: failed to fill whole buffer"
  | .truncated field => s!"unexpected end of data reading {field.name}"
  | .negativeSize size label => s!"negative size {size} for '{label}'"
  | .parameterCount count => s!"bad parameter count {count}"
  | .oversizedShape typeName count => oversizedMessage typeName count
  | .refused reason => reason

end Malformation

inductive ChunkError where
  | unreadable (reason : String)
  | badMagic
  | malformed (fault : Malformation)
  | unknownConditionType (tag : Int32)
  | unknownParameterKind (code : Int32)
  | unknownLabel (id : UInt32)
  | unexpectedTarget (expected : TargetKind)
  deriving DecidableEq

namespace ChunkError

/-- A type that a condition in a file cannot have. -/
def ofShape : ShapeError → ChunkError
  | .unknownType tag => .unknownConditionType tag
  | .oversized typeName count => .malformed (.oversizedShape typeName count)

def message : ChunkError → String
  | .unreadable reason => s!"io error: {reason}"
  | .badMagic => "not a chunk file (bad magic)"
  | .malformed fault => s!"malformed chunk: {fault.message}"
  | .unknownConditionType tag => s!"unknown condition type: {tag}"
  | .unknownParameterKind code => s!"unknown parameter type: {code}"
  | .unknownLabel id => s!"unknown chunk label id: {id}"
  | .unexpectedTarget expected => s!"parser expected a {expected.name} as the receiving object"

end ChunkError

end TriggerScript
