import TriggerScript.Chunk.LabelTable
import TriggerScript.Chunk.StoredText
import TriggerScript.Binary.Single

/-!
# Writing chunks

A chunk file is written by a list of events. The writer keeps the content of the innermost open
chunk and, for each open chunk, what was written before its header; the size of a chunk is known
when it is closed. Labels get identifiers in the order of their first use.
-/

namespace TriggerScript

inductive Event where
  | openChunk (label : String) (version : UInt16)
  | closeChunk
  | byte (value : UInt8)
  | int (value : Int32)
  | real (value : Single)
  | text (value : String)
  deriving DecidableEq

/-- An open chunk: its header and the content of the enclosing one up to it. -/
structure Enclosing where
  id : UInt32
  version : UInt16
  before : Array UInt8

structure Writer where
  labels : List String
  content : Array UInt8
  /-- The open chunks, the innermost first. -/
  chunks : List Enclosing

namespace Writer

open LittleEndian

def empty : Writer := ⟨[], #[], []⟩

/-- The size field of a content, the greatest size there is for one that is larger. -/
def sizeField (content : Array UInt8) : List UInt8 :=
  ofInt32 (Int32.ofNat (min content.size 2147483647))

def put (w : Writer) (bytes : List UInt8) : Writer := { w with content := w.content ++ bytes }

/-- The identifiers start at one. -/
def idAt (index : Nat) : UInt32 := UInt32.ofNat (index + 1)

def openChunk (w : Writer) (label : String) (version : UInt16) : Writer :=
  let (index, labels) :=
    match w.labels.idxOf? label with
    | some index => (index, w.labels)
    | none => (w.labels.length, w.labels ++ [label])
  { labels, content := #[], chunks := ⟨idAt index, version, w.content⟩ :: w.chunks }

/-- Writes the header of the innermost open chunk and its content after what came before. -/
def closeChunk (w : Writer) : Writer :=
  match w.chunks with
  | [] => w
  | chunk :: outer =>
    { w with
      content := chunk.before ++ ofUInt32 chunk.id ++ ofUInt16 chunk.version
        ++ sizeField w.content ++ w.content
      chunks := outer }

def apply (w : Writer) : Event → Writer
  | .openChunk label version => w.openChunk label version
  | .closeChunk => w.closeChunk
  | .byte value => w.put [value]
  | .int value => w.put (ofInt32 value)
  | .real value => w.put value.toBytes
  | .text value => w.put (StoredText.encode value)

def run (w : Writer) (events : List Event) : Writer := events.foldl apply w

def closeAll (w : Writer) : Writer := w.chunks.length.repeat closeChunk w

/-! ## The file -/

/-- At most 255 bytes of a label, in UTF-8, are kept. -/
def labelName (label : String) : List UInt8 := (label.toList.flatMap String.utf8EncodeChar).take 255

def labelEntry (label : String) (id : UInt32) : List UInt8 :=
  UInt8.ofNat (labelName label).length :: labelName label ++ ofUInt32 id

def labelTable (labels : List String) : List UInt8 :=
  ofInt32 (Int32.ofNat labels.length) ++
    (labels.mapIdx fun index label => labelEntry label (idAt index)).flatten

def finish (w : Writer) : List UInt8 :=
  magic ++ labelTable w.labels ++ w.closeAll.content.toList

end Writer

def writeFile (events : List Event) : List UInt8 := (Writer.empty.run events).finish

end TriggerScript
