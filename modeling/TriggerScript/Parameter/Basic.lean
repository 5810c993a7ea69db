import TriggerScript.Parameter.Kind
import TriggerScript.Binary.Single

/-!
# Parameters

A parameter has a place for a value of each sort; its kind says which of them counts. The others
are carried along all the same.
-/

namespace TriggerScript

structure Coord where
  x : Single
  y : Single
  z : Single
  deriving DecidableEq

namespace Coord

def zero : Coord := ⟨.zero, .zero, .zero⟩

def sameValue (a b : Coord) : Bool :=
  a.x.sameValue b.x && a.y.sameValue b.y && a.z.sameValue b.z

end Coord

structure Parameter where
  kind : ParameterKind
  int : Int32
  real : Single
  text : String
  coord : Coord
  deriving DecidableEq

namespace Parameter

/-- The parameter of a kind whose values are all zero or empty. -/
def ofKind (kind : ParameterKind) : Parameter := ⟨kind, 0, .zero, "", .zero⟩

def ofInt (kind : ParameterKind) (value : Int32) : Parameter := { ofKind kind with int := value }

def ofReal (kind : ParameterKind) (value : Single) : Parameter := { ofKind kind with real := value }

def ofText (kind : ParameterKind) (value : String) : Parameter := { ofKind kind with text := value }

def ofCoord (value : Coord) : Parameter := { ofKind .coord3d with coord := value }

/-- Equality in which real numbers are compared as numbers. -/
def sameValue (a b : Parameter) : Bool :=
  a.kind = b.kind && a.int = b.int && a.real.sameValue b.real && a.text = b.text
    && a.coord.sameValue b.coord

end Parameter

end TriggerScript
