import TriggerScript.Text.CodePoints

/-!
# Blank characters

A name has to have a character that is not white space. White space includes the separators and
line ends beyond ASCII.
-/

namespace TriggerScript

/-- The characters that count as white space. -/
def blankCodePoints : CodePoints :=
  [(0x9, 0xD), (0x20, 0x20), (0x85, 0x85), (0xA0, 0xA0), (0x1680, 0x1680), (0x2000, 0x200A),
   (0x2028, 0x2029), (0x202F, 0x202F), (0x205F, 0x205F), (0x3000, 0x3000)]

def isBlank (s : String) : Bool := s.toList.all blankCodePoints.has

end TriggerScript
