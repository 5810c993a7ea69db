/-!
# Edit distance

The least number of insertions, deletions and replacements of single characters that turn one text
into another. A table is filled row by row: a row holds the distances from a prefix of the first
text to every prefix of the second.
-/

namespace TriggerScript

namespace EditDistance

/-- The rest of the row for the character `x`: `left` stands before it, `corner` and `above` are
the row of the prefix without `x`. -/
def extendRow (x : Char) : List Char → Nat → Nat → List Nat → List Nat
  | y :: ys, left, corner, up :: above =>
    let best := min (min (left + 1) (up + 1)) (corner + if x = y then 0 else 1)
    best :: extendRow x ys best up above
  | _, _, _, _ => []

/-- The row after one more character of the first text. -/
def nextRow (target : List Char) (row : List Nat) (x : Char) : List Nat :=
  match row with
  | [] => []
  | corner :: above => (corner + 1) :: extendRow x target (corner + 1) corner above

/-- The row of the empty prefix: everything has to be inserted. -/
def firstRow (target : List Char) : List Nat := List.range (target.length + 1)

end EditDistance

def editDistance (source target : String) : Nat :=
  let row := source.toList.foldl (EditDistance.nextRow target.toList)
    (EditDistance.firstRow target.toList)
  row.getLastD 0

end TriggerScript
