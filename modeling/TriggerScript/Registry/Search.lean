import TriggerScript.Registry.Table
import TriggerScript.Text.Casing
import TriggerScript.Text.EditDistance
import TriggerScript.Text.Integer

/-!
# Finding condition types

A query names a type exactly, by its tag, or by its name in any case. When it names none, the names
that are close to it can be suggested.
-/

namespace TriggerScript.TemplateTable

/-! ## Queries -/

/-- Equality that ignores the case of the letters A to Z. -/
def sameLetters (a b : String) : Bool := a.toList.map Char.toLower = b.toList.map Char.toLower

/-- A query that is a number names a tag, unless a type has that very name. -/
def find? (table : TemplateTable) (query : String) : Option Template :=
  match table.registry.named? query with
  | some t => some t
  | none =>
    match parseInt32? query with
    | some tag => table.registry.template? tag
    | none => table.templates.find? fun t => sameLetters t.name query

/-! ## Suggestions -/

def distance (query name : String) : Nat := editDistance (lowerCase query) (lowerCase name)

/-- Nearer names come first, names at the same distance in the order of their characters. -/
def precedes (a b : Nat × String) : Bool := a.1 < b.1 || a.1 = b.1 && !(b.2 < a.2)

/-- The names within a distance of the query, the nearest first. -/
def suggest (table : TemplateTable) (query : String) (reach : Nat) : List String :=
  let near := (table.templates.map fun t => (distance query t.name, t.name)).filter (·.1 ≤ reach)
  (near.mergeSort precedes).map (·.2)

end TriggerScript.TemplateTable
