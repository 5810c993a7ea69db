import TriggerScript.Config.Basic
import TriggerScript.Text.Blank

/-!
# Checking configurations

A check adds the declared types one after the other, as building the table does, but goes on after
a type that is refused and reports everything that is wrong.
-/

namespace TriggerScript

inductive ConfigProblem where
  | emptyName
  | duplicateId (id : Int32)
  | duplicateName (name : String)
  | oversized (count : Nat)
  | refused (error : InsertError)
  deriving DecidableEq

namespace ConfigProblem

def message : ConfigProblem → String
  | .emptyName => "name must not be empty"
  | .duplicateId id => s!"duplicate id {id}"
  | .duplicateName name => s!"duplicate name '{name}'"
  | .oversized count => s!"{count} parameters, at most {maxParameters} allowed"
  | .refused error => error.message

end ConfigProblem

namespace Config

/-- What is known from the types before: their tags and names, and the table so far. -/
structure Progress where
  ids : List Int32
  names : List String
  table : TemplateTable

namespace Progress

/-- A clash with a type declared before is reported as a duplicate name. Only a clash with the
standard table remains to be told. -/
def clash (p : Progress) (t : Template) : Option ConfigProblem :=
  match p.table.insert t with
  | .error (.nameTaken name holder) =>
    if holder ∈ t.id :: p.ids then none else some (.refused (.nameTaken name holder))
  | _ => none

def problems (p : Progress) (t : Template) : List ConfigProblem :=
  (if isBlank t.name then [.emptyName] else [])
    ++ (if t.id ∈ p.ids then [.duplicateId t.id] else [])
    ++ (if t.name ∈ p.names then [.duplicateName t.name] else [])
    ++ (if t.shape.length > maxParameters then [.oversized t.shape.length] else [])
    ++ (p.clash t).toList

/-- A type that is refused leaves the table as it is. -/
def next (p : Progress) (t : Template) : Progress where
  ids := t.id :: p.ids
  names := t.name :: p.names
  table :=
    match p.table.insert t with
    | .ok (_, table) => table
    | .error _ => p.table

end Progress

/-- The problems of the types from the given one on, with their places. -/
def problemsFrom (index : Nat) (p : Progress) : List Template → List (Nat × ConfigProblem)
  | [] => []
  | t :: rest => (p.problems t).map (index, ·) ++ problemsFrom (index + 1) (p.next t) rest

def verify (c : Config) : List (Nat × ConfigProblem) :=
  problemsFrom 0 ⟨[], [], c.baseTable⟩ c.conditionTypes

def problemText (problem : Nat × ConfigProblem) : String :=
  s!"condition_types[{problem.1}]: " ++ problem.2.message

end Config

end TriggerScript
