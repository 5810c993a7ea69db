import TriggerScript.Command.Problem
import TriggerScript.Config.Basic
import TriggerScript.Json.Render
import TriggerScript.Tree.Text

/-!
# Reports

What commands print, as text and as JSON. A JSON report is one object on one line, with either a
result or an error.
-/

namespace TriggerScript

/-! ## Script trees as JSON -/

namespace Single

def toJson (x : Single) : Json := .number (NumberLayout.json.text .single x.value)

end Single

/-- Only coordinates show a coordinate. -/
def Parameter.toJson (p : Parameter) : Json :=
  let coord := Json.array [p.coord.x.toJson, p.coord.y.toJson, p.coord.z.toJson]
  .object <| [("kind", .string p.kind.name), ("int", .int p.int.toInt), ("real", p.real.toJson),
      ("string", .string p.text)]
    ++ Json.optionalField "coord" (if p.kind = .coord3d then some coord else none)
    ++ [("display", .string p.render)]

def Condition.toJson (names : TypeNames) (c : Condition) : Json :=
  .object [("type", .int c.type.toInt), ("name", Json.ofOption (names c.type)),
    ("params", .array (c.params.map Parameter.toJson))]

def Clause.toJson (names : TypeNames) (c : Clause) : Json :=
  .object [("conditions", .array (c.conditions.map (Condition.toJson names)))]

def Script.toJson (names : TypeNames) (s : Script) : Json :=
  .object [("name", .string s.name), ("comment", .string s.comment), ("active", .bool s.active),
    ("one_shot", .bool s.oneShot), ("subroutine", .bool s.subroutine),
    ("expression", .string (s.trigger.render names)),
    ("clauses", .array (s.trigger.clauses.map (Clause.toJson names)))]

/-! ## Envelopes -/

def envelope (part : String × Json) : Json :=
  .object [("jsonrpc", .string "2.0"), part, ("id", .null)]

def resultLine (result : Json) : String := (envelope ("result", result)).compact ++ "\n"

/-- The code of an error: the exit code, counted down from the range for applications. -/
def errorCode (exitCode : Nat) : Int := -32000 - exitCode

namespace Problem

/-- A list of suggestions is left out when it is empty. -/
def data : Problem → Option Json
  | .unknownType _ suggestions =>
    some (.object (Json.optionalField "suggestions"
      (if suggestions.isEmpty then none else some (.array (suggestions.map Json.string)))))
  | problem => problem.details.map fun details => .object [("details", .string details)]

def toJson (p : Problem) : Json :=
  .object <| [("code", .int (errorCode p.exitCode)), ("message", .string p.message)]
    ++ Json.optionalField "data" p.data

def errorLine (p : Problem) : String := (envelope ("error", p.toJson)).compact ++ "\n"

def text : Problem → String
  | .unknownType query suggestions =>
    let hint := if suggestions.isEmpty then ""
      else "Did you mean: " ++ String.intercalate ", " suggestions ++ "?\n"
    "Error: " ++ message (.unknownType query suggestions) ++ "\n" ++ hint
  | problem =>
    match problem.details with
    | some details => "Error: " ++ problem.message ++ ": " ++ details ++ "\n"
    | none => "Error: " ++ problem.message ++ "\n"

end Problem

/-! ## Text -/

def Script.flagText (s : Script) : String :=
  let flags := (if s.active then ["active"] else []) ++ (if s.oneShot then ["one-shot"] else [])
    ++ (if s.subroutine then ["subroutine"] else [])
  if flags.isEmpty then "" else " [" ++ String.intercalate ", " flags ++ "]"

/-- Name and flags, the comment if there is one, and the trigger. -/
def Script.text (names : TypeNames) (s : Script) : String :=
  s.name ++ s.flagText ++ "\n"
    ++ (if s.comment.isEmpty then "" else "  # " ++ s.comment ++ "\n")
    ++ "  IF " ++ s.trigger.render names ++ "\n"

/-- Tag, name and kinds of parameters; the tag takes at least four columns. -/
def Template.text (t : Template) : String :=
  let tag := toString t.id
  "".pushn ' ' (4 - tag.length) ++ tag ++ "  " ++ t.name ++ "("
    ++ String.intercalate ", " (t.shape.map (·.name)) ++ ")\n"

end TriggerScript
