/-!
# Parameter kinds

The kind of a parameter says what it refers to, and with that how it is shown, stored and
qualified. Files hold the code of a kind, configurations its name.
-/

namespace TriggerScript

inductive ParameterKind where
  | int
  | real
  | script
  | team
  | counter
  | flag
  | comparison
  | waypoint
  | boolean
  | triggerArea
  | textString
  | side
  | sound
  | scriptSubroutine
  | unit
  | objectType
  | coord3d
  | angle
  | teamState
  | relation
  | aiMood
  | dialog
  | music
  | movie
  | waypointPath
  | localizedText
  | bridge
  | kindOfParam
  | attackPrioritySet
  | radarEventType
  | specialPower
  | science
  | upgrade
  | commandButtonAbility
  | boundary
  | buildable
  | surfacesAllowed
  | shakeIntensity
  deriving DecidableEq

namespace ParameterKind

/-- All kinds, in the order of their codes. -/
def all : List ParameterKind :=
  [.int, .real, .script, .team, .counter, .flag, .comparison, .waypoint, .boolean, .triggerArea,
    .textString, .side, .sound, .scriptSubroutine, .unit, .objectType, .coord3d, .angle,
    .teamState, .relation, .aiMood, .dialog, .music, .movie, .waypointPath, .localizedText,
    .bridge, .kindOfParam, .attackPrioritySet, .radarEventType, .specialPower, .science,
    .upgrade, .commandButtonAbility, .boundary, .buildable, .surfacesAllowed, .shakeIntensity]

/-- The name that configurations and listings use. -/
def name : ParameterKind → String
  | .int => "int"
  | .real => "real"
  | .script => "script"
  | .team => "team"
  | .counter => "counter"
  | .flag => "flag"
  | .comparison => "comparison"
  | .waypoint => "waypoint"
  | .boolean => "boolean"
  | .triggerArea => "trigger_area"
  | .textString => "text_string"
  | .side => "side"
  | .sound => "sound"
  | .scriptSubroutine => "script_subroutine"
  | .unit => "unit"
  | .objectType => "object_type"
  | .coord3d => "coord3d"
  | .angle => "angle"
  | .teamState => "team_state"
  | .relation => "relation"
  | .aiMood => "ai_mood"
  | .dialog => "dialog"
  | .music => "music"
  | .movie => "movie"
  | .waypointPath => "waypoint_path"
  | .localizedText => "localized_text"
  | .bridge => "bridge"
  | .kindOfParam => "kind_of_param"
  | .attackPrioritySet => "attack_priority_set"
  | .radarEventType => "radar_event_type"
  | .specialPower => "special_power"
  | .science => "science"
  | .upgrade => "upgrade"
  | .commandButtonAbility => "command_button_ability"
  | .boundary => "boundary"
  | .buildable => "buildable"
  | .surfacesAllowed => "surfaces_allowed"
  | .shakeIntensity => "shake_intensity"

/-- The number that files hold: the place among all kinds. -/
def code (k : ParameterKind) : Int32 := Int32.ofInt (all.idxOf k)

def ofCode? (code : Int32) : Option ParameterKind :=
  if code.toInt < 0 then none else all[code.toInt.toNat]?

def ofName? (name : String) : Option ParameterKind := all.find? fun k => k.name = name

/-! ## Ways to show a value -/

def isIntegral : ParameterKind → Bool
  | .int | .comparison | .boolean | .relation | .aiMood | .kindOfParam | .radarEventType
  | .boundary | .buildable | .surfacesAllowed | .shakeIntensity => true
  | _ => false

def isReal : ParameterKind → Bool
  | .real | .angle => true
  | _ => false

/-! ## Codes and names -/

theorem mem_all (k : ParameterKind) : k ∈ all := by cases k <;> decide

theorem ofCode?_code (k : ParameterKind) : ofCode? k.code = some k := by cases k <;> decide

theorem code_of_ofCode? {code : Int32} {k : ParameterKind} (h : ofCode? code = some k) :
    k.code = code := by
  unfold ofCode? at h
  split at h
  · simp at h
  · rename_i hc
    obtain ⟨hlt, rfl⟩ := List.getElem?_eq_some_iff.1 h
    have hidx : all.idxOf all[code.toInt.toNat] = code.toInt.toNat :=
      List.Nodup.idxOf_getElem (by decide) _ hlt
    rw [ParameterKind.code, hidx, Int.toNat_of_nonneg (by omega), Int32.ofInt_toInt]

theorem ofName?_name (k : ParameterKind) : ofName? k.name = some k := by cases k <;> decide

end ParameterKind

end TriggerScript
