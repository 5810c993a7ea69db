import TriggerScript.Tree.Script

/-!
# References between scripts

Scripts refer to each other by name, and share counters, flags and teams by name. All scripts of a
list are qualified together, each on its own. What referred to the same thing before does so
afterwards, and what did not does not, with one exception: a team can get the reserved name.
-/

namespace TriggerScript

variable {q : Qualifier} {scripts : List Script} {text text' : String}

/-! ## Texts -/

theorem Qualifier.qualifyText_team_of_ne (h : text ≠ thisTeam) :
    q.qualifyText .team text = text ++ q.suffix := if_neg h

theorem Qualifier.qualifyText_thisTeam : q.qualifyText .team thisTeam = thisTeam := by
  rw [qualifyText, if_pos rfl]

/-- Only with a suffix that the reserved name ends in can another name become the reserved one. -/
theorem Qualifier.eq_thisTeam_of_append (hq : q.suffix = "" ∨ ¬ q.suffix.toList <:+ thisTeam.toList)
    (h : text ++ q.suffix = thisTeam) : text = thisTeam := by
  obtain hq | hq := hq
  · rwa [hq, String.append_empty] at h
  · exact (hq ⟨text.toList, by rw [← String.toList_append, h]⟩).elim

theorem Qualifier.eq_of_qualifyText_team
    (hq : q.suffix = "" ∨ ¬ q.suffix.toList <:+ thisTeam.toList)
    (h : q.qualifyText .team text = q.qualifyText .team text') : text = text' := by
  by_cases ht : text = thisTeam <;> by_cases ht' : text' = thisTeam
  · rw [ht, ht']
  · rw [ht, qualifyText_thisTeam, qualifyText_team_of_ne ht'] at h
    exact (ht' (eq_thisTeam_of_append hq h.symm)).elim
  · rw [ht', qualifyText_thisTeam, qualifyText_team_of_ne ht] at h
    exact (ht (eq_thisTeam_of_append hq h)).elim
  · rw [qualifyText_team_of_ne ht, qualifyText_team_of_ne ht'] at h
    exact (String.append_left_inj _).1 h

/-- What is before the suffix in the reserved name becomes the reserved name. -/
theorem Qualifier.exists_qualifyText_eq_thisTeam (hne : q.suffix ≠ "")
    (h : q.suffix.toList <:+ thisTeam.toList) :
    ∃ front, front ≠ thisTeam ∧ q.qualifyText .team front = thisTeam := by
  obtain ⟨front, hfront⟩ := h
  have happend : String.ofList front ++ q.suffix = thisTeam := by
    rw [← String.toList_inj, String.toList_append, String.toList_ofList, hfront]
  have hother : String.ofList front ≠ thisTeam := by
    intro heq
    rw [heq] at happend
    exact hne ((String.append_right_inj thisTeam).1 (happend.trans (String.append_empty).symm))
  exact ⟨_, hother, (qualifyText_team_of_ne hother).trans happend⟩

/-! ## Places -/

/-- Where a parameter can stand in a list of scripts. -/
structure Place where
  script : Nat
  clause : Nat
  condition : Nat
  slot : Nat

def Place.param? (place : Place) (scripts : List Script) : Option Parameter :=
  scripts[place.script]?.bind fun s =>
    s.trigger.clauses[place.clause]?.bind fun clause =>
      clause.conditions[place.condition]?.bind fun c => c.params[place.slot]?

theorem Place.param?_copies (place : Place) (q : Qualifier) (scripts : List Script) :
    place.param? (scripts.map (Script.duplicateQualified q)) =
      (place.param? scripts).map (Parameter.qualify q) := by
  simp only [param?, List.getElem?_map, Option.bind_map, Option.map_bind, Function.comp_def,
    Script.duplicateQualified, Trigger.duplicateQualified, Clause.duplicateQualified,
    Condition.duplicateQualified, Condition.duplicate, Condition.qualify]

/-- A place of the scripts where there is a parameter. -/
structure Spot (scripts : List Script) extends Place where
  occupied : (toPlace.param? scripts).isSome

namespace Spot

def param (a : Spot scripts) : Parameter := (a.param? scripts).get a.occupied

/-- The same place in the qualified copies. -/
def copied (q : Qualifier) (a : Spot scripts) :
    Spot (scripts.map (Script.duplicateQualified q)) where
  toPlace := a.toPlace
  occupied := by
    rw [Place.param?_copies, Option.isSome_map]
    exact a.occupied

theorem param_copied (q : Qualifier) (a : Spot scripts) :
    (a.copied q).param = a.param.qualify q := by
  simp only [param, copied, Place.param?_copies, Option.get_map]

/-- Every parameter of the scripts is at some place. -/
theorem exists_param_eq {s : Script} (hs : s ∈ scripts) {clause : Clause}
    (hclause : clause ∈ s.trigger.clauses) {c : Condition} (hc : c ∈ clause.conditions)
    {p : Parameter} (hp : p ∈ c.params) : ∃ a : Spot scripts, a.param = p := by
  obtain ⟨i, hi⟩ := List.mem_iff_getElem?.1 hs
  obtain ⟨j, hj⟩ := List.mem_iff_getElem?.1 hclause
  obtain ⟨k, hk⟩ := List.mem_iff_getElem?.1 hc
  obtain ⟨l, hl⟩ := List.mem_iff_getElem?.1 hp
  have hparam : Place.param? ⟨i, j, k, l⟩ scripts = some p := by
    simp only [Place.param?, hi, hj, hk, hl, Option.bind_some]
  exact ⟨⟨⟨i, j, k, l⟩, Option.isSome_of_eq_some hparam⟩, Option.get_of_eq_some _ hparam⟩

/-! ## References -/

/-- The kinds whose texts all get the suffix, as the names of scripts do. -/
theorem text_copied (q : Qualifier) {a : Spot scripts}
    (h : a.param.kind ∈ [.script, .scriptSubroutine, .counter, .flag]) :
    (a.copied q).param.text = q.scriptName a.param.text := by
  rw [param_copied, Parameter.qualify, Qualifier.scriptName]
  simp only [List.mem_cons, List.not_mem_nil, or_false] at h
  obtain h | h | h | h := h <;> rw [h, Qualifier.qualifyText]

theorem text_copied_team (q : Qualifier) {a : Spot scripts} (h : a.param.kind = .team) :
    (a.copied q).param.text = q.qualifyText .team a.param.text := by
  rw [param_copied, Parameter.qualify, h]

end Spot

theorem Qualifier.scriptName_inj : q.scriptName text = q.scriptName text' ↔ text = text' :=
  String.append_left_inj _

/-- A script that watches teams. -/
def Script.watching (teams : List String) : Script :=
  { named "Watch" with
    trigger := ⟨[⟨teams.map fun team => { Condition.blank with
      type := 8
      params := [.ofText .team team] }⟩]⟩ }

theorem Spot.exists_watched {teams : List String} {team : String} (h : team ∈ teams) :
    ∃ a : Spot [Script.watching teams], a.param = .ofText .team team :=
  exists_param_eq List.mem_cons_self List.mem_cons_self (List.mem_map_of_mem h) List.mem_cons_self

/-- With an end of the reserved name as the suffix, what is before it joins the reserved name. -/
theorem Spot.exists_merged (hne : q.suffix ≠ "") (h : q.suffix.toList <:+ thisTeam.toList) :
    ∃ (scripts : List Script) (a b : Spot scripts),
      a.param.kind = .team ∧ b.param.kind = .team ∧ a.param.text ≠ b.param.text ∧
        (a.copied q).param.text = (b.copied q).param.text := by
  obtain ⟨front, hother, hmerged⟩ := Qualifier.exists_qualifyText_eq_thisTeam hne h
  have hfront : front ∈ [front, thisTeam] := List.mem_cons_self
  have hthis : thisTeam ∈ [front, thisTeam] := List.mem_cons_of_mem _ List.mem_cons_self
  obtain ⟨a, ha⟩ := exists_watched hfront
  obtain ⟨b, hb⟩ := exists_watched hthis
  have hakind : a.param.kind = .team := congrArg Parameter.kind ha
  have hbkind : b.param.kind = .team := congrArg Parameter.kind hb
  have hatext : a.param.text = front := congrArg Parameter.text ha
  have hbtext : b.param.text = thisTeam := congrArg Parameter.text hb
  refine ⟨_, a, b, hakind, hbkind, by rwa [hatext, hbtext], ?_⟩
  rw [text_copied_team q hakind, text_copied_team q hbkind, hatext, hbtext, hmerged,
    Qualifier.qualifyText_thisTeam]

/-- References to scripts, and counters and flags that are shared, are the same before and after.
Teams that are shared stay shared. Others stay apart unless the suffix is an end of the reserved
name, and with each such suffix two of them can fall together. -/
theorem references_qualified (q : Qualifier) :
    (∀ (scripts : List Script) (a : Spot scripts),
      a.param.kind = .script ∨ a.param.kind = .scriptSubroutine → ∀ s ∈ scripts,
        ((a.copied q).param.text = (s.duplicateQualified q).name ↔ a.param.text = s.name)) ∧
    (∀ (scripts : List Script) (a b : Spot scripts),
      a.param.kind = .counter ∧ b.param.kind = .counter ∨
          a.param.kind = .flag ∧ b.param.kind = .flag →
        ((a.copied q).param.text = (b.copied q).param.text ↔ a.param.text = b.param.text)) ∧
    (∀ (scripts : List Script) (a b : Spot scripts),
      a.param.kind = .team → b.param.kind = .team →
        (a.param.text = b.param.text → (a.copied q).param.text = (b.copied q).param.text) ∧
        (q.suffix = "" ∨ ¬ q.suffix.toList <:+ thisTeam.toList →
          a.param.text ≠ b.param.text → (a.copied q).param.text ≠ (b.copied q).param.text)) ∧
    (q.suffix ≠ "" → q.suffix.toList <:+ thisTeam.toList →
      ∃ (scripts : List Script) (a b : Spot scripts),
        a.param.kind = .team ∧ b.param.kind = .team ∧ a.param.text ≠ b.param.text ∧
          (a.copied q).param.text = (b.copied q).param.text) := by
  refine ⟨fun scripts a ha s _ => ?_, fun scripts a b hab => ?_, fun scripts a b ha hb => ?_,
    Spot.exists_merged⟩
  · have hkind : a.param.kind ∈ [.script, .scriptSubroutine, .counter, .flag] := by
      obtain ha | ha := ha <;> simp [ha]
    rw [Spot.text_copied q hkind]
    exact Qualifier.scriptName_inj
  · obtain ⟨ha, hb⟩ : a.param.kind ∈ [.script, .scriptSubroutine, .counter, .flag] ∧
        b.param.kind ∈ [.script, .scriptSubroutine, .counter, .flag] := by
      obtain ⟨ha, hb⟩ | ⟨ha, hb⟩ := hab <;> simp [ha, hb]
    rw [Spot.text_copied q ha, Spot.text_copied q hb, Qualifier.scriptName_inj]
  · rw [Spot.text_copied_team q ha, Spot.text_copied_team q hb]
    exact ⟨congrArg _, fun hq hdiffer heq => hdiffer (Qualifier.eq_of_qualifyText_team hq heq)⟩

namespace Sentries

/-- A script that is named by another, which also watches two teams. -/
def all : List Script :=
  [.named "Guard", { Script.watching [thisTeam, "Scouts"] with name := "Patrol" }.pushClause
    ⟨[{ Condition.blank with type := 30, params := [.ofText .script "Guard"] }]⟩]

def reference : Spot all := ⟨⟨1, 1, 0, 0⟩, by decide⟩

def ownTeam : Spot all := ⟨⟨1, 0, 0, 0⟩, by decide⟩

def scouts : Spot all := ⟨⟨1, 0, 1, 0⟩, by decide⟩

/-- With one suffix the reference is kept and the teams stay apart, with another teams fall
together. -/
theorem copies_refer :
    ((reference.copied ⟨" North", "", ""⟩).param.text =
        ((Script.named "Guard").duplicateQualified ⟨" North", "", ""⟩).name) ∧
      (ownTeam.copied ⟨" North", "", ""⟩).param.text ≠
        (scouts.copied ⟨" North", "", ""⟩).param.text ∧
      ∃ (scripts : List Script) (a b : Spot scripts),
        a.param.kind = .team ∧ b.param.kind = .team ∧ a.param.text ≠ b.param.text ∧
          (a.copied ⟨"Team>", "", ""⟩).param.text = (b.copied ⟨"Team>", "", ""⟩).param.text := by
  obtain ⟨hscripts, -, hteams, -⟩ := references_qualified ⟨" North", "", ""⟩
  obtain ⟨-, -, -, hmerged⟩ := references_qualified ⟨"Team>", "", ""⟩
  refine ⟨(hscripts all reference (.inl (by decide)) (.named "Guard") (by decide)).2
      (by decide), ?_, hmerged (by decide) (by decide)⟩
  exact (hteams all ownTeam scouts (by decide) (by decide)).2 (.inr (by decide)) (by decide)

end Sentries

end TriggerScript
