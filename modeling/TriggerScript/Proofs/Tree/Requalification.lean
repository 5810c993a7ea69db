import TriggerScript.Proofs.Tree.Copies

/-!
# Qualification in two steps

The copy of a script for an instance can be qualified in turn, for an instance within that one.
With the same sides this is qualification by the two suffixes, one behind the other. The exception
is the name of a team that the first suffix makes the reserved one: the second qualification leaves
it alone, while both suffixes at once are put to it.
-/

namespace TriggerScript

variable {first second : Qualifier} {text : String}

/-! ## Texts -/

namespace Qualifier

/-- A single qualifier for two that name the same sides. -/
def followedBy (first second : Qualifier) : Qualifier :=
  { first with suffix := first.suffix ++ second.suffix }

/-- Another name of a team becomes the reserved one. -/
def Reserves (first : Qualifier) (text : String) : Prop :=
  text ≠ thisTeam ∧ text ++ first.suffix = thisTeam

theorem scriptName_scriptName (first second : Qualifier) (name : String) :
    second.scriptName (first.scriptName name) = (first.followedBy second).scriptName name :=
  String.append_assoc

theorem qualifyText_team_twice_iff :
    second.qualifyText .team (first.qualifyText .team text) =
        (first.followedBy second).qualifyText .team text ↔
      second.suffix = "" ∨ ¬ first.Reserves text := by
  by_cases htext : text = thisTeam
  · rw [htext, qualifyText_thisTeam, qualifyText_thisTeam, qualifyText_thisTeam]
    exact iff_of_true rfl (.inr fun h => h.1 rfl)
  · rw [qualifyText_team_of_ne htext, qualifyText_team_of_ne htext]
    by_cases hmade : text ++ first.suffix = thisTeam
    · -- the second suffix is missing unless it is empty
      have hreserves : first.Reserves text := ⟨htext, hmade⟩
      rw [hmade, qualifyText_thisTeam, followedBy, ← String.append_assoc, hmade, eq_comm,
        String.append_eq_left_iff]
      exact (or_iff_left (not_not_intro hreserves)).symm
    · rw [qualifyText_team_of_ne hmade, String.append_assoc]
      exact iff_of_true rfl (.inr fun h => hmade h.2)

/-- Suffixes follow each other, and a side that has been replaced is replaced by itself at most. -/
theorem qualifyText_twice_of_ne_team (htemplate : second.templatePlayer = first.templatePlayer)
    (hplayer : second.player = first.player) {kind : ParameterKind} (hkind : kind ≠ .team) :
    second.qualifyText kind (first.qualifyText kind text) =
      (first.followedBy second).qualifyText kind text := by
  cases kind with
  | team => exact (hkind rfl).elim
  | side =>
      simp only [qualifyText, followedBy, htemplate, hplayer]
      by_cases htext : text = first.templatePlayer <;> simp [htext]
  | script | scriptSubroutine | counter | flag => exact String.append_assoc
  | _ => rfl

theorem qualifyText_twice_iff (htemplate : second.templatePlayer = first.templatePlayer)
    (hplayer : second.player = first.player) {kind : ParameterKind} :
    second.qualifyText kind (first.qualifyText kind text) =
        (first.followedBy second).qualifyText kind text ↔
      second.suffix = "" ∨ ¬ (kind = .team ∧ first.Reserves text) := by
  by_cases hkind : kind = .team
  · rw [hkind, qualifyText_team_twice_iff]
    simp
  · exact iff_of_true (qualifyText_twice_of_ne_team htemplate hplayer hkind)
      (.inr fun h => hkind h.1)

end Qualifier

/-! ## Trees -/

/-- A parameter for which both suffixes at once are not the same as one after the other. -/
def Parameter.Reserved (first : Qualifier) (p : Parameter) : Prop :=
  p.kind = .team ∧ first.Reserves p.text

section Trees

variable (htemplate : second.templatePlayer = first.templatePlayer)
  (hplayer : second.player = first.player)

include htemplate hplayer

theorem Parameter.qualify_qualify_iff {p : Parameter} :
    (p.qualify first).qualify second = p.qualify (first.followedBy second) ↔
      second.suffix = "" ∨ ¬ p.Reserved first := by
  rw [Reserved, ← Qualifier.qualifyText_twice_iff htemplate hplayer]
  simp [qualify]

theorem Condition.duplicateQualified_twice_iff {c : Condition} :
    (c.duplicateQualified first).duplicateQualified second =
        c.duplicateQualified (first.followedBy second) ↔
      ∀ p ∈ c.params, second.suffix = "" ∨ ¬ p.Reserved first := by
  simp only [duplicateQualified, duplicate, qualify, mk.injEq, List.map_map, List.map_inj_left,
    Function.comp_apply, and_true, true_and]
  exact forall₂_congr fun _ _ => Parameter.qualify_qualify_iff htemplate hplayer

theorem Clause.duplicateQualified_twice_iff {c : Clause} :
    (c.duplicateQualified first).duplicateQualified second =
        c.duplicateQualified (first.followedBy second) ↔
      ∀ condition ∈ c.conditions, ∀ p ∈ condition.params,
        second.suffix = "" ∨ ¬ p.Reserved first := by
  simp only [duplicateQualified, mk.injEq, List.map_map, List.map_inj_left, Function.comp_apply]
  exact forall₂_congr fun _ _ => Condition.duplicateQualified_twice_iff htemplate hplayer

/-- For a single script it is the names of its teams that decide. -/
theorem Script.duplicateQualified_twice_iff {s : Script} :
    (s.duplicateQualified first).duplicateQualified second =
        s.duplicateQualified (first.followedBy second) ↔
      ∀ clause ∈ s.trigger.clauses, ∀ c ∈ clause.conditions, ∀ p ∈ c.params,
        second.suffix = "" ∨ ¬ p.Reserved first := by
  simp only [duplicateQualified, Trigger.duplicateQualified, mk.injEq, Trigger.mk.injEq,
    Qualifier.scriptName_scriptName, List.map_map, List.map_inj_left, Function.comp_apply, true_and]
  exact forall₂_congr fun _ _ => Clause.duplicateQualified_twice_iff htemplate hplayer

end Trees

/-! ## All scripts -/

theorem Qualifier.exists_reserves (hne : first.suffix ≠ "")
    (h : first.suffix.toList <:+ thisTeam.toList) : ∃ front, first.Reserves front := by
  obtain ⟨front, hother, hmerged⟩ := exists_qualifyText_eq_thisTeam hne h
  rw [qualifyText_team_of_ne hother] at hmerged
  exact ⟨front, hother, hmerged⟩

theorem Qualifier.not_reserves
    (h : first.suffix = "" ∨ ¬ first.suffix.toList <:+ thisTeam.toList) : ¬ first.Reserves text :=
  fun hreserves => hreserves.1 (eq_thisTeam_of_append h hreserves.2)

/-- Two qualifiers of the same sides, one after the other, do to every script what one with both
suffixes does, unless the second has a suffix and the first one's is an end of the reserved name. -/
theorem requalified_eq_iff (first second : Qualifier)
    (htemplate : second.templatePlayer = first.templatePlayer)
    (hplayer : second.player = first.player) :
    (∀ s : Script, (s.duplicateQualified first).duplicateQualified second =
        s.duplicateQualified { first with suffix := first.suffix ++ second.suffix }) ↔
      first.suffix = "" ∨ second.suffix = "" ∨ ¬ first.suffix.toList <:+ thisTeam.toList := by
  have hscript (s : Script) := Script.duplicateQualified_twice_iff htemplate hplayer (s := s)
  constructor
  · intro h
    by_contra hnot
    obtain ⟨hfirst, hsecond, hend⟩ : first.suffix ≠ "" ∧ second.suffix ≠ "" ∧
        first.suffix.toList <:+ thisTeam.toList := by simpa using hnot
    -- a script that names the team whose name becomes the reserved one tells the difference
    obtain ⟨front, hfront⟩ := Qualifier.exists_reserves hfirst hend
    have hparam := (hscript (.watching [front])).1 (h _) _ List.mem_cons_self _ List.mem_cons_self
      (.ofText .team front) List.mem_cons_self
    exact hparam.elim hsecond fun hother => hother ⟨rfl, hfront⟩
  · intro h s
    refine (hscript s).2 fun clause _ c _ p _ => ?_
    obtain hfirst | hsecond | hend := h
    · exact .inr fun hp => Qualifier.not_reserves (.inl hfirst) hp.2
    · exact .inl hsecond
    · exact .inr fun hp => Qualifier.not_reserves (.inr hend) hp.2

/-- With one suffix the steps are the same as both at once, with an end of the reserved name not. -/
theorem squads_requalified :
    (∀ s : Script, (s.duplicateQualified ⟨" North", "Player", "Allies"⟩).duplicateQualified
        ⟨" 2", "Player", "Allies"⟩ = s.duplicateQualified ⟨" North 2", "Player", "Allies"⟩) ∧
      ¬ ∀ s : Script, (s.duplicateQualified ⟨"Team>", "Player", "Allies"⟩).duplicateQualified
        ⟨" 2", "Player", "Allies"⟩ = s.duplicateQualified ⟨"Team> 2", "Player", "Allies"⟩ := by
  refine ⟨(requalified_eq_iff ⟨" North", "Player", "Allies"⟩ ⟨" 2", "Player", "Allies"⟩ rfl rfl).2
    (.inr (.inr (by decide))), fun h => ?_⟩
  have hsteps :=
    (requalified_eq_iff ⟨"Team>", "Player", "Allies"⟩ ⟨" 2", "Player", "Allies"⟩ rfl rfl).1 h
  exact absurd hsteps (by decide)

end TriggerScript
