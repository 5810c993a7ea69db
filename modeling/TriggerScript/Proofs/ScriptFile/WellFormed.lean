import TriggerScript.Proofs.ScriptFile.Stability

/-!
# What is loaded is well formed

Whatever the bytes of a file and whatever the registry: a condition that is loaded has a known type
with a shape that is not too long and one parameter for each slot, a warning exactly where a
parameter is not of the kind of its slot, and no values but those that its parameters store.
-/

namespace TriggerScript

variable {registry : Registry} {bytes : List UInt8}

/-! ## Well-formed parameters, conditions and scripts -/

/-- A parameter without values that its kind does not store, and with a text that can be stored. -/
structure Parameter.WellFormed (p : Parameter) : Prop where
  coord3d : p.kind = .coord3d → p.int = 0 ∧ p.real = .zero ∧ p.text = ""
  other : p.kind ≠ .coord3d → p.coord = .zero
  text : StoredText.fits p.text = true

/-- In some slot stands a parameter of another kind. -/
def Condition.Mismatched (shape : List ParameterKind) (c : Condition) : Prop :=
  ∃ (slot : Nat) (p : Parameter) (kind : ParameterKind), c.params[slot]? = some p ∧
    shape[slot]? = some kind ∧ p.kind ≠ kind

structure Condition.WellFormed (registry : Registry) (c : Condition) : Prop where
  typed : ∃ t, registry.template? c.type = some t ∧ t.shape.length ≤ maxParameters ∧
    c.params.length = t.shape.length ∧ (c.hasWarnings = true ↔ c.Mismatched t.shape)
  customData : c.customData = 0
  reserved : c.reserved = 0
  params : ∀ p ∈ c.params, p.WellFormed

structure Script.WellFormed (registry : Registry) (s : Script) : Prop where
  name : StoredText.fits s.name = true
  comment : StoredText.fits s.comment = true
  conditions : ∀ clause ∈ s.trigger.clauses, ∀ c ∈ clause.conditions, c.WellFormed registry

/-! ## What is settled is well formed -/

theorem Parameter.kept_eq_iff {p : Parameter} : p.kept = p ↔ p.WellFormed := by
  obtain ⟨kind, int, real, text, coord⟩ := p
  by_cases hkind : kind = .coord3d
  · constructor
    · intro h
      simp only [kept, if_pos hkind, ofCoord, ofKind, mk.injEq] at h
      obtain ⟨-, rfl, rfl, rfl, -⟩ := h
      exact ⟨fun _ => ⟨rfl, rfl, rfl⟩, fun h => (h hkind).elim, StoredText.fits_empty⟩
    · intro h
      obtain ⟨rfl, rfl, rfl⟩ := h.coord3d hkind
      simp [kept, hkind, ofCoord, ofKind]
  · constructor
    · intro h
      simp only [kept, if_neg hkind, ofKind, mk.injEq, true_and] at h
      obtain ⟨htext, rfl⟩ := h
      exact ⟨fun h => (hkind h).elim, fun _ => rfl, StoredText.kept_eq_iff.1 htext⟩
    · intro h
      have hcoord : coord = .zero := h.other hkind
      simp [kept, hkind, ofKind, hcoord, StoredText.kept_of_fits h.text]

namespace Condition

theorem hasWarnings_ofFound_iff {type : Int32} {shape : List ParameterKind} {c : Condition} :
    (ofFound type shape c.params).hasWarnings = true ↔ c.Mismatched shape := by
  simp only [ofFound, List.any_eq_true, decide_eq_true_eq, Prod.exists, Mismatched,
    List.mem_iff_getElem?, List.getElem?_zip_eq_some]
  constructor
  · rintro ⟨p, kind, ⟨slot, hp, hkind⟩, hne⟩
    exact ⟨slot, p, kind, hp, hkind, hne⟩
  · rintro ⟨slot, p, kind, hp, hkind, hne⟩
    exact ⟨p, kind, ⟨slot, hp, hkind⟩, hne⟩

theorem Settled.wellFormed {c : Condition} (h : c.Settled registry) : c.WellFormed registry := by
  obtain ⟨t, ht, hshape, hc⟩ := h.filled
  refine ⟨⟨t, ht, hshape, ?_, ?_⟩, ?_, ?_, fun p hp => Parameter.kept_eq_iff.1 (h.kept p hp)⟩
  · rw [hc, length_ofFound_params]
  · have hwarn : (ofFound c.type t.shape c.params).hasWarnings = true ↔ c.Mismatched t.shape :=
      hasWarnings_ofFound_iff
    rwa [← hc] at hwarn
  · rw [hc]
    rfl
  · rw [hc]
    rfl

end Condition

theorem Script.Settled.wellFormed {s : Script} (h : s.Settled registry) :
    s.WellFormed registry where
  name := h.name
  comment := h.comment
  conditions clause hclause c hc := (h.clauses clause hclause c hc).wellFormed

/-- All that is loaded is well formed, from any bytes and for any registry. -/
theorem wellFormed_of_loadScripts {scripts : List Script}
    (h : loadScripts registry bytes = .ok scripts) : ∀ s ∈ scripts, s.WellFormed registry :=
  fun s hs => (settled_of_loadScripts h s hs).wellFormed

namespace Mistyped

/-- A type with a coordinate and a team. -/
def types : Registry := Registry.ofList [⟨4, "AT", [.coord3d, .team]⟩]

/-- A coordinate with stale values, and a number in the slot of the team. -/
def scripts : List Script :=
  [⟨"é→", "", true, true, false, ⟨[⟨[⟨4,
    [{ Parameter.ofCoord ⟨⟨1⟩, ⟨2⟩, ⟨3⟩⟩ with int := 9, text := "x" }, .ofInt .int 5],
    false, 7, 8⟩]⟩]⟩⟩]

def found : List Script :=
  [⟨"é?", "", true, true, false, ⟨[⟨[⟨4,
    [.ofCoord ⟨⟨1⟩, ⟨2⟩, ⟨3⟩⟩, .ofInt .int 5], true, 0, 0⟩]⟩]⟩⟩]

theorem found_wellFormed : loadScripts types (saveScripts types scripts) = .ok found ∧
    ∀ s ∈ found, s.WellFormed types := by
  obtain ⟨labels, body, hopen, hfound⟩ :=
    ofBytes_saveScripts types types (by decide : ∀ s ∈ scripts, s.InBounds)
      (by decide +kernel)
  have hload : loadScripts types (saveScripts types scripts) = .ok found := by
    rw [loadScripts_of_ok hopen, hfound]
    rfl
  exact ⟨hload, wellFormed_of_loadScripts hload⟩

end Mistyped

end TriggerScript
