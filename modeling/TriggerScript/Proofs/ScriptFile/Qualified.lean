import TriggerScript.Command.Report
import TriggerScript.Proofs.ScriptFile.Resaving

/-!
# Qualified scripts in files

The texts of loaded scripts that are qualified with texts that fit have a byte for each character, but
they can be too long. Such scripts come back with the same view exactly when none of their texts is
too long and none of their types is taken for another.
-/

namespace TriggerScript

variable {table : TemplateTable} {registry : Registry} {q : Qualifier} {names : TypeNames}

/-! ## Storable scripts -/

/-- A parameter that storing can change in one way only, by cutting its text. -/
structure Parameter.Storable (p : Parameter) : Prop where
  kept : p.kept = { p with text := StoredText.kept p.text }
  bytewise : StoredText.Bytewise p.text

structure Condition.Storable (registry : Registry) (c : Condition) : Prop where
  params : ∀ p ∈ c.params, p.Storable
  filled : ∃ t, registry.template? c.type = some t ∧ t.shape.length = c.params.length

structure Script.Storable (registry : Registry) (s : Script) : Prop where
  name : StoredText.Bytewise s.name
  comment : StoredText.fits s.comment = true
  conditions : ∀ c ∈ s.conditions, c.Storable registry

theorem Condition.Storable.known {c : Condition} (h : c.Storable registry) : c.Known registry := by
  obtain ⟨t, ht, -⟩ := h.filled
  exact Option.isSome_iff_exists.2 ⟨t, ht⟩

theorem Script.Storable.inBounds (h : table.Lawful) {s : Script} (hs : s.Storable table.registry) :
    s.InBounds := by
  refine forall_mem_conditions.1 fun c hc => ?_
  obtain ⟨t, ht, hlen⟩ := (hs.conditions c hc).filled
  exact hlen ▸ h.bounded t (h.template?_eq_some_iff.1 ht).1

/-! ## Qualification -/

structure Qualifier.Bytewise (q : Qualifier) : Prop where
  suffix : StoredText.Bytewise q.suffix
  player : StoredText.Bytewise q.player

theorem Qualifier.Bytewise.qualifyText (hq : q.Bytewise) {text : String}
    (htext : StoredText.Bytewise text) (kind : ParameterKind) :
    StoredText.Bytewise (q.qualifyText kind text) := by
  unfold Qualifier.qualifyText
  split
  · split
    · exact hq.player
    · exact htext
  · split
    · exact htext
    · exact htext.append hq.suffix
  all_goals first | exact htext.append hq.suffix | exact htext

theorem Parameter.bytewise_of_kept {p : Parameter} (h : p.kept = p) :
    StoredText.Bytewise p.text := by
  rw [← h]
  unfold kept
  split
  · exact nofun
  · exact StoredText.bytewise_of_fits (StoredText.fits_kept p.text)

theorem Parameter.storable_qualify (hq : q.Bytewise) {p : Parameter} (h : p.kept = p) :
    (p.qualify q).Storable := by
  refine ⟨?_, hq.qualifyText (bytewise_of_kept h) p.kind⟩
  by_cases hkind : p.kind = .coord3d
  · rw [kept, if_pos hkind] at h
    rw [← h]
    simp [kept, qualify, ofCoord, ofKind, Qualifier.qualifyText, StoredText.kept_empty]
  · rw [kept, if_neg hkind] at h
    have hcoord : p.coord = .zero := (congrArg Parameter.coord h).symm
    simp [kept, qualify, hkind, ofKind, hcoord]

theorem Condition.Settled.storable_qualified (hq : q.Bytewise) {c : Condition}
    (h : c.Settled registry) : (c.duplicateQualified q).Storable registry := by
  obtain ⟨t, ht, -, hc⟩ := h.filled
  refine ⟨?_, t, ht, ?_⟩
  · exact List.forall_mem_map.2 fun p hp => Parameter.storable_qualify hq (h.kept p hp)
  · have hlen := length_ofFound_params c.type t.shape c.params
    rw [← hc] at hlen
    exact hlen.symm.trans (List.length_map _).symm

theorem Script.conditions_duplicateQualified (q : Qualifier) (s : Script) :
    (s.duplicateQualified q).conditions = s.conditions.map (Condition.duplicateQualified q) := by
  simp [conditions, duplicateQualified, Trigger.duplicateQualified, Clause.duplicateQualified,
    List.flatMap_map, List.map_flatMap]

theorem Script.Settled.storable_qualified (hq : q.Bytewise) {s : Script} (h : s.Settled registry) :
    (s.duplicateQualified q).Storable registry where
  name := (StoredText.bytewise_of_fits h.name).append hq.suffix
  comment := h.comment
  conditions := by
    rw [conditions_duplicateQualified, List.forall_mem_map]
    intro c hc
    obtain ⟨clause, hclause, hc⟩ := List.mem_flatMap.1 hc
    exact (h.clauses clause hclause c hc).storable_qualified hq

/-! ## What comes back -/

/-- Nothing of the condition is changed in a file: its type is not taken for another, and none of its
texts is too long. -/
structure Condition.KeptBy (table : TemplateTable) (c : Condition) : Prop where
  type : ¬ table.Confuses c.type
  texts : ∀ p ∈ c.params, p.text.length ≤ StoredText.maxLength

structure Script.KeptBy (table : TemplateTable) (s : Script) : Prop where
  name : s.name.length ≤ StoredText.maxLength
  conditions : ∀ c ∈ s.conditions, c.KeptBy table

instance (table : TemplateTable) (c : Condition) : Decidable (c.KeptBy table) :=
  decidable_of_iff (_ ∧ _) ⟨fun h => ⟨h.1, h.2⟩, fun h => ⟨h.type, h.texts⟩⟩

instance (table : TemplateTable) (s : Script) : Decidable (s.KeptBy table) :=
  decidable_of_iff (_ ∧ _) ⟨fun h => ⟨h.1, h.2⟩, fun h => ⟨h.name, h.conditions⟩⟩

theorem Parameter.Storable.kept_of_length {p : Parameter} (h : p.Storable)
    (hlen : p.text.length ≤ StoredText.maxLength) : p.kept = p := by
  rw [h.kept, h.bytewise.kept_eq_iff.2 hlen]

theorem Condition.Storable.params_resaved {c : Condition} (hc : c.Storable registry)
    (htype : (c.resaved registry).type = c.type) :
    (c.resaved registry).params = c.params.map Parameter.kept := by
  obtain ⟨t, ht, hlen⟩ := hc.filled
  have hshape : (registry.shape? (c.resaved registry).type).getD [] = t.shape := by
    rw [htype, Registry.shape?, ht]
    rfl
  have hfound : c.resaved registry =
      ofFound (c.resaved registry).type ((registry.shape? (c.resaved registry).type).getD [])
        (c.params.map Parameter.kept) := rfl
  have htake : (c.params.map Parameter.kept).length = t.shape.length := by
    rw [List.length_map, hlen]
  rw [hfound, hshape]
  simp only [ofFound, List.take_of_length_le (Nat.le_of_eq htake),
    List.drop_of_length_le (Nat.le_of_eq htake.symm), List.map_nil, List.append_nil]

/-! ## Views -/

theorem Parameter.Storable.toJson_kept_iff {p : Parameter} (h : p.Storable) :
    p.kept.toJson = p.toJson ↔ p.text.length ≤ StoredText.maxLength := by
  constructor
  · intro heq
    rw [h.kept] at heq
    simp [toJson] at heq
    exact h.bytewise.kept_eq_iff.1 heq.1
  · intro hlen
    rw [h.kept_of_length hlen]

section Views

variable (h : table.Lawful)

include h

theorem Condition.Storable.toJson_resaved_iff {c : Condition} (hc : c.Storable table.registry) :
    (c.resaved table.registry).toJson names = c.toJson names ↔ c.KeptBy table := by
  have hlengths : (c.params.map Parameter.kept).map Parameter.toJson =
      c.params.map Parameter.toJson ↔ ∀ p ∈ c.params, p.text.length ≤ StoredText.maxLength := by
    rw [List.map_map, List.map_inj_left]
    exact forall₂_congr fun p hp => (hc.params p hp).toJson_kept_iff
  constructor
  · intro heq
    simp only [toJson, Json.object.injEq, List.cons.injEq, Prod.mk.injEq, Json.int.injEq,
      Json.array.injEq, true_and, and_true] at heq
    obtain ⟨htype, -, hparams⟩ := heq
    have htype : (c.resaved table.registry).type = c.type := Int32.toInt_inj.1 htype
    rw [hc.params_resaved htype] at hparams
    exact ⟨h.typeMeant_eq_iff.1 htype, hlengths.1 hparams⟩
  · intro hkept
    have htype : (c.resaved table.registry).type = c.type := h.typeMeant_eq_iff.2 hkept.type
    rw [toJson, toJson, hc.params_resaved htype, hlengths.2 hkept.texts, htype]

theorem Condition.Storable.render_resaved {c : Condition} (hc : c.Storable table.registry)
    (hkept : c.KeptBy table) : (c.resaved table.registry).render names = c.render names := by
  have htype : (c.resaved table.registry).type = c.type := h.typeMeant_eq_iff.2 hkept.type
  have hparams : c.params.map Parameter.kept = c.params :=
    (List.map_congr_left fun p hp => (hc.params p hp).kept_of_length (hkept.texts p hp)).trans
      (List.map_id _)
  rw [render, render, hc.params_resaved htype, hparams, htype]

theorem Clause.toJson_resaved_iff {c : Clause}
    (hc : ∀ condition ∈ c.conditions, condition.Storable table.registry) :
    (c.resaved table.registry).toJson names = c.toJson names ↔
      ∀ condition ∈ c.conditions, condition.KeptBy table := by
  simp only [toJson, resaved, Json.object.injEq, List.cons.injEq, Prod.mk.injEq, Json.array.injEq,
    List.map_map, List.map_inj_left, and_true, true_and]
  exact forall₂_congr fun condition hmem => (hc condition hmem).toJson_resaved_iff h

theorem Clause.render_resaved {c : Clause}
    (hc : ∀ condition ∈ c.conditions, condition.Storable table.registry)
    (hkept : ∀ condition ∈ c.conditions, condition.KeptBy table) :
    (c.resaved table.registry).render names = c.render names := by
  have hparts : (c.conditions.map (Condition.resaved table.registry)).map (Condition.render names) =
      c.conditions.map (Condition.render names) := by
    rw [List.map_map, List.map_inj_left]
    exact fun condition hmem => (hc condition hmem).render_resaved h (hkept condition hmem)
  have hvacuous : (c.resaved table.registry).isVacuous = c.isVacuous := List.isEmpty_map
  rw [render, hvacuous, resaved, hparts, render]

theorem Trigger.render_resaved {s : Script} (hs : s.Storable table.registry)
    (hkept : s.KeptBy table) :
    (s.resaved table.registry).trigger.render names = s.trigger.render names := by
  have hparts : (s.trigger.clauses.map (Clause.resaved table.registry)).map (Clause.render names) =
      s.trigger.clauses.map (Clause.render names) := by
    rw [List.map_map, List.map_inj_left]
    exact fun clause hmem =>
      Clause.render_resaved h (Script.forall_mem_conditions.1 hs.conditions clause hmem)
        (Script.forall_mem_conditions.1 hkept.conditions clause hmem)
  simp only [render, Script.resaved, List.isEmpty_map, hparts]

/-- A storable script has the same view once it has been saved and loaded exactly when nothing of it is
changed in the file. -/
theorem Script.Storable.toJson_resaved_iff {s : Script} (hs : s.Storable table.registry) :
    (s.resaved table.registry).toJson names = s.toJson names ↔ s.KeptBy table := by
  have hclauses : (s.resaved table.registry).trigger.clauses.map (Clause.toJson names) =
      s.trigger.clauses.map (Clause.toJson names) ↔ ∀ c ∈ s.conditions, c.KeptBy table := by
    rw [resaved, List.map_map, List.map_inj_left, forall_mem_conditions]
    exact forall₂_congr fun clause hmem =>
      Clause.toJson_resaved_iff h (forall_mem_conditions.1 hs.conditions clause hmem)
  constructor
  · intro heq
    simp only [toJson, Json.object.injEq, List.cons.injEq, Prod.mk.injEq, Json.string.injEq,
      Json.array.injEq, true_and, and_true] at heq
    obtain ⟨hname, -, -, -, -, -, heq⟩ := heq
    exact ⟨hs.name.kept_eq_iff.1 hname, hclauses.1 heq⟩
  · intro hkept
    rw [toJson, toJson, hclauses.2 hkept.conditions, Trigger.render_resaved h hs hkept]
    simp only [resaved, hs.name.kept_eq_iff.2 hkept.name, StoredText.kept_of_fits hs.comment]

end Views

end TriggerScript
