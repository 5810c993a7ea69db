import TriggerScript.Config.Decode
import TriggerScript.Proofs.Config.Verify
import TriggerScript.Proofs.ScriptFile.Stability

/-!
# Types that come back

A condition is saved with the name of its type and gets the type of the stored name back. Names are
unique in a table, but storing can change a name into that of another type. Conditions of a type come
back with another type exactly when this happens, and it cannot happen to a name that is stored as it
is. All else that comes back of a condition is determined as well.
-/

namespace TriggerScript

variable {table : TemplateTable} {registry : Registry} {tag : Int32}

/-! ## Stored names -/

namespace TemplateTable

/-- Another type has the name that is stored for a type. -/
def Confuses (table : TemplateTable) (tag : Int32) : Prop :=
  ∃ u ∈ table.templates, u.id ≠ tag ∧ u.name = StoredText.kept (table.registry.savedName tag)

instance (table : TemplateTable) (tag : Int32) : Decidable (table.Confuses tag) :=
  inferInstanceAs (Decidable (∃ u ∈ table.templates, _ ∧ _))

theorem savedName_of_template? {t : Template} (h : registry.template? tag = some t) :
    registry.savedName tag = t.name := by
  rw [Registry.savedName, Registry.typeName?, h]
  rfl

theorem Lawful.not_confuses_of_fits (h : table.Lawful) {t : Template} (ht : t ∈ table.templates)
    (hfits : StoredText.fits t.name = true) : ¬ table.Confuses t.id := by
  rintro ⟨u, hu, hne, hname⟩
  rw [savedName_of_template? (h.template?_eq_some_iff.2 ⟨ht, rfl⟩), StoredText.kept_of_fits hfits]
    at hname
  exact hne (congrArg Template.id (h.named u hu t ht hname))

/-- The type that is meant by a stored name is the type that was saved, unless the name is that of
another type. -/
theorem Lawful.typeMeant_eq_iff (h : table.Lawful) :
    Condition.typeMeant table.registry tag (StoredText.kept (table.registry.savedName tag)) = tag ↔
      ¬ table.Confuses tag := by
  unfold Condition.typeMeant Confuses
  generalize StoredText.kept (table.registry.savedName tag) = name
  split
  · rename_i hname
    obtain ⟨t, ht, htname⟩ := Option.map_eq_some_iff.1 hname
    obtain ⟨ht, htid⟩ := h.template?_eq_some_iff.1 ht
    refine iff_of_true rfl ?_
    rintro ⟨u, hu, hne, huname⟩
    exact hne ((congrArg Template.id (h.named u hu t ht (huname.trans htname.symm))).trans htid)
  · rename_i hname
    cases hfound : table.registry.named? name with
    | none =>
        refine iff_of_true rfl ?_
        rintro ⟨u, hu, -, huname⟩
        exact Option.some_ne_none _ ((h.named?_eq_some_iff.2 ⟨hu, huname⟩).symm.trans hfound)
    | some u =>
        obtain ⟨hu, huname⟩ := h.named?_eq_some_iff.1 hfound
        have hne : u.id ≠ tag := by
          rintro rfl
          apply hname
          rw [Registry.typeName?, h.template?_eq_some_iff.2 ⟨hu, rfl⟩, Option.map_some, huname]
        exact iff_of_false hne fun hfree => hfree ⟨u, hu, hne, huname⟩

theorem Lawful.template?_typeMeant (h : table.Lawful) {t : Template}
    (ht : table.registry.template? tag = some t) (name : String) :
    ∃ u ∈ table.templates,
      table.registry.template? (Condition.typeMeant table.registry tag name) = some u := by
  have htable := (h.template?_eq_some_iff.1 ht).1
  unfold Condition.typeMeant
  split
  · exact ⟨t, htable, ht⟩
  · cases hfound : table.registry.named? name with
    | none => exact ⟨t, htable, ht⟩
    | some u =>
        have hu := (h.named?_eq_some_iff.1 hfound).1
        exact ⟨u, hu, h.template?_eq_some_iff.2 ⟨hu, rfl⟩⟩

end TemplateTable

/-! ## Known types -/

def Script.conditions (s : Script) : List Condition := s.trigger.clauses.flatMap (·.conditions)

theorem Script.forall_mem_conditions {s : Script} {P : Condition → Prop} :
    (∀ c ∈ s.conditions, P c) ↔ ∀ clause ∈ s.trigger.clauses, ∀ c ∈ clause.conditions, P c :=
  List.forall_mem_flatMap

def Condition.Known (registry : Registry) (c : Condition) : Prop :=
  (registry.template? c.type).isSome = true

instance (registry : Registry) (c : Condition) : Decidable (c.Known registry) :=
  inferInstanceAs (Decidable (_ = true))

/-- The condition that comes back when it is saved and loaded with a registry that knows its type. -/
def Condition.resaved (registry : Registry) (c : Condition) : Condition :=
  let type := typeMeant registry c.type (StoredText.kept (registry.savedName c.type))
  ofFound type ((registry.shape? type).getD []) (c.params.map Parameter.kept)

def Clause.resaved (registry : Registry) (c : Clause) : Clause :=
  ⟨c.conditions.map (Condition.resaved registry)⟩

def Script.resaved (registry : Registry) (s : Script) : Script :=
  { s with
    name := StoredText.kept s.name
    comment := StoredText.kept s.comment
    trigger := ⟨s.trigger.clauses.map (Clause.resaved registry)⟩ }

section Resaved

variable (h : table.Lawful)

include h

theorem Condition.reloaded_of_known {c : Condition} (hc : c.Known table.registry) :
    c.reloaded table.registry table.registry = .ok (c.resaved table.registry) := by
  obtain ⟨t, ht⟩ := Option.isSome_iff_exists.1 hc
  obtain ⟨u, hu, hmeant⟩ :=
    h.template?_typeMeant ht (StoredText.kept (table.registry.savedName c.type))
  simp only [reloaded, resaved, Registry.shape?, hmeant, if_neg (Nat.not_lt.2 (h.bounded u hu)),
    Option.map_some, Option.getD_some]

theorem Clause.reloaded_of_known {c : Clause}
    (hc : ∀ condition ∈ c.conditions, condition.Known table.registry) :
    c.reloaded table.registry table.registry = .ok (c.resaved table.registry) := by
  rw [reloaded, mapM_of_forall fun condition hmem => Condition.reloaded_of_known h (hc _ hmem)]
  rfl

theorem Script.reloaded_of_known {s : Script}
    (hs : ∀ condition ∈ s.conditions, condition.Known table.registry) :
    s.reloaded table.registry table.registry = .ok (s.resaved table.registry) := by
  have hclauses := forall_mem_conditions.1 hs
  rw [reloaded, mapM_of_forall fun clause hmem => Clause.reloaded_of_known h (hclauses clause hmem)]
  rfl

theorem loadScripts_resaved {scripts : List Script}
    (hknown : ∀ s ∈ scripts, ∀ c ∈ s.conditions, c.Known table.registry)
    (hp : ∀ s ∈ scripts, s.InBounds) (hs : ∀ s ∈ scripts, s.bodySize table.registry ≤ maxSize) :
    loadScripts table.registry (saveScripts table.registry scripts) =
      .ok (scripts.map (Script.resaved table.registry)) := by
  obtain ⟨labels, body, hopen, hfound⟩ := ofBytes_saveScripts table.registry table.registry hp hs
  rw [loadScripts_of_ok hopen, hfound,
    mapM_of_forall fun s hmem => Script.reloaded_of_known h (hknown s hmem)]

end Resaved

/-! ## Types -/

/-- The types of the conditions, clause by clause. -/
def Script.types (s : Script) : List (List Int32) :=
  s.trigger.clauses.map fun c => c.conditions.map (·.type)

theorem TemplateTable.Lawful.types_resaved_eq_iff (h : table.Lawful) {s : Script} :
    (s.resaved table.registry).types = s.types ↔
      ∀ c ∈ s.conditions, ¬ table.Confuses c.type := by
  simp only [Script.types, Script.resaved, Clause.resaved, Script.forall_mem_conditions,
    List.map_map, List.map_inj_left, Function.comp_apply]
  exact forall₂_congr fun clause _ => forall₂_congr fun c _ => h.typeMeant_eq_iff

/-- For a configuration in which a check finds nothing, scripts of known types can be saved and
loaded. Their conditions come back with their types exactly when none of these types has a stored
name that is the name of another type. Types whose names are stored as they are always come back. -/
theorem types_loaded_iff (c : Config) (hverify : c.verify = []) :
    ∃ table, c.table = .ok table ∧
      (∀ t ∈ table.templates, StoredText.fits t.name = true → ¬ table.Confuses t.id) ∧
      ∀ scripts : List Script,
        (∀ s ∈ scripts, ∀ condition ∈ s.conditions, condition.Known table.registry) →
        (∀ s ∈ scripts, s.InBounds) →
        (∀ s ∈ scripts, s.bodySize table.registry ≤ 2147483647) →
        ∃ loaded,
          loadScripts table.registry (saveScripts table.registry scripts) = .ok loaded ∧
          (loaded.map Script.types = scripts.map Script.types ↔
            ∀ s ∈ scripts, ∀ condition ∈ s.conditions, ¬ table.Confuses condition.type) := by
  obtain ⟨table, htable⟩ := (Config.verify_eq_nil_iff.1 hverify).1
  have h := Config.lawful_of_table htable
  refine ⟨table, htable, fun t => h.not_confuses_of_fits, fun scripts hknown hp hs => ?_⟩
  refine ⟨_, loadScripts_resaved h hknown hp hs, ?_⟩
  rw [List.map_map, List.map_inj_left]
  exact forall₂_congr fun s _ => h.types_resaved_eq_iff

end TriggerScript

namespace TriggerScript.Confusable

def accented : Config := ⟨[⟨100, "é", []⟩], .standard⟩

/-- A type whose name is stored as that of another. -/
def starred : Config := ⟨[⟨100, "?", []⟩, ⟨101, "★", []⟩], .standard⟩

def starredTable : TemplateTable :=
  ⟨TemplateTable.builtin.templates ++ [⟨100, "?", []⟩, ⟨101, "★", []⟩]⟩

def starredText : String :=
  "\x7bcondition_types: [\x7bid: 100, name: '?'\x7d, \x7bid: 101, name: '★'\x7d]\x7d"

def scriptsOf (type : Int32) : List Script :=
  [⟨"A", "", true, true, false, ⟨[⟨[⟨type, [], false, 0, 0⟩]⟩]⟩⟩]

theorem accented_loaded :
    ∃ table loaded, accented.table = .ok table ∧
      loadScripts table.registry (saveScripts table.registry (scriptsOf 100)) = .ok loaded ∧
      loaded.map Script.types = [[[100]]] := by
  obtain ⟨table, htable, hfits, hloaded⟩ := types_loaded_iff accented (by decide +kernel)
  cases htable.symm.trans (rfl : accented.table = .ok _)
  obtain ⟨loaded, hload, htypes⟩ :=
    hloaded (scriptsOf 100) (by decide +kernel) (by decide) (by decide +kernel)
  exact ⟨_, loaded, htable, hload, htypes.2 (by decide +kernel)⟩

theorem parse_starredText : Config.parse starredText = .ok starred := by
  have h : (Config.parse starredText).toOption = some starred := by decide +kernel
  cases hparse : Config.parse starredText with
  | error e =>
      rw [hparse] at h
      cases h
  | ok c =>
      rw [hparse] at h
      cases h
      rfl

/-- A check that finds nothing does not keep types apart in files. -/
theorem not_types_loaded :
    ¬ ∀ (text : String) (c : Config) (table : TemplateTable) (scripts : List Script),
        Config.parse text = .ok c → c.verify = [] → c.table = .ok table →
        (∀ s ∈ scripts, ∀ condition ∈ s.conditions, condition.Known table.registry) →
        (∀ s ∈ scripts, s.InBounds) →
        (∀ s ∈ scripts, s.bodySize table.registry ≤ 2147483647) →
        ∃ loaded,
          loadScripts table.registry (saveScripts table.registry scripts) = .ok loaded ∧
          loaded.map Script.types = scripts.map Script.types := by
  intro hall
  have htable : starred.table = .ok starredTable := rfl
  have h := Config.lawful_of_table htable
  have hknown : ∀ s ∈ scriptsOf 101, ∀ condition ∈ s.conditions,
      condition.Known starredTable.registry := by
    decide +kernel
  have hp : ∀ s ∈ scriptsOf 101, s.InBounds := by decide
  have hs : ∀ s ∈ scriptsOf 101, s.bodySize starredTable.registry ≤ 2147483647 := by
    decide +kernel
  obtain ⟨loaded, hload, htypes⟩ :=
    hall starredText starred starredTable (scriptsOf 101) parse_starredText (by decide +kernel)
      htable hknown hp hs
  cases hload.symm.trans (loadScripts_resaved h hknown hp hs)
  revert htypes
  decide +kernel

end TriggerScript.Confusable
