import TriggerScript.Proofs.Config.Verify
import TriggerScript.Proofs.Registry.Overlay

/-!
# Configurations as overlays

A configuration lays its types over the table that it starts from. When all of them are accepted,
a tag stands for the last type that is declared with it, and the order of types with different tags
does not show. Otherwise the first type that offends is told.
-/

namespace TriggerScript.Config

variable {c : Config} {table table' : TemplateTable}

theorem template?_baseTable (c : Config) (tag : Int32) :
    c.baseTable.registry.template? tag =
      if c.settings.includeBuiltinTypes then TemplateTable.builtin.registry.template? tag
      else none := by
  rw [baseTable]
  split <;> rfl

theorem template?_table (h : c.table = .ok table) (tag : Int32) :
    table.registry.template? tag = c.baseTable.overlaid? c.conditionTypes tag :=
  (lawful_baseTable c).template?_insertAll h tag

theorem mem_table_iff (h : c.table = .ok table) {t : Template} :
    t ∈ table.templates ↔ c.baseTable.overlaid? c.conditionTypes t.id = some t := by
  rw [← template?_table h, (lawful_of_table h).template?_eq_some_iff, and_iff_left rfl]

/-- Declared types without a common tag describe one table in whatever order they are accepted. -/
theorem table_eq_of_perm {types : List Template} (hperm : types.Perm c.conditionTypes)
    (hnodup : (c.conditionTypes.map (·.id)).Nodup) (h : c.table = .ok table)
    (h' : { c with conditionTypes := types }.table = .ok table') : table' = table := by
  refine (lawful_of_table h').eq_of_template? (lawful_of_table h) fun tag => ?_
  rw [template?_table h', template?_table h]
  exact TemplateTable.overlaid?_of_perm hperm hnodup tag

/-- When all declared types are accepted, a tag stands for the last of them that has it, or else
for the standard type where those are included, and the table lists them by tag. They are all
accepted exactly when no shape is too long and no other tag has the name of a type in what the types
before it describe; otherwise the first type that offends is told. The order of types that differ in
their tags does not show in the table. -/
theorem table_is_overlay (c : Config) :
    (∀ tag, c.baseTable.registry.template? tag =
      if c.settings.includeBuiltinTypes then TemplateTable.builtin.registry.template? tag
      else none) ∧
    (∀ table, c.table = .ok table →
      (∀ tag, table.registry.template? tag = c.baseTable.overlaid? c.conditionTypes tag) ∧
      (∀ t, t ∈ table.templates ↔ c.baseTable.overlaid? c.conditionTypes t.id = some t) ∧
      table.templates.Pairwise fun t u => t.id < u.id) ∧
    ((∃ table, c.table = .ok table) ↔
      ∀ (i : Nat) t, c.conditionTypes[i]? = some t →
        c.baseTable.Fits (c.conditionTypes.take i) t) ∧
    (∀ e, c.table = .error e ↔ ∃ i, c.baseTable.FirstOffending c.conditionTypes i e) ∧
    ∀ types table table', types.Perm c.conditionTypes → (c.conditionTypes.map (·.id)).Nodup →
      c.table = .ok table → { c with conditionTypes := types }.table = .ok table' →
        table' = table := by
  have hbase := lawful_baseTable c
  refine ⟨template?_baseTable c, fun table h => ?_, hbase.insertAll_eq_ok_iff, fun e => ?_,
    fun types table table' hperm hnodup h h' => table_eq_of_perm hperm hnodup h h'⟩
  · exact ⟨template?_table h, fun t => mem_table_iff h, (lawful_of_table h).ordered⟩
  · rw [table, TemplateTable.insertAll_eq_error_iff]
    exact exists_congr fun i => hbase.firstRefused_iff_firstOffending

/-- A standard type gets another name and a new type the old one. -/
def succession : Config :=
  ⟨[⟨2, "FLAG_SET", [.flag]⟩, ⟨100, "FLAG", [.flag, .boolean]⟩, ⟨101, "ALARM", []⟩], .standard⟩

/-- Another order in which the name is free when it is needed. -/
def successionReordered : Config :=
  ⟨[⟨101, "ALARM", []⟩, ⟨2, "FLAG_SET", [.flag]⟩, ⟨100, "FLAG", [.flag, .boolean]⟩], .standard⟩

theorem succession_in_order :
    successionReordered.conditionTypes.Perm succession.conditionTypes ∧
      (succession.conditionTypes.map (·.id)).Nodup ∧
      ∃ table, succession.table = .ok table ∧ successionReordered.table = .ok table ∧
        table.registry.template? 2 = some ⟨2, "FLAG_SET", [.flag]⟩ := by
  obtain ⟨-, hlook, -, -, horder⟩ := table_is_overlay succession
  have hperm : successionReordered.conditionTypes.Perm succession.conditionTypes := by decide
  have hnodup : (succession.conditionTypes.map (·.id)).Nodup := by decide
  obtain ⟨table, h⟩ : ∃ table, succession.table = .ok table := ⟨_, rfl⟩
  obtain ⟨table', h'⟩ : ∃ table, successionReordered.table = .ok table := ⟨_, rfl⟩
  have hsame : table' = table := horder _ _ _ hperm hnodup h h'
  refine ⟨hperm, hnodup, table, h, hsame ▸ h', ?_⟩
  rw [(hlook table h).1]
  rfl

end TriggerScript.Config
