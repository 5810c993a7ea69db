import TriggerScript.Config.Verify
import TriggerScript.Proofs.Registry.Table

/-!
# Checking agrees with building

A check of a configuration and the building of its table add the same types in the same order. The
check finds nothing exactly when the table can be built, no tag is declared twice and no name is
blank. Where building stops, the check has found something: a clash that it leaves out is one with a
type declared before, whose name it has met.
-/

namespace TriggerScript.Config

variable {c : Config} {p : Progress} {t : Template} {types : List Template} {table : TemplateTable}
variable {old : Option Template} {e : InsertError}

theorem lawful_baseTable (c : Config) : c.baseTable.Lawful := by
  unfold baseTable
  split
  · exact TemplateTable.lawful_builtin
  · exact TemplateTable.lawful_empty

theorem lawful_of_table (h : c.table = .ok table) : table.Lawful := (lawful_baseTable c).insertAll h

namespace Progress

theorem problems_eq_nil_iff :
    p.problems t = [] ↔ isBlank t.name = false ∧ t.id ∉ p.ids ∧ t.name ∉ p.names ∧
      t.shape.length ≤ maxParameters ∧ p.clash t = none := by
  simp [problems]

theorem next_of_ok (h : p.table.insert t = .ok (old, table)) :
    p.next t = ⟨t.id :: p.ids, t.name :: p.names, table⟩ := by
  simp only [next, h]

/-! ## Up to the first refusal -/

/-- As long as nothing has been refused, a template of the table whose tag has been declared has a
name that has been declared. -/
structure Faithful (p : Progress) : Prop where
  lawful : p.table.Lawful
  met : ∀ u ∈ p.table.templates, u.id ∈ p.ids → u.name ∈ p.names

theorem Faithful.next (h : p.Faithful) (hi : p.table.insert t = .ok (old, table)) :
    (p.next t).Faithful := by
  rw [next_of_ok hi]
  refine ⟨h.lawful.insert hi, fun u hu hid => ?_⟩
  obtain ⟨-, -, -, rfl⟩ := TemplateTable.insert_eq_ok_iff.1 hi
  obtain rfl | ⟨hu, hne⟩ := (TemplateTable.mem_place_iff h.lawful.ordered).1 hu
  · exact List.mem_cons_self
  · exact List.mem_cons_of_mem _ (h.met u hu (List.mem_of_ne_of_mem hne hid))

/-- A type that is refused has a problem. -/
theorem Faithful.problems_ne_nil (h : p.Faithful) (hi : p.table.insert t = .error e) :
    p.problems t ≠ [] := by
  intro hnil
  obtain ⟨-, -, hname, hshape, hclash⟩ := problems_eq_nil_iff.1 hnil
  obtain ⟨-, hs⟩ | ⟨u, hu, hne, hun, rfl⟩ := TemplateTable.insert_eq_error hi
  · omega
  · -- the clash is left out because the tag of its holder has been declared
    simp only [clash, hi] at hclash
    split at hclash
    · rename_i hseen
      exact hname (hun ▸ h.met u hu (List.mem_of_ne_of_mem hne hseen))
    · cases hclash

theorem Faithful.problem_of_refused (h : p.Faithful) (start : Nat) {index : Nat}
    (hr : p.table.FirstRefused types index e) :
    ∃ problem, (start + index, problem) ∈ problemsFrom start p types := by
  induction types generalizing p start index with
  | nil =>
      obtain ⟨t, _, ht, -⟩ := hr
      cases ht
  | cons t types ih =>
      cases index with
      | zero =>
          have hne := h.problems_ne_nil (TemplateTable.firstRefused_zero_iff.1 hr)
          obtain ⟨problem, hmem⟩ := List.exists_mem_of_ne_nil _ hne
          exact ⟨problem, List.mem_append_left _ (List.mem_map_of_mem hmem)⟩
      | succ index =>
          obtain ⟨old, next, hstep, hrest⟩ := TemplateTable.firstRefused_succ_iff.1 hr
          have hnext := next_of_ok hstep
          obtain ⟨problem, hmem⟩ := ih (h.next hstep) (start + 1) (by rwa [hnext])
          rw [Nat.add_right_comm, Nat.add_assoc] at hmem
          exact ⟨problem, List.mem_append_right _ hmem⟩

/-! ## Distinct tags -/

/-- As long as no tag has been declared twice either, each name declared is still in the table. -/
structure Distinct (p : Progress) : Prop extends Faithful p where
  held : ∀ name ∈ p.names, ∃ u ∈ p.table.templates, u.id ∈ p.ids ∧ u.name = name

theorem Distinct.next (h : p.Distinct) (hi : p.table.insert t = .ok (old, table))
    (hid : t.id ∉ p.ids) : (p.next t).Distinct := by
  refine ⟨h.toFaithful.next hi, ?_⟩
  rw [next_of_ok hi]
  obtain ⟨-, -, -, rfl⟩ := TemplateTable.insert_eq_ok_iff.1 hi
  have hmem {u : Template} := TemplateTable.mem_place_iff (u := u) (t := t) h.lawful.ordered
  intro name hname
  obtain rfl | hname := List.mem_cons.1 hname
  · exact ⟨t, hmem.2 (.inl rfl), List.mem_cons_self, rfl⟩
  · obtain ⟨u, hu, huid, hun⟩ := h.held name hname
    have hne : u.id ≠ t.id := fun heq => hid (heq ▸ huid)
    exact ⟨u, hmem.2 (.inr ⟨hu, hne⟩), List.mem_cons_of_mem _ huid, hun⟩

/-- The step: a type has no problem when it is added under a new tag and is not blank. -/
theorem Distinct.problems_eq_nil_iff (h : p.Distinct) :
    p.problems t = [] ↔
      isBlank t.name = false ∧ t.id ∉ p.ids ∧ ∃ old table, p.table.insert t = .ok (old, table) := by
  constructor
  · intro hnil
    obtain ⟨hblank, hid, -⟩ := Progress.problems_eq_nil_iff.1 hnil
    refine ⟨hblank, hid, ?_⟩
    cases hi : p.table.insert t with
    | error e => exact (h.problems_ne_nil hi hnil).elim
    | ok out => exact ⟨_, _, rfl⟩
  · rintro ⟨hblank, hid, old, table, hi⟩
    obtain ⟨hshape, hfree, -⟩ := TemplateTable.insert_eq_ok_iff.1 hi
    have hname : t.name ∉ p.names := by
      intro hmem
      obtain ⟨u, hu, huid, hun⟩ := h.held _ hmem
      exact hid (hfree u hu hun ▸ huid)
    exact Progress.problems_eq_nil_iff.2 ⟨hblank, hid, hname, hshape, by simp [clash, hi]⟩

/-- The run: a check of the types that are left finds nothing exactly when all of them can be added,
under new tags that differ from each other, and none is blank. -/
theorem Distinct.problemsFrom_eq_nil_iff (h : p.Distinct) (start : Nat) :
    problemsFrom start p types = [] ↔
      (∃ table, p.table.insertAll types = .ok table) ∧ (types.map (·.id)).Nodup ∧
        ∀ t ∈ types, t.id ∉ p.ids ∧ isBlank t.name = false := by
  induction types generalizing p start with
  | nil => simp [problemsFrom, TemplateTable.insertAll, pure, Except.pure]
  | cons t types ih =>
      rw [problemsFrom, List.append_eq_nil_iff, List.map_eq_nil_iff, h.problems_eq_nil_iff,
        List.map_cons, List.nodup_cons, List.forall_mem_cons]
      constructor
      · rintro ⟨⟨hblank, hid, old, table, hi⟩, hrest⟩
        rw [ih (h.next hi hid), next_of_ok hi] at hrest
        obtain ⟨⟨last, hlast⟩, hnodup, hall⟩ := hrest
        refine ⟨⟨last, TemplateTable.insertAll_cons_eq_ok_iff.2 ⟨old, table, hi, hlast⟩⟩,
          ⟨?_, hnodup⟩, ⟨hid, hblank⟩, ?_⟩
        · intro hmem
          obtain ⟨u, hu, hut⟩ := List.mem_map.1 hmem
          exact (hall u hu).1 (hut ▸ List.mem_cons_self)
        · exact fun u hu => ⟨fun hmem => (hall u hu).1 (List.mem_cons_of_mem _ hmem), (hall u hu).2⟩
      · rintro ⟨⟨last, hlast⟩, ⟨hnew, hnodup⟩, ⟨hid, hblank⟩, hall⟩
        obtain ⟨old, table, hi, hlast⟩ := TemplateTable.insertAll_cons_eq_ok_iff.1 hlast
        refine ⟨⟨hblank, hid, old, table, hi⟩, ?_⟩
        rw [ih (h.next hi hid), next_of_ok hi]
        refine ⟨⟨last, hlast⟩, hnodup, fun u hu => ⟨fun hmem => ?_, (hall u hu).2⟩⟩
        obtain heq | hmem := List.mem_cons.1 hmem
        · exact hnew (heq ▸ List.mem_map_of_mem hu)
        · exact (hall u hu).1 hmem

end Progress

/-! ## Whole configurations -/

theorem distinct_start (c : Config) : Progress.Distinct ⟨[], [], c.baseTable⟩ :=
  ⟨⟨lawful_baseTable c, nofun⟩, nofun⟩

theorem verify_eq_nil_iff :
    c.verify = [] ↔ (∃ table, c.table = .ok table) ∧ (c.conditionTypes.map (·.id)).Nodup ∧
      ∀ t ∈ c.conditionTypes, isBlank t.name = false := by
  rw [verify, (distinct_start c).problemsFrom_eq_nil_iff]
  simp [table]

theorem isBlank_eq_false_iff {s : String} :
    isBlank s = false ↔ ∃ ch ∈ s.toList, blankCodePoints.has ch = false := by
  rw [isBlank, List.all_eq_false]
  simp

/-- A check tells nothing exactly when the table can be built, the declared tags differ and every
name has a character that is not white space. Where a type is the first refused in building, there is
a message for its place. -/
theorem verify_agrees_with_table (c : Config) :
    (c.verify.map problemText = [] ↔
      (∃ table, c.table = .ok table) ∧ (c.conditionTypes.map (·.id)).Nodup ∧
        ∀ t ∈ c.conditionTypes, ∃ ch ∈ t.name.toList, blankCodePoints.has ch = false) ∧
    (∀ e, c.table = .error e ↔ ∃ index, c.baseTable.FirstRefused c.conditionTypes index e) ∧
    ∀ index e, c.baseTable.FirstRefused c.conditionTypes index e →
      ∃ message, s!"condition_types[{index}]: " ++ message ∈ c.verify.map problemText := by
  refine ⟨?_, fun e => TemplateTable.insertAll_eq_error_iff, fun index e h => ?_⟩
  · simp only [List.map_eq_nil_iff, verify_eq_nil_iff, isBlank_eq_false_iff]
  · obtain ⟨problem, hmem⟩ := (distinct_start c).problem_of_refused 0 h
    rw [Nat.zero_add] at hmem
    exact ⟨problem.message, List.mem_map.2 ⟨(index, problem), hmem, rfl⟩⟩

end TriggerScript.Config
