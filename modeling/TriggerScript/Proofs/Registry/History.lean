import TriggerScript.Proofs.Registry.Table

/-!
# Histories of a table

Templates are offered to a table one after the other. One that is refused leaves the table as it is,
one that is accepted may take the place of another and give back its name. Whatever has been
offered, each tag and each name stand for one template, and both look-ups agree on it.
-/

namespace TriggerScript.TemplateTable

variable {start table next : TemplateTable} {t u v : Template} {old : Option Template}
variable {e : InsertError} {tag : Int32} {name : String} {history : List Template}

/-- The table after a template has been offered to it. -/
def offer (table : TemplateTable) (t : Template) : TemplateTable :=
  match table.insert t with
  | .ok (_, next) => next
  | .error _ => table

/-- The table after all templates of a history, refused ones included. -/
def after (table : TemplateTable) (history : List Template) : TemplateTable :=
  history.foldl offer table

theorem offer_of_ok (h : table.insert t = .ok (old, next)) : table.offer t = next := by
  rw [offer, h]

theorem offer_of_error (h : table.insert t = .error e) : table.offer t = table := by
  rw [offer, h]

namespace Lawful

/-- The step, whether the template is accepted or refused. -/
theorem offer (h : table.Lawful) (t : Template) : (table.offer t).Lawful := by
  cases hi : table.insert t with
  | error e => rwa [offer_of_error hi]
  | ok out =>
      rw [offer_of_ok hi]
      exact h.insert hi

/-- The run: the invariant holds after every history. -/
theorem after (h : table.Lawful) (history : List Template) : (table.after history).Lawful := by
  induction history generalizing table with
  | nil => exact h
  | cons t history ih => exact ih (h.offer t)

variable (h : table.Lawful)

include h

/-! ## Refused templates -/

theorem typeName?_eq_some_iff :
    table.registry.typeName? tag = some name ↔
      ∃ u ∈ table.templates, u.id = tag ∧ u.name = name := by
  rw [Registry.typeName?, Option.map_eq_some_iff]
  simp only [h.template?_eq_some_iff, and_assoc]

theorem rival?_eq_some_iff :
    table.rival? t = some u ↔ u ∈ table.templates ∧ u.id ≠ t.id ∧ u.name = t.name := by
  refine ⟨of_rival?_eq_some, fun ⟨hu, hid, hname⟩ => ?_⟩
  cases hr : table.rival? t with
  | none => exact (hid (rival?_eq_none_iff.1 hr u hu hname)).elim
  | some v =>
      -- the one that is found has the name as well
      obtain ⟨hv, -, hvname⟩ := of_rival?_eq_some hr
      rw [h.named v hv u hu (hvname.trans hname.symm)]

/-- A template is refused for its shape, or else for its name. -/
theorem insert_eq_error_iff :
    table.insert t = .error e ↔
      12 < t.shape.length ∧ e = .oversized t.name t.shape.length ∨
      t.shape.length ≤ 12 ∧ ∃ tag, tag ≠ t.id ∧ table.registry.typeName? tag = some t.name ∧
        e = .nameTaken t.name tag := by
  rw [TemplateTable.insert]
  by_cases hs : t.shape.length > maxParameters
  · have hle : ¬ t.shape.length ≤ 12 := Nat.not_le.2 hs
    rw [if_pos hs, Except.error.injEq]
    simp only [show 12 < t.shape.length from hs, hle, true_and, false_and, or_false]
    exact eq_comm
  · have hle : t.shape.length ≤ 12 := Nat.not_lt.1 hs
    rw [if_neg hs]
    simp only [hle, Nat.not_lt.2 hle, true_and, false_and, false_or]
    constructor
    · intro he
      split at he
      · rename_i u hr
        cases he
        obtain ⟨hu, hid, hname⟩ := h.rival?_eq_some_iff.1 hr
        exact ⟨u.id, hid, h.typeName?_eq_some_iff.2 ⟨u, hu, rfl, hname⟩, rfl⟩
      · cases he
    · rintro ⟨tag, hid, hheld, rfl⟩
      obtain ⟨u, hu, rfl, hname⟩ := h.typeName?_eq_some_iff.1 hheld
      rw [h.rival?_eq_some_iff.2 ⟨hu, hid, hname⟩]

/-! ## Accepted templates -/

theorem mem_insert_iff (hi : table.insert t = .ok (old, next)) :
    u ∈ next.templates ↔ u = t ∨ u ∈ table.templates ∧ u.id ≠ t.id := by
  obtain ⟨-, -, -, rfl⟩ := insert_eq_ok_iff.1 hi
  exact mem_place_iff h.ordered

theorem template?_insert (hi : table.insert t = .ok (old, next)) (tag : Int32) :
    next.registry.template? tag = if tag = t.id then some t else table.registry.template? tag := by
  ext u
  rw [(h.insert hi).template?_eq_some_iff, h.mem_insert_iff hi]
  split
  · rename_i htag
    subst htag
    constructor
    · rintro ⟨rfl | ⟨-, hne⟩, hid⟩
      · rfl
      · exact (hne hid).elim
    · rintro ⟨⟩
      exact ⟨.inl rfl, rfl⟩
  · rename_i htag
    rw [h.template?_eq_some_iff]
    constructor
    · rintro ⟨rfl | ⟨hu, -⟩, rfl⟩
      · exact (htag rfl).elim
      · exact ⟨hu, rfl⟩
    · rintro ⟨hu, rfl⟩
      exact ⟨.inr ⟨hu, htag⟩, rfl⟩

/-- The name of the template that is replaced is free, unless the new one has it too. -/
theorem named?_replaced (hi : table.insert t = .ok (some u, next)) :
    next.registry.named? u.name = if u.name = t.name then some t else none := by
  obtain ⟨-, -, hu, -⟩ := insert_eq_ok_iff.1 hi
  obtain ⟨hu, hid⟩ := h.template?_eq_some_iff.1 hu
  split
  · rename_i hkept
    exact (h.insert hi).named?_eq_some_iff.2 ⟨(h.mem_insert_iff hi).2 (.inl rfl), hkept.symm⟩
  · rename_i hfree
    rw [Option.eq_none_iff_forall_ne_some]
    intro v hv
    obtain ⟨hv, hname⟩ := (h.insert hi).named?_eq_some_iff.1 hv
    obtain rfl | ⟨hv, hne⟩ := (h.mem_insert_iff hi).1 hv
    · exact hfree hname.symm
    · -- before, only the replaced template had the name, and its tag is that of the new one
      exact hne (h.named v hv u hu hname ▸ hid)

end Lawful

/-! ## What a table holds after a history -/

theorem Lawful.mem_offer (h : table.Lawful) (hu : u ∈ (table.offer t).templates) :
    u = t ∨ u ∈ table.templates := by
  cases hi : table.insert t with
  | error e =>
      rw [offer_of_error hi] at hu
      exact .inr hu
  | ok out =>
      rw [offer_of_ok hi, h.mem_insert_iff hi] at hu
      exact hu.imp_right And.left

theorem Lawful.mem_after (h : table.Lawful) (hu : u ∈ (table.after history).templates) :
    u ∈ history ∨ u ∈ table.templates := by
  induction history generalizing table with
  | nil => exact .inr hu
  | cons t history ih =>
      obtain hu | hu := ih (h.offer t) hu
      · exact .inl (List.mem_cons_of_mem _ hu)
      · obtain rfl | hu := h.mem_offer hu
        · exact .inl List.mem_cons_self
        · exact .inr hu

/-- A tag that stands for another name does not come to stand for one that is not offered. -/
theorem Lawful.exists_after_of_name_ne (h : table.Lawful) (hv : v ∈ table.templates)
    (hname : v.name ≠ name) (hothers : ∀ t ∈ history, t.name ≠ name) :
    ∃ w ∈ (table.after history).templates, w.id = v.id ∧ w.name ≠ name := by
  induction history generalizing table v with
  | nil => exact ⟨v, hv, rfl, hname⟩
  | cons t history ih =>
      obtain ⟨ht, hothers⟩ := List.forall_mem_cons.1 hothers
      have hkeep (hv : v ∈ (table.offer t).templates) := ih (h.offer t) hv hname hothers
      cases hi : table.insert t with
      | error e => exact hkeep (by rwa [offer_of_error hi])
      | ok out =>
          have hmem {w : Template} := h.mem_insert_iff hi (u := w)
          rw [← offer_of_ok hi] at hmem
          by_cases hid : v.id = t.id
          · -- the tag goes over to a template that does not have the name either
            rw [hid]
            exact ih (h.offer t) (hmem.2 (.inl rfl)) ht hothers
          · exact hkeep (hmem.2 (.inr ⟨hv, hid⟩))

/-! ## The state of a table and its next step -/

/-- Each template is under its own tag, tags increase, names differ, shapes are short, and the
look-up by name finds what the look-up by tag knows under that name. -/
structure Indexed (table : TemplateTable) : Prop where
  stored : ∀ tag t, table.registry.template? tag = some t ↔ t ∈ table.templates ∧ t.id = tag
  ordered : table.templates.Pairwise fun t u => t.id < u.id
  distinct : (table.templates.map (·.name)).Nodup
  bounded : ∀ t ∈ table.templates, t.shape.length ≤ 12
  found : ∀ name t, table.registry.named? name = some t ↔
    table.registry.template? t.id = some t ∧ t.name = name

theorem Lawful.indexed (h : table.Lawful) : table.Indexed where
  stored _ _ := h.template?_eq_some_iff
  ordered := h.ordered
  distinct :=
    List.pairwise_map.2 <| h.ordered.imp_of_mem fun ht hu hlt hname =>
      Int32.ne_of_lt hlt (congrArg Template.id (h.named _ ht _ hu hname))
  bounded := h.bounded
  found name t := by
    rw [h.named?_eq_some_iff, h.template?_eq_some_iff]
    simp only [and_true]

/-- What is answered to a template that is offered, and what becomes of the table. -/
structure Answered (table : TemplateTable) (t : Template) : Prop where
  refused : ∀ e, table.insert t = .error e ↔
    12 < t.shape.length ∧ e = .oversized t.name t.shape.length ∨
    t.shape.length ≤ 12 ∧ ∃ tag, tag ≠ t.id ∧ table.registry.typeName? tag = some t.name ∧
      e = .nameTaken t.name tag
  unchanged : ∀ e, table.insert t = .error e → table.offer t = table
  accepted : ∀ old next, table.insert t = .ok (old, next) →
    table.offer t = next ∧ old = table.registry.template? t.id ∧
    ∀ tag, next.registry.template? tag = if tag = t.id then some t else table.registry.template? tag
  freed : ∀ u next, table.insert t = .ok (some u, next) →
    next.registry.named? u.name = if u.name = t.name then some t else none

theorem Lawful.answered (h : table.Lawful) (t : Template) : table.Answered t where
  refused _ := h.insert_eq_error_iff
  unchanged _ := offer_of_error
  accepted _ _ hi := ⟨offer_of_ok hi, (insert_eq_ok_iff.1 hi).2.2.1.symm, h.template?_insert hi⟩
  freed _ _ := h.named?_replaced

theorem lawful_after (hstart : start = empty ∨ start = builtin) (history : List Template) :
    (start.after history).Lawful := by
  obtain rfl | rfl := hstart
  · exact lawful_empty.after history
  · exact lawful_builtin.after history

/-- After every history of the empty or the standard table, and for whatever is offered next. -/
theorem indexed_after (hstart : start = empty ∨ start = builtin) (history : List Template) :
    (start.after history).Indexed ∧ ∀ t, (start.after history).Answered t := by
  have h := lawful_after hstart history
  exact ⟨h.indexed, h.answered⟩

/-- A type is renamed, its old name goes to a new type, and a third is refused. -/
def handover : List Template :=
  [⟨2, "FLAG_SET", [.flag]⟩, ⟨100, "FLAG", [.flag, .boolean]⟩, ⟨101, "COUNTER", []⟩]

theorem flag_handed_over :
    (builtin.after handover).registry.named? "FLAG" = some ⟨100, "FLAG", [.flag, .boolean]⟩ ∧
      (builtin.after handover).insert ⟨101, "COUNTER", []⟩ = .error (.nameTaken "COUNTER" 1) ∧
      (builtin.after handover).offer ⟨101, "COUNTER", []⟩ = builtin.after handover := by
  obtain ⟨hindexed, hanswered⟩ := indexed_after (.inr rfl) handover
  have hrefused : (builtin.after handover).insert ⟨101, "COUNTER", []⟩ =
      .error (.nameTaken "COUNTER" 1) :=
    ((hanswered _).refused _).2 (.inr ⟨by decide, 1, by decide, by decide, rfl⟩)
  exact ⟨(hindexed.found _ _).2 ⟨by decide, rfl⟩, hrefused, (hanswered _).unchanged _ hrefused⟩

end TriggerScript.TemplateTable
