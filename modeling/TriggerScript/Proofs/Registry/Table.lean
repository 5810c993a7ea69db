import TriggerScript.Proofs.Results
import TriggerScript.Registry.Table

/-!
# The invariant of tables

The templates of a table are in the order of their tags, no two have the same name, and no shape is
too long. Adding a template keeps this. It is refused exactly when the shape is too long or another
tag holds the name. In such a table both look-ups of the registry find what is in the table.
-/

namespace TriggerScript.TemplateTable

variable {table table' : TemplateTable} {t u : Template} {ts : List Template}

/-! ## Placing a template -/

/-- In the order of the tags, without a tag that occurs twice. -/
abbrev Ordered (ts : List Template) : Prop := ts.Pairwise fun t u => t.id < u.id

theorem mem_place_iff (h : Ordered ts) : u ∈ place t ts ↔ u = t ∨ u ∈ ts ∧ u.id ≠ t.id := by
  induction ts with
  | nil => simp [place]
  | cons v ts ih =>
      obtain ⟨hv, hts⟩ := List.pairwise_cons.1 h
      have hlater (hu : u ∈ ts) : u.id ≠ v.id := (Int32.ne_of_lt (hv u hu)).symm
      unfold place
      split
      · rename_i hid
        rw [List.mem_cons, List.mem_cons, ← hid]
        constructor
        · rintro (rfl | hu)
          · exact .inl rfl
          · exact .inr ⟨.inr hu, hlater hu⟩
        · rintro (rfl | ⟨rfl | hu, hne⟩)
          · exact .inl rfl
          · exact (hne rfl).elim
          · exact .inr hu
      · rename_i hid
        split
        · rename_i hlt
          -- all tags of the list are above that of the new template
          have hne (hu : u ∈ v :: ts) : u.id ≠ t.id := by
            obtain rfl | hu := List.mem_cons.1 hu
            · exact hid
            · exact (Int32.ne_of_lt (Int32.lt_trans hlt (hv u hu))).symm
          rw [List.mem_cons]
          exact or_congr_right (iff_self_and.2 hne)
        · rw [List.mem_cons, List.mem_cons, ih hts]
          constructor
          · rintro (rfl | rfl | ⟨hu, hne⟩)
            · exact .inr ⟨.inl rfl, hid⟩
            · exact .inl rfl
            · exact .inr ⟨.inr hu, hne⟩
          · rintro (rfl | ⟨rfl | hu, hne⟩)
            · exact .inr (.inl rfl)
            · exact .inl rfl
            · exact .inr (.inr ⟨hu, hne⟩)

theorem ordered_place (h : Ordered ts) : Ordered (place t ts) := by
  induction ts with
  | nil => simp [place, Ordered]
  | cons v ts ih =>
      obtain ⟨hv, hts⟩ := List.pairwise_cons.1 h
      unfold place
      split
      · rename_i hid
        exact List.pairwise_cons.2 ⟨fun u hu => hid ▸ hv u hu, hts⟩
      · rename_i hid
        split
        · rename_i hlt
          refine List.pairwise_cons.2 ⟨fun u hu => ?_, h⟩
          obtain rfl | hu := List.mem_cons.1 hu
          · exact hlt
          · exact Int32.lt_trans hlt (hv u hu)
        · rename_i hnot
          refine List.pairwise_cons.2 ⟨fun u hu => ?_, ih hts⟩
          obtain rfl | ⟨hu, -⟩ := (mem_place_iff hts).1 hu
          · exact Int32.lt_of_le_of_ne (Int32.not_lt.1 hnot) hid
          · exact hv u hu

/-! ## Adding a template -/

theorem rival?_eq_none_iff :
    table.rival? t = none ↔ ∀ u ∈ table.templates, u.name = t.name → u.id = t.id := by
  simp only [rival?, List.find?_eq_none, Bool.and_eq_true, decide_eq_true_eq, ne_eq, not_and]
  exact forall₂_congr fun u _ => ⟨fun h hn => Decidable.of_not_not fun hid => h hid hn,
    fun h hid hn => hid (h hn)⟩

theorem of_rival?_eq_some (h : table.rival? t = some u) :
    u ∈ table.templates ∧ u.id ≠ t.id ∧ u.name = t.name := by
  have hu := List.find?_some h
  simp only [Bool.and_eq_true, decide_eq_true_eq] at hu
  exact ⟨List.mem_of_find?_eq_some h, hu⟩

theorem insert_eq_ok_iff {old : Option Template} :
    table.insert t = .ok (old, table') ↔
      t.shape.length ≤ maxParameters ∧ (∀ u ∈ table.templates, u.name = t.name → u.id = t.id) ∧
        table.registry.template? t.id = old ∧ ⟨place t table.templates⟩ = table' := by
  rw [← rival?_eq_none_iff, insert]
  by_cases hs : t.shape.length > maxParameters
  · simp [hs, Nat.not_le.2 hs]
  · rw [if_neg hs]
    cases table.rival? t <;> simp [Nat.not_lt.1 hs]

/-- Why a template is refused: its shape, or else a template of another tag with its name. -/
theorem insert_eq_error {e : InsertError} (h : table.insert t = .error e) :
    e = .oversized t.name t.shape.length ∧ t.shape.length > maxParameters ∨
      ∃ u ∈ table.templates, u.id ≠ t.id ∧ u.name = t.name ∧ e = .nameTaken t.name u.id := by
  rw [insert] at h
  split at h
  · rename_i hs
    cases h
    exact .inl ⟨rfl, hs⟩
  · split at h
    · rename_i u hrival
      cases h
      obtain ⟨hu, hid, hname⟩ := of_rival?_eq_some hrival
      exact .inr ⟨u, hu, hid, hname, rfl⟩
    · cases h

/-! ## The invariant -/

structure Lawful (table : TemplateTable) : Prop where
  ordered : Ordered table.templates
  named : ∀ t ∈ table.templates, ∀ u ∈ table.templates, t.name = u.name → t = u
  bounded : ∀ t ∈ table.templates, t.shape.length ≤ maxParameters

theorem lawful_empty : empty.Lawful where
  ordered := List.Pairwise.nil
  named := nofun
  bounded := nofun

theorem lawful_builtin : builtin.Lawful where
  ordered := by decide
  named := by decide
  bounded := by decide

/-- The step: adding a template keeps the invariant. -/
theorem Lawful.insert (h : table.Lawful) {old : Option Template}
    (hi : table.insert t = .ok (old, table')) : table'.Lawful := by
  obtain ⟨hs, hfree, -, rfl⟩ := insert_eq_ok_iff.1 hi
  refine ⟨ordered_place h.ordered, fun u hu v hv huv => ?_, fun u hu => ?_⟩
  · obtain hu | ⟨hu, hut⟩ := (mem_place_iff h.ordered).1 hu <;>
      obtain hv | ⟨hv, hvt⟩ := (mem_place_iff h.ordered).1 hv
    · exact hu.trans hv.symm
    · exact (hvt (hfree v hv (huv.symm.trans (congrArg _ hu)))).elim
    · exact (hut (hfree u hu (huv.trans (congrArg _ hv)))).elim
    · exact h.named u hu v hv huv
  · obtain rfl | ⟨hu, -⟩ := (mem_place_iff h.ordered).1 hu
    · exact hs
    · exact h.bounded u hu

theorem insertAll_cons (table : TemplateTable) (t : Template) (ts : List Template) :
    table.insertAll (t :: ts) = table.insert t >>= fun out => out.2.insertAll ts := by
  rw [insertAll, List.foldlM_cons]
  cases table.insert t <;> rfl

theorem insertAll_cons_eq_ok_iff :
    table.insertAll (t :: ts) = .ok table' ↔
      ∃ old next, table.insert t = .ok (old, next) ∧ next.insertAll ts = .ok table' := by
  rw [insertAll_cons, except_bind_eq_ok_iff, Prod.exists]

theorem insertAll_cons_eq_error_iff {e : InsertError} :
    table.insertAll (t :: ts) = .error e ↔
      table.insert t = .error e ∨
        ∃ old next, table.insert t = .ok (old, next) ∧ next.insertAll ts = .error e := by
  rw [insertAll_cons, except_bind_eq_error_iff, Prod.exists]

/-- The run: a table that is built from a lawful one is lawful. -/
theorem Lawful.insertAll (h : table.Lawful) (hi : table.insertAll ts = .ok table') :
    table'.Lawful := by
  induction ts generalizing table with
  | nil =>
      cases hi
      exact h
  | cons t ts ih =>
      obtain ⟨old, next, hstep, hrest⟩ := insertAll_cons_eq_ok_iff.1 hi
      exact ih (h.insert hstep) hrest

/-! ## The first refusal -/

/-- Of templates that are added one after the other, the one at a place is the first refused. -/
def FirstRefused (table : TemplateTable) (ts : List Template) (index : Nat) (e : InsertError) :
    Prop :=
  ∃ t before, ts[index]? = some t ∧ table.insertAll (ts.take index) = .ok before ∧
    before.insert t = .error e

theorem firstRefused_zero_iff {e : InsertError} :
    table.FirstRefused (t :: ts) 0 e ↔ table.insert t = .error e := by
  constructor
  · rintro ⟨u, before, hu, hbefore, hi⟩
    cases hu
    cases hbefore
    exact hi
  · exact fun hi => ⟨t, table, rfl, rfl, hi⟩

theorem firstRefused_succ_iff {index : Nat} {e : InsertError} :
    table.FirstRefused (t :: ts) (index + 1) e ↔
      ∃ old next, table.insert t = .ok (old, next) ∧ next.FirstRefused ts index e := by
  constructor
  · rintro ⟨u, before, hu, hbefore, hi⟩
    obtain ⟨old, next, hstep, hrest⟩ := insertAll_cons_eq_ok_iff.1 hbefore
    exact ⟨old, next, hstep, u, before, hu, hrest, hi⟩
  · rintro ⟨old, next, hstep, u, before, hu, hrest, hi⟩
    exact ⟨u, before, hu, insertAll_cons_eq_ok_iff.2 ⟨old, next, hstep, hrest⟩, hi⟩

theorem insertAll_eq_error_iff {e : InsertError} :
    table.insertAll ts = .error e ↔ ∃ index, table.FirstRefused ts index e := by
  induction ts generalizing table with
  | nil => exact ⟨nofun, fun ⟨index, t, before, ht, _⟩ => by cases ht⟩
  | cons t ts ih =>
      rw [insertAll_cons_eq_error_iff]
      constructor
      · rintro (h | ⟨old, next, hstep, hrest⟩)
        · exact ⟨0, firstRefused_zero_iff.2 h⟩
        · obtain ⟨index, hindex⟩ := ih.1 hrest
          exact ⟨index + 1, firstRefused_succ_iff.2 ⟨old, next, hstep, hindex⟩⟩
      · rintro ⟨index, h⟩
        cases index with
        | zero => exact .inl (firstRefused_zero_iff.1 h)
        | succ index =>
            obtain ⟨old, next, hstep, hrest⟩ := firstRefused_succ_iff.1 h
            exact .inr ⟨old, next, hstep, ih.2 ⟨index, hrest⟩⟩

/-! ## Look-ups -/

theorem Ordered.eq_of_id (h : Ordered ts) (ht : t ∈ ts) (hu : u ∈ ts) (hid : t.id = u.id) :
    t = u := by
  induction ts with
  | nil => cases ht
  | cons v ts ih =>
      obtain ⟨hv, hts⟩ := List.pairwise_cons.1 h
      obtain rfl | htv := List.mem_cons.1 ht <;> obtain rfl | huv := List.mem_cons.1 hu
      · rfl
      · exact (Int32.ne_of_lt (hv u huv) hid).elim
      · exact (Int32.ne_of_lt (hv t htv) hid.symm).elim
      · exact ih hts htv huv

/-- A search by a key that no two elements share finds the element that has it. -/
theorem find?_eq_some_iff_of_key {α κ : Type} [DecidableEq κ] {key : α → κ} {as : List α}
    (h : ∀ a ∈ as, ∀ b ∈ as, key a = key b → a = b) {k : κ} {a : α} :
    (as.find? fun a => key a = k) = some a ↔ a ∈ as ∧ key a = k := by
  constructor
  · intro hfind
    exact ⟨List.mem_of_find?_eq_some hfind, by simpa using List.find?_some hfind⟩
  · rintro ⟨ha, rfl⟩
    cases hfind : as.find? fun b => key b = key a with
    | none => simpa using List.find?_eq_none.1 hfind a ha
    | some b =>
        have hb : key b = key a := by simpa using List.find?_some hfind
        rw [h b (List.mem_of_find?_eq_some hfind) a ha hb]

namespace Lawful

variable (h : table.Lawful)

include h

theorem template?_eq_some_iff {tag : Int32} :
    table.registry.template? tag = some t ↔ t ∈ table.templates ∧ t.id = tag :=
  find?_eq_some_iff_of_key fun _ ht _ hu => h.ordered.eq_of_id ht hu

theorem named?_eq_some_iff {name : String} :
    table.registry.named? name = some t ↔ t ∈ table.templates ∧ t.name = name :=
  find?_eq_some_iff_of_key h.named

end Lawful

end TriggerScript.TemplateTable
