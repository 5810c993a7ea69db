import TriggerScript.Proofs.Registry.History
import TriggerScript.Proofs.Text.Integer
import TriggerScript.Registry.Search

/-!
# Queries

A query finds a type whenever it is a name in any case or a tag. The look-up stops at a number, and
nothing is lost by that: a number has no letters, so no name differs from it in their case alone.
-/

namespace TriggerScript

namespace TemplateTable

variable {start table : TemplateTable} {t : Template} {ts : List Template}
variable {query name : String}

theorem sameLetters_refl (name : String) : sameLetters name name = true := by simp [sameLetters]

/-- A name that differs from a number in the case of letters alone does not differ from it. -/
theorem eq_of_sameLetters_number {i : Int} (hquery : IntegerText query.toList i)
    (h : sameLetters name query = true) : name = query := by
  rw [sameLetters, decide_eq_true_eq] at h
  exact String.toList_inj.1 (map_toLower_inj hquery.isAlpha h)

/-! ## Queries -/

/-- What a query finds: the type with this very name, or else the one with this tag, or else, of the
types whose names differ from it in the case of letters alone, the one with the least tag. -/
inductive Found (table : TemplateTable) (query : String) : Template → Prop
  | named {t : Template} : t ∈ table.templates → t.name = query → Found table query t
  | tagged {t : Template} : (∀ u ∈ table.templates, u.name ≠ query) → t ∈ table.templates →
      IntegerText query.toList t.id.toInt → Found table query t
  | alike {t : Template} : (∀ u ∈ table.templates, u.name ≠ query) →
      (∀ tag : Int32, ¬ IntegerText query.toList tag.toInt) → t ∈ table.templates →
      sameLetters t.name query = true →
      (∀ u ∈ table.templates, sameLetters u.name query = true → t.id ≤ u.id) → Found table query t

/-- The first of ordered templates that has a property is the one with the least tag. -/
theorem Ordered.find?_eq_some_iff {p : Template → Bool} (h : Ordered ts) :
    ts.find? p = some t ↔ t ∈ ts ∧ p t = true ∧ ∀ u ∈ ts, p u = true → t.id ≤ u.id := by
  induction ts with
  | nil => simp
  | cons v ts ih =>
      obtain ⟨hv, hts⟩ := List.pairwise_cons.1 h
      by_cases hp : p v = true
      · rw [List.find?_cons_of_pos hp, Option.some.injEq]
        constructor
        · rintro rfl
          refine ⟨List.mem_cons_self, hp, List.forall_mem_cons.2 ⟨fun _ => Int32.le_refl _, ?_⟩⟩
          exact fun u hu _ => Int32.le_of_lt (hv u hu)
        · rintro ⟨ht, -, hleast⟩
          obtain rfl | ht := List.mem_cons.1 ht
          · rfl
          · exact (Int32.not_lt.2 (hleast v List.mem_cons_self hp) (hv t ht)).elim
      · rw [List.find?_cons_of_neg hp, ih hts, List.forall_mem_cons, List.mem_cons]
        constructor
        · rintro ⟨ht, hpt, hleast⟩
          exact ⟨.inr ht, hpt, fun hpv => (hp hpv).elim, hleast⟩
        · rintro ⟨rfl | ht, hpt, -, hleast⟩
          · exact (hp hpt).elim
          · exact ⟨ht, hpt, hleast⟩

theorem named?_eq_none_iff :
    table.registry.named? name = none ↔ ∀ t ∈ table.templates, t.name ≠ name := by
  simp [registry, Registry.ofList]

namespace Lawful

variable (h : table.Lawful)

include h

theorem find?_eq_some_iff : table.find? query = some t ↔ table.Found query t := by
  rw [find?]
  cases hnamed : table.registry.named? query with
  | some u =>
      obtain ⟨hu, hname⟩ := h.named?_eq_some_iff.1 hnamed
      rw [Option.some.injEq]
      constructor
      · rintro rfl
        exact .named hu hname
      · intro hfound
        cases hfound with
        | named ht htname => exact h.named u hu t ht (hname.trans htname.symm)
        | tagged hnone => exact (hnone u hu hname).elim
        | alike hnone => exact (hnone u hu hname).elim
  | none =>
      have hnone := named?_eq_none_iff.1 hnamed
      cases hnumber : parseInt32? query with
      | some tag =>
          have htext := parseInt32?_eq_some_iff.1 hnumber
          simp only [h.template?_eq_some_iff]
          constructor
          · rintro ⟨ht, rfl⟩
            exact .tagged hnone ht htext
          · intro hfound
            cases hfound with
            | named ht htname => exact (hnone t ht htname).elim
            | tagged _ ht httext =>
                cases hnumber.symm.trans (parseInt32?_eq_some_iff.2 httext)
                exact ⟨ht, rfl⟩
            | alike _ hno => exact (hno tag htext).elim
      | none =>
          have hno (tag : Int32) : ¬ IntegerText query.toList tag.toInt := fun htext => by
            cases hnumber.symm.trans (parseInt32?_eq_some_iff.2 htext)
          simp only [h.ordered.find?_eq_some_iff]
          constructor
          · rintro ⟨ht, halike, hleast⟩
            exact .alike hnone hno ht halike hleast
          · intro hfound
            cases hfound with
            | named ht htname => exact (hnone t ht htname).elim
            | tagged _ _ htext => exact (hno _ htext).elim
            | alike _ _ ht halike hleast => exact ⟨ht, halike, hleast⟩

/-- Of the templates that a query could mean, one is found. -/
theorem exists_found (ht : t ∈ table.templates)
    (hmeant : sameLetters t.name query = true ∨ IntegerText query.toList t.id.toInt) :
    ∃ u, table.Found query u := by
  cases hnamed : table.registry.named? query with
  | some u =>
      obtain ⟨hu, hname⟩ := h.named?_eq_some_iff.1 hnamed
      exact ⟨u, .named hu hname⟩
  | none =>
      have hnone := named?_eq_none_iff.1 hnamed
      obtain halike | htext := hmeant
      · have hno (tag : Int32) : ¬ IntegerText query.toList tag.toInt := fun htext =>
          hnone t ht (eq_of_sameLetters_number htext halike)
        have hsome : (table.templates.find? fun t => sameLetters t.name query).isSome = true :=
          List.find?_isSome.2 ⟨t, ht, halike⟩
        obtain ⟨u, hu⟩ := Option.isSome_iff_exists.1 hsome
        obtain ⟨hmem, hualike, hleast⟩ := h.ordered.find?_eq_some_iff.1 hu
        exact ⟨u, .alike hnone hno hmem hualike hleast⟩
      · exact ⟨t, .tagged hnone ht htext⟩

theorem find?_eq_none_iff :
    table.find? query = none ↔ ∀ t ∈ table.templates,
      ¬ sameLetters t.name query = true ∧ ¬ IntegerText query.toList t.id.toInt := by
  rw [Option.eq_none_iff_forall_ne_some]
  constructor
  · intro hnone t ht
    rw [← not_or]
    intro hmeant
    obtain ⟨u, hu⟩ := h.exists_found ht hmeant
    exact hnone u (h.find?_eq_some_iff.2 hu)
  · intro hnone u hu
    cases h.find?_eq_some_iff.1 hu with
    | named ht hname => exact (hnone u ht).1 (hname ▸ sameLetters_refl _)
    | tagged _ ht htext => exact (hnone u ht).2 htext
    | alike _ _ ht halike => exact (hnone u ht).1 halike

end Lawful

/-- What a query does in a table: when it finds nothing, what it finds otherwise, that each type is
found by its name, and that no other name is hidden behind a number. -/
structure Resolves (table : TemplateTable) (query : String) : Prop where
  missed : table.find? query = none ↔ ∀ t ∈ table.templates,
    ¬ sameLetters t.name query = true ∧ ¬ IntegerText query.toList t.id.toInt
  found : ∀ t, table.find? query = some t ↔ table.Found query t
  named : ∀ t ∈ table.templates, table.find? t.name = some t
  numbered : ∀ tag : Int32, IntegerText query.toList tag.toInt → ∀ t ∈ table.templates,
    sameLetters t.name query = true → t.name = query

theorem Lawful.resolves (h : table.Lawful) (query : String) : table.Resolves query where
  missed := h.find?_eq_none_iff
  found _ := h.find?_eq_some_iff
  named _ ht := h.find?_eq_some_iff.2 (.named ht rfl)
  numbered _ hnumber _ _ halike := eq_of_sameLetters_number hnumber halike

/-- After every history of the empty or the standard table, a query misses nothing. -/
theorem resolves_after (hstart : start = empty ∨ start = builtin) (history : List Template)
    (query : String) : (start.after history).Resolves query :=
  (lawful_after hstart history).resolves query

/-- A type that is called by the number of another is found by its name, the other by a longer
number. -/
theorem name_found_before_number :
    (builtin.after [⟨100, "2", []⟩]).find? "2" = some ⟨100, "2", []⟩ ∧
      (builtin.after [⟨100, "2", []⟩]).find? "+02" = some ⟨2, "FLAG", [.flag, .boolean]⟩ := by
  have hresolves (query : String) := resolves_after (.inr rfl) [⟨100, "2", []⟩] query
  have hnumber : parseInt32? "+02" = some 2 := by decide
  refine ⟨((hresolves "2").found _).2 (.named (by decide) rfl), ?_⟩
  exact ((hresolves "+02").found _).2 <|
    .tagged (by decide) (by decide) (parseInt32?_eq_some_iff.1 hnumber)

end TemplateTable

end TriggerScript
