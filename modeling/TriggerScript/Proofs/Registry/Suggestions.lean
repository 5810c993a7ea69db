import Mathlib.Data.List.Sort
import Mathlib.Data.Prod.Lex
import Mathlib.Data.String.Basic
import TriggerScript.Proofs.Registry.History
import TriggerScript.Proofs.Text.EditDistance
import TriggerScript.Registry.Search

/-!
# Suggestions

Distance and name together order the names of a table, with no two at the same place. The
suggestions are the part of this ranking that is within reach. As what is farther away comes later,
it is a first part, and a longer reach continues a shorter one. Tags and the order of entry do not
occur in it.
-/

namespace TriggerScript.TemplateTable

variable {start table table' : TemplateTable} {query name : String} {reach further : Nat}
variable {a b : Nat × String} {as bs : List (Nat × String)}

/-! ## The order of the ranking -/

/-- Nearer names come first, names at the same distance by their characters. -/
abbrev Ranked (as : List (Nat × String)) : Prop := as.Pairwise fun a b => toLex a ≤ toLex b

theorem precedes_iff : precedes a b = true ↔ toLex a ≤ toLex b := by
  rw [Prod.Lex.toLex_le_toLex, precedes, Bool.or_eq_true, Bool.and_eq_true, Bool.not_eq_true',
    decide_eq_true_eq, decide_eq_true_eq, decide_eq_false_iff_not, not_lt]

theorem ranked_mergeSort (as : List (Nat × String)) : Ranked (as.mergeSort precedes) := by
  have htrans (a b c : Nat × String) (hab : precedes a b = true) (hbc : precedes b c = true) :
      precedes a c = true :=
    precedes_iff.2 (le_trans (precedes_iff.1 hab) (precedes_iff.1 hbc))
  have htotal (a b : Nat × String) : (precedes a b || precedes b a) = true := by
    rw [Bool.or_eq_true, precedes_iff, precedes_iff]
    exact le_total _ _
  exact (List.pairwise_mergeSort htrans htotal as).imp precedes_iff.1

theorem Ranked.eq_of_perm (has : Ranked as) (hbs : Ranked bs) (h : as.Perm bs) : as = bs :=
  h.eq_of_pairwise (fun _ _ _ _ hab hba => toLex_inj.1 (le_antisymm hab hba)) has hbs

/-- In a ranking, what is within reach comes before all that is not. -/
theorem Ranked.prefix_filter (h : Ranked as) (hreach : reach ≤ further) :
    as.filter (·.1 ≤ reach) <+: as.filter (·.1 ≤ further) := by
  induction as with
  | nil => exact List.nil_prefix
  | cons a as ih =>
      obtain ⟨ha, has⟩ := List.pairwise_cons.1 h
      by_cases hnear : a.1 ≤ reach
      · have hfar : a.1 ≤ further := hnear.trans hreach
        rw [List.filter_cons_of_pos (by simpa using hnear),
          List.filter_cons_of_pos (by simpa using hfar), List.prefix_cons_inj]
        exact ih has
      · -- nothing that comes later is nearer
        have hnone : (a :: as).filter (·.1 ≤ reach) = [] := by
          rw [List.filter_eq_nil_iff, List.forall_mem_cons]
          refine ⟨by simpa using hnear, fun b hb hb' => hnear ?_⟩
          have hle : a.1 ≤ b.1 := Prod.Lex.monotone_fst _ _ (ha b hb)
          exact hle.trans (of_decide_eq_true hb')
        rw [hnone]
        exact List.nil_prefix

/-! ## The ranking of a table -/

def names (table : TemplateTable) : List String := table.templates.map (·.name)

/-- All names of a table with their distances, the nearest first. -/
def ranking (table : TemplateTable) (query : String) : List (Nat × String) :=
  (table.names.map fun name => (distance query name, name)).mergeSort precedes

theorem mem_ranking_iff :
    a ∈ table.ranking query ↔ a.2 ∈ table.names ∧ distance query a.2 = a.1 := by
  obtain ⟨n, name⟩ := a
  simp only [ranking, List.mem_mergeSort, List.mem_map, Prod.mk.injEq]
  constructor
  · rintro ⟨name, hname, rfl, rfl⟩
    exact ⟨hname, rfl⟩
  · rintro ⟨hname, rfl⟩
    exact ⟨name, hname, rfl, rfl⟩

theorem suggest_eq (table : TemplateTable) (query : String) (reach : Nat) :
    table.suggest query reach = ((table.ranking query).filter (·.1 ≤ reach)).map (·.2) := by
  have hnames : (table.templates.map fun t => (distance query t.name, t.name)) =
      table.names.map fun name => (distance query name, name) := by
    rw [names, List.map_map]
    rfl
  rw [suggest, hnames, ranking]
  congr 1
  -- to sort what is within reach is to keep it of what is sorted
  refine (ranked_mergeSort _).eq_of_perm ((ranked_mergeSort _).filter _) ?_
  exact (List.mergeSort_perm _ _).trans ((List.mergeSort_perm _ _).filter _).symm

theorem mem_suggest_iff :
    name ∈ table.suggest query reach ↔ name ∈ table.names ∧ distance query name ≤ reach := by
  simp only [suggest_eq, List.mem_map, List.mem_filter, mem_ranking_iff, decide_eq_true_eq,
    Prod.exists]
  constructor
  · rintro ⟨_, name, ⟨⟨hname, rfl⟩, hreach⟩, rfl⟩
    exact ⟨hname, hreach⟩
  · rintro ⟨hname, hreach⟩
    exact ⟨_, name, ⟨⟨hname, rfl⟩, hreach⟩, rfl⟩

theorem prefix_suggest (table : TemplateTable) (query : String) (hreach : reach ≤ further) :
    table.suggest query reach <+: table.suggest query further := by
  rw [suggest_eq, suggest_eq]
  exact ((ranked_mergeSort _).prefix_filter hreach).map (·.2)

namespace Lawful

variable (h : table.Lawful)

include h

theorem nodup_names : table.names.Nodup := h.indexed.distinct

/-- No two names are at the same place of the ranking. -/
theorem ranking_pairwise (query : String) :
    (table.ranking query).Pairwise fun a b => toLex a < toLex b := by
  have hpairs : (table.names.map fun name => (distance query name, name)).Nodup := by
    apply List.Nodup.of_map (·.2)
    rw [List.map_map]
    simpa [Function.comp_def] using h.nodup_names
  have hnodup : (table.ranking query).Nodup := (List.mergeSort_perm _ _).nodup_iff.2 hpairs
  refine (ranked_mergeSort _).imp₂ (fun _ _ hle hne => ?_) hnodup
  exact lt_of_le_of_ne hle (by simpa using hne)

/-- The nearest first, and names at the same distance by their characters. -/
theorem suggest_pairwise (query : String) (reach : Nat) :
    (table.suggest query reach).Pairwise fun name name' =>
      distance query name < distance query name' ∨
        distance query name = distance query name' ∧ name < name' := by
  rw [suggest_eq, List.pairwise_map]
  refine List.Pairwise.filter _ ((h.ranking_pairwise query).imp_of_mem fun ha hb hlt => ?_)
  rw [(mem_ranking_iff.1 ha).2, (mem_ranking_iff.1 hb).2]
  exact Prod.Lex.toLex_lt_toLex.1 hlt

theorem suggest_nodup (query : String) (reach : Nat) : (table.suggest query reach).Nodup := by
  refine (h.suggest_pairwise query reach).imp ?_
  rintro name _ (hlt | ⟨-, hlt⟩) rfl
  · exact lt_irrefl _ hlt
  · exact lt_irrefl _ hlt

/-- Tables with the same names make the same suggestions. -/
theorem suggest_congr (h' : table'.Lawful)
    (hnames : ∀ name, name ∈ table.names ↔ name ∈ table'.names)
    (query : String) (reach : Nat) : table.suggest query reach = table'.suggest query reach := by
  have hperm : table.names.Perm table'.names :=
    (List.perm_ext_iff_of_nodup h.nodup_names h'.nodup_names).2 hnames
  have hranking : table.ranking query = table'.ranking query := by
    refine (ranked_mergeSort _).eq_of_perm (ranked_mergeSort _) ?_
    exact ((List.mergeSort_perm _ _).trans (hperm.map _)).trans (List.mergeSort_perm _ _).symm
  rw [suggest_eq, suggest_eq, hranking]

end Lawful

/-! ## What is suggested -/

/-- The suggestions for a query: all names within reach, each once, the nearest first, and before
those that a longer reach adds. The distance is the least number of edits between lower cases. -/
structure Suggests (table : TemplateTable) (query : String) (reach : Nat) : Prop where
  complete : ∀ name, name ∈ table.suggest query reach ↔
    name ∈ table.names ∧ ∃ n ≤ reach, CharEdits n (lowerCase query).toList (lowerCase name).toList
  once : (table.suggest query reach).Nodup
  ordered : (table.suggest query reach).Pairwise fun name name' =>
    distance query name < distance query name' ∨
      distance query name = distance query name' ∧ name < name'
  least : ∀ name,
    IsLeast {n | CharEdits n (lowerCase query).toList (lowerCase name).toList} (distance query name)
  continued : ∀ further, reach ≤ further → table.suggest query reach <+: table.suggest query further

theorem Lawful.suggests (h : table.Lawful) (query : String) (reach : Nat) :
    table.Suggests query reach where
  complete name := by
    rw [mem_suggest_iff]
    exact and_congr_right fun _ => editDistance_le_iff
  once := h.suggest_nodup query reach
  ordered := h.suggest_pairwise query reach
  least _ := isLeast_editDistance _ _
  continued _ := table.prefix_suggest query

/-- After every history of the empty or the standard table. Another history that leaves the same
names, under whatever tags, leads to the same suggestions. -/
theorem suggests_after (hstart : start = empty ∨ start = builtin) (history : List Template)
    (query : String) (reach : Nat) :
    (start.after history).Suggests query reach ∧
      ∀ start' history', start' = empty ∨ start' = builtin →
        (∀ name, name ∈ (start.after history).names ↔ name ∈ (start'.after history').names) →
        (start.after history).suggest query reach =
          (start'.after history').suggest query reach := by
  have h := lawful_after hstart history
  exact ⟨h.suggests query reach, fun _ _ hstart' hnames =>
    h.suggest_congr (lawful_after hstart' _) hnames query reach⟩

/-- Two names entered in either order, under different tags. One is an edit away from the query. -/
theorem suggested_in_either_order :
    "FLAG" ∈ (empty.after [⟨7, "FLAG", []⟩, ⟨3, "FLAGS", []⟩]).suggest "flags" 1 ∧
      (empty.after [⟨7, "FLAG", []⟩, ⟨3, "FLAGS", []⟩]).suggest "flags" 1 =
        (empty.after [⟨1, "FLAGS", [.flag]⟩, ⟨2, "FLAG", []⟩]).suggest "flags" 1 := by
  obtain ⟨hsuggests, hsame⟩ :=
    suggests_after (.inl rfl) [⟨7, "FLAG", []⟩, ⟨3, "FLAGS", []⟩] "flags" 1
  have hquery : (lowerCase "flags").toList = ['f', 'l', 'a', 'g', 's'] := by decide
  have hname : (lowerCase "FLAG").toList = ['f', 'l', 'a', 'g'] := by decide
  refine ⟨(hsuggests.complete _).2 ⟨by decide, 1, le_rfl, ?_⟩, ?_⟩
  · rw [hquery, hname]
    exact .cons ((CharEdit.delete 's' []).append_left ['f', 'l', 'a', 'g']) (.nil _)
  · refine hsame empty _ (.inl rfl) fun name => List.Perm.mem_iff ?_
    decide

end TriggerScript.TemplateTable
