import TriggerScript.Proofs.Config.Verify
import TriggerScript.Proofs.Decimal.Numeral
import TriggerScript.Proofs.Registry.History
import TriggerScript.Proofs.Text.Legible

/-!
# Refused types in a check

A check goes on after a type that is refused, and reports what is wrong with each type by its
place. A clash with a tag that has been declared before is left out. Such a tag may have been
declared in vain, by a type that was refused as well, and then it still stands for a standard type.
A type that clashes with that one only is refused without a report.
-/

namespace TriggerScript.Config

variable {c : Config} {p : Progress} {types : List Template} {t u : Template}
variable {index start : Nat} {tag : Int32} {name : String} {problem : ConfigProblem}

/-! ## The replay -/

/-- The table that a check has built when it comes to a place. -/
def replayed (c : Config) (index : Nat) : TemplateTable :=
  c.baseTable.after (c.conditionTypes.take index)

/-- The type at a place, as a check comes to it, is refused. -/
structure RefusedAt (c : Config) (index : Nat) (t : Template) (e : InsertError) : Prop where
  declared : c.conditionTypes[index]? = some t
  refused : (c.replayed index).insert t = .error e

/-- Some message tells the place. -/
def Reports (c : Config) (index : Nat) : Prop :=
  ∃ message, s!"condition_types[{index}]: " ++ message ∈ c.verify.map problemText

theorem lawful_replayed (c : Config) (index : Nat) : (c.replayed index).Lawful :=
  (lawful_baseTable c).after _

theorem Progress.foldl_next (p : Progress) (types : List Template) :
    types.foldl next p = ⟨(types.map (·.id)).reverse ++ p.ids,
      (types.map (·.name)).reverse ++ p.names, p.table.after types⟩ := by
  induction types generalizing p with
  | nil => rfl
  | cons t types ih =>
      rw [List.foldl_cons, ih, List.map_cons, List.map_cons, List.reverse_cons, List.reverse_cons,
        List.append_assoc, List.append_assoc]
      rfl

/-- What a check knows when it comes to a place. -/
def progress (c : Config) (index : Nat) : Progress where
  ids := ((c.conditionTypes.take index).map (·.id)).reverse
  names := ((c.conditionTypes.take index).map (·.name)).reverse
  table := c.replayed index

theorem foldl_next_eq_progress (c : Config) (index : Nat) :
    (c.conditionTypes.take index).foldl Progress.next ⟨[], [], c.baseTable⟩ = c.progress index := by
  rw [Progress.foldl_next, List.append_nil, List.append_nil, progress, replayed]

theorem mem_ids_progress :
    tag ∈ (c.progress index).ids ↔ ∃ u ∈ c.conditionTypes.take index, u.id = tag := by
  rw [progress, List.mem_reverse, List.mem_map]

theorem notMem_ids_progress :
    tag ∉ (c.progress index).ids ↔ ∀ u ∈ c.conditionTypes.take index, u.id ≠ tag := by
  rw [mem_ids_progress]
  simp

theorem notMem_names_progress :
    name ∉ (c.progress index).names ↔ ∀ u ∈ c.conditionTypes.take index, u.name ≠ name := by
  rw [progress, List.mem_reverse, List.mem_map]
  simp

theorem mem_problemsFrom_iff :
    (index, problem) ∈ problemsFrom start p types ↔
      ∃ i t, index = start + i ∧ types[i]? = some t ∧
        problem ∈ ((types.take i).foldl Progress.next p).problems t := by
  induction types generalizing start p with
  | nil => simp [problemsFrom]
  | cons t types ih =>
      rw [problemsFrom, List.mem_append, List.mem_map, ih]
      constructor
      · rintro (⟨problem, hproblem, ⟨⟩⟩ | ⟨i, u, rfl, hu, hproblem⟩)
        · exact ⟨0, t, rfl, rfl, hproblem⟩
        · exact ⟨i + 1, u, by omega, hu, hproblem⟩
      · rintro ⟨i, u, rfl, hu, hproblem⟩
        cases i with
        | zero =>
            cases hu
            exact .inl ⟨problem, hproblem, rfl⟩
        | succ i => exact .inr ⟨i, u, by omega, hu, hproblem⟩

theorem mem_verify_iff (ht : c.conditionTypes[index]? = some t) :
    (index, problem) ∈ c.verify ↔ problem ∈ (c.progress index).problems t := by
  rw [verify, mem_problemsFrom_iff]
  constructor
  · rintro ⟨i, u, rfl, hu, hproblem⟩
    rw [foldl_next_eq_progress] at hproblem
    rw [Nat.zero_add] at ht ⊢
    cases ht.symm.trans hu
    exact hproblem
  · intro hproblem
    rw [← foldl_next_eq_progress] at hproblem
    exact ⟨index, t, (Nat.zero_add index).symm, ht, hproblem⟩

/-! ## Messages -/

/-- The place can be read off the message. -/
theorem place_inj {i j : Nat} {a b : String}
    (h : s!"condition_types[{i}]: " ++ a = s!"condition_types[{j}]: " ++ b) : i = j := by
  have hchars := congrArg String.toList h
  simp only [String.toList_append, List.append_assoc] at hchars
  have hmark (rest : List Char) :
      ∀ ch ∈ ((toString "]: ").toList ++ rest).head?, ch.isDigit = false := by
    rintro ch ⟨⟩
    rfl
  exact nat_inj (append_inj_of_head (digits_nat i).2 (digits_nat j).2 (hmark _) (hmark _)
    (List.append_cancel_left hchars)).1

theorem reports_iff (ht : c.conditionTypes[index]? = some t) :
    c.Reports index ↔ (c.progress index).problems t ≠ [] := by
  constructor
  · rintro ⟨message, hmessage⟩
    obtain ⟨⟨place, problem⟩, hproblem, htext⟩ := List.mem_map.1 hmessage
    obtain rfl : place = index := place_inj htext
    exact List.ne_nil_of_mem ((mem_verify_iff ht).1 hproblem)
  · intro hne
    obtain ⟨problem, hproblem⟩ := List.exists_mem_of_ne_nil _ hne
    exact ⟨problem.message, List.mem_map.2 ⟨(index, problem), (mem_verify_iff ht).2 hproblem, rfl⟩⟩

/-! ## Refusals without a report -/

/-- A type whose only fault is that its name is that of a standard type, in the place of which
another type has been declared, but was refused itself. -/
structure Unreported (c : Config) (index : Nat) (t : Template) : Prop where
  named : isBlank t.name = false
  bounded : t.shape.length ≤ 12
  newId : ∀ u ∈ c.conditionTypes.take index, u.id ≠ t.id
  newName : ∀ u ∈ c.conditionTypes.take index, u.name ≠ t.name
  held : ∃ u ∈ c.baseTable.templates, u.name = t.name ∧
    ∃ i v e, i < index ∧ c.RefusedAt i v e ∧ v.id = u.id

/-- What holds a name that has not been declared is in the table that the check starts from. -/
theorem mem_baseTable_of_newName
    (hnew : ∀ u ∈ c.conditionTypes.take index, u.name ≠ t.name)
    (hu : u ∈ (c.replayed index).templates) (hname : u.name = t.name) :
    u ∈ c.baseTable.templates := by
  obtain hmem | hmem := (lawful_baseTable c).mem_after hu
  · exact (hnew u hmem hname).elim
  · exact hmem

theorem replayed_succ {i : Nat} (ht : c.conditionTypes[i]? = some t) :
    c.replayed (i + 1) = (c.replayed i).offer t := by
  rw [replayed, List.take_add_one, ht, TemplateTable.after, List.foldl_append]
  rfl

theorem replayed_eq_after {i : Nat} (hi : i ≤ index) :
    c.replayed index = (c.replayed i).after ((c.conditionTypes.take index).drop i) := by
  have hsplit := List.take_append_drop i (c.conditionTypes.take index)
  rw [List.take_take, Nat.min_eq_left hi] at hsplit
  rw [replayed, ← hsplit, TemplateTable.after, List.foldl_append, hsplit]
  rfl

/-- While such a name is held, no type has been accepted with the tag of the holder. -/
theorem exists_refusedAt {v : Template}
    (hnew : ∀ u ∈ c.conditionTypes.take index, u.name ≠ t.name)
    (hu : u ∈ (c.replayed index).templates) (hname : u.name = t.name)
    (hv : v ∈ c.conditionTypes.take index) (hid : v.id = u.id) :
    ∃ i e, i < index ∧ c.RefusedAt i v e := by
  obtain ⟨i, hget⟩ := List.mem_iff_getElem?.1 hv
  have hi : i < index := by
    obtain ⟨hlen, -⟩ := List.getElem?_eq_some_iff.1 hget
    exact Nat.lt_of_lt_of_le hlen (List.length_take_le _ _)
  rw [List.getElem?_take_of_lt hi] at hget
  cases haccepted : (c.replayed i).insert v with
  | error e => exact ⟨i, e, hi, hget, haccepted⟩
  | ok out =>
      -- from then on the tag stands for declared types only, and none of them has the name
      have hplaced : v ∈ (c.replayed (i + 1)).templates := by
        rw [replayed_succ hget, TemplateTable.offer_of_ok haccepted,
          (lawful_replayed c i).mem_insert_iff haccepted]
        exact .inl rfl
      obtain ⟨w, hw, hwid, hwname⟩ := (lawful_replayed c (i + 1)).exists_after_of_name_ne
        hplaced (hnew v hv) (fun t ht => hnew t (List.mem_of_mem_drop (i := i + 1) ht))
      rw [← replayed_eq_after hi] at hw
      have heq : w = u := (lawful_replayed c index).ordered.eq_of_id hw hu (hwid.trans hid)
      exact (hwname (heq ▸ hname)).elim

/-- A clash with an undeclared name is left out when a type before it, which was refused, has
declared the tag of the standard type with that name. -/
theorem clash_eq_none_iff {e : InsertError} (h : c.RefusedAt index t e)
    (hshape : t.shape.length ≤ 12)
    (hnew : ∀ u ∈ c.conditionTypes.take index, u.name ≠ t.name) :
    (c.progress index).clash t = none ↔ ∃ u ∈ c.baseTable.templates, u.name = t.name ∧
      ∃ i v e, i < index ∧ c.RefusedAt i v e ∧ v.id = u.id := by
  have hinsert : (c.progress index).table.insert t = .error e := h.refused
  obtain ⟨-, hlong⟩ | ⟨w, hw, hne, hwn, rfl⟩ := TemplateTable.insert_eq_error h.refused
  · exact (Nat.not_le.2 hlong hshape).elim
  have hclash : (c.progress index).clash t = none ↔ w.id ∈ (c.progress index).ids := by
    rw [Progress.clash, hinsert]
    simp [hne]
  have hwbase := mem_baseTable_of_newName hnew hw hwn
  rw [hclash, mem_ids_progress]
  constructor
  · rintro ⟨v, hv, hid⟩
    obtain ⟨i, e, hi, hrefused⟩ := exists_refusedAt hnew hw hwn hv hid
    exact ⟨w, hwbase, hwn, i, v, e, hi, hrefused, hid⟩
  · rintro ⟨u, hu, hun, i, v, e, hi, hrefused, hid⟩
    obtain rfl : w = u := (lawful_baseTable c).named w hwbase u hu (hwn.trans hun.symm)
    have hget : (c.conditionTypes.take index)[i]? = some v := by
      rw [List.getElem?_take_of_lt hi, hrefused.declared]
    exact ⟨v, List.mem_of_getElem? hget, hid⟩

/-- A type that is refused in a check is reported by its place, unless its name is its only fault
and the standard type that has the name should have been replaced by a type that was refused. -/
theorem refused_reported_iff (c : Config) (index : Nat) (t : Template) (e : InsertError)
    (h : c.RefusedAt index t e) : c.Reports index ↔ ¬ c.Unreported index t := by
  rw [reports_iff h.declared, ne_eq, not_iff_not, Progress.problems_eq_nil_iff,
    notMem_ids_progress, notMem_names_progress]
  constructor
  · rintro ⟨hblank, hid, hname, hshape, hclash⟩
    exact ⟨hblank, hshape, hid, hname, (clash_eq_none_iff h hshape hname).1 hclash⟩
  · rintro ⟨hblank, hshape, hid, hname, hheld⟩
    exact ⟨hblank, hid, hname, hshape, (clash_eq_none_iff h hshape hname).2 hheld⟩

/-- The first type cannot replace a standard one for its name, and the second has the name of that
standard type. -/
def hindered : Config := ⟨[⟨2, "COUNTER", []⟩, ⟨100, "FLAG", []⟩], .standard⟩

theorem hindered_reports :
    hindered.RefusedAt 0 ⟨2, "COUNTER", []⟩ (.nameTaken "COUNTER" 1) ∧
      hindered.RefusedAt 1 ⟨100, "FLAG", []⟩ (.nameTaken "FLAG" 2) ∧
      hindered.Reports 0 ∧ ¬ hindered.Reports 1 := by
  have hfirst : hindered.RefusedAt 0 ⟨2, "COUNTER", []⟩ (.nameTaken "COUNTER" 1) := ⟨rfl, rfl⟩
  have hsecond : hindered.RefusedAt 1 ⟨100, "FLAG", []⟩ (.nameTaken "FLAG" 2) := ⟨rfl, rfl⟩
  refine ⟨hfirst, hsecond, (refused_reported_iff _ _ _ _ hfirst).2 fun hunreported => ?_,
    fun hreports => (refused_reported_iff _ _ _ _ hsecond).1 hreports ?_⟩
  · obtain ⟨-, -, -, i, -, -, hi, -⟩ := hunreported.held
    exact Nat.not_lt_zero i hi
  · exact ⟨by decide, by decide, by decide, by decide,
      ⟨2, "FLAG", [.flag, .boolean]⟩, by decide, rfl, 0, _, _, Nat.one_pos, hfirst, rfl⟩

/-- Not every refused type is reported. -/
theorem not_refused_reported :
    ¬ ∀ (c : Config) (index : Nat) (t : Template) (e : InsertError),
      c.RefusedAt index t e → c.Reports index := by
  intro h
  have hreports := h hindered 1 ⟨100, "FLAG", []⟩ (.nameTaken "FLAG" 2) ⟨rfl, rfl⟩
  exact (reports_iff rfl).1 hreports (by decide)

end TriggerScript.Config
