import Mathlib.Data.List.Induction
import Mathlib.Data.List.Nodup
import TriggerScript.Proofs.Registry.History

/-!
# Overlays

Templates that are laid over a table, one after the other, make a tag stand for the last of them
that has it. What has been replaced on the way does not matter for the result, but it does for what
is accepted: a template needs a short shape, and a name that no other tag has in the overlay of
those before it.
-/

namespace TriggerScript.TemplateTable

variable {base table table' next : TemplateTable} {t u : Template} {ts us : List Template}
variable {old : Option Template} {e : InsertError}

/-! ## The last of a tag -/

/-- What a tag stands for when templates are laid over a table: the last one with the tag, or else
that of the table. -/
def overlaid? (base : TemplateTable) (ts : List Template) (tag : Int32) : Option Template :=
  (ts.reverse.find? fun t => t.id = tag).or (base.registry.template? tag)

theorem overlaid?_insert (h : base.Lawful) (hi : base.insert t = .ok (old, next)) (tag : Int32) :
    next.overlaid? ts tag = base.overlaid? (t :: ts) tag := by
  rw [overlaid?, overlaid?, h.template?_insert hi, List.reverse_cons, List.find?_append,
    Option.or_assoc]
  congr 1
  by_cases htag : t.id = tag
  · simp [htag]
  · simp [htag, Ne.symm htag]

/-- A table that is built up holds the last template of each tag. -/
theorem Lawful.template?_insertAll (h : base.Lawful) (hi : base.insertAll ts = .ok table)
    (tag : Int32) : table.registry.template? tag = base.overlaid? ts tag := by
  induction ts generalizing base with
  | nil =>
      cases hi
      rfl
  | cons t ts ih =>
      obtain ⟨old, next, hstep, hrest⟩ := insertAll_cons_eq_ok_iff.1 hi
      rw [ih (h.insert hstep) hrest, overlaid?_insert h hstep]

/-! ## What is accepted -/

/-- A template that can be laid on top of others. -/
structure Fits (base : TemplateTable) (before : List Template) (t : Template) : Prop where
  bounded : t.shape.length ≤ 12
  free : ∀ tag u, tag ≠ t.id → base.overlaid? before tag = some u → u.name ≠ t.name

/-- A template that cannot be laid on top of others, and the error that tells why. -/
inductive Offends (base : TemplateTable) (before : List Template) (t : Template) :
    InsertError → Prop
  | oversized : 12 < t.shape.length → Offends base before t (.oversized t.name t.shape.length)
  | nameTaken {tag : Int32} {u : Template} : t.shape.length ≤ 12 → tag ≠ t.id →
      base.overlaid? before tag = some u → u.name = t.name →
      Offends base before t (.nameTaken t.name tag)

section Steps

variable (h : base.Lawful) (hbefore : base.insertAll us = .ok table)

include h hbefore

theorem Lawful.insert_eq_error_iff_offends : table.insert t = .error e ↔ base.Offends us t e := by
  rw [(h.insertAll hbefore).insert_eq_error_iff]
  simp only [Registry.typeName?, h.template?_insertAll hbefore, Option.map_eq_some_iff]
  constructor
  · rintro (⟨hshape, rfl⟩ | ⟨hshape, tag, htag, ⟨u, hu, hname⟩, rfl⟩)
    · exact .oversized hshape
    · exact .nameTaken hshape htag hu hname
  · rintro (hshape | ⟨hshape, htag, hu, hname⟩)
    · exact .inl ⟨hshape, rfl⟩
    · exact .inr ⟨hshape, _, htag, ⟨_, hu, hname⟩, rfl⟩

theorem Lawful.insert_eq_ok_iff_fits : (∃ out, table.insert t = .ok out) ↔ base.Fits us t := by
  have hoffends {e : InsertError} := h.insert_eq_error_iff_offends hbefore (t := t) (e := e)
  constructor
  · rintro ⟨out, hout⟩
    have haccepted (e : InsertError) : ¬ base.Offends us t e := fun he => by
      rw [hoffends.2 he] at hout
      cases hout
    have hshape : t.shape.length ≤ 12 := Nat.not_lt.1 fun hlt => haccepted _ (.oversized hlt)
    exact ⟨hshape, fun tag u htag hu hname => haccepted _ (.nameTaken hshape htag hu hname)⟩
  · intro hfits
    cases hi : table.insert t with
    | ok out => exact ⟨out, rfl⟩
    | error e =>
        cases hoffends.1 hi with
        | oversized hlt => exact (Nat.not_le.2 hlt hfits.bounded).elim
        | nameTaken _ htag hu hname => exact (hfits.free _ _ htag hu hname).elim

end Steps

theorem insertAll_concat_eq_ok_iff :
    (∃ table, base.insertAll (ts ++ [t]) = .ok table) ↔
      ∃ table, base.insertAll ts = .ok table ∧ ∃ out, table.insert t = .ok out := by
  simp only [insertAll, List.foldlM_append, List.foldlM_cons, List.foldlM_nil, bind_pure,
    except_bind_eq_ok_iff, except_map_eq_ok_iff]
  constructor
  · rintro ⟨_, table, htable, out, hout, -⟩
    exact ⟨table, htable, out, hout⟩
  · rintro ⟨table, htable, out, hout⟩
    exact ⟨_, table, htable, out, hout, rfl⟩

theorem forall_getElem?_concat {α : Type} {P : List α → α → Prop} {as : List α} {a : α} :
    (∀ (i : Nat) b, (as ++ [a])[i]? = some b → P ((as ++ [a]).take i) b) ↔
      (∀ (i : Nat) b, as[i]? = some b → P (as.take i) b) ∧ P as a := by
  constructor
  · intro h
    constructor
    · intro i b hb
      obtain ⟨hi, -⟩ := List.getElem?_eq_some_iff.1 hb
      have hP := h i b (by rwa [List.getElem?_append_left hi])
      rwa [List.take_append_of_le_length (Nat.le_of_lt hi)] at hP
    · have hP := h as.length a (by simp)
      rwa [List.take_left] at hP
  · rintro ⟨hbefore, hlast⟩ i b hb
    obtain hi | hi := Nat.lt_or_ge i as.length
    · rw [List.getElem?_append_left hi] at hb
      rw [List.take_append_of_le_length (Nat.le_of_lt hi)]
      exact hbefore i b hb
    · obtain ⟨hlen, -⟩ := List.getElem?_eq_some_iff.1 hb
      rw [List.length_append, List.length_singleton] at hlen
      obtain rfl : i = as.length := by omega
      rw [List.getElem?_concat_length] at hb
      cases hb
      rwa [List.take_left]

/-- The run: all templates are accepted exactly when each fits on top of those before it. -/
theorem Lawful.insertAll_eq_ok_iff (h : base.Lawful) :
    (∃ table, base.insertAll ts = .ok table) ↔
      ∀ (i : Nat) t, ts[i]? = some t → base.Fits (ts.take i) t := by
  induction ts using List.reverseRecOn with
  | nil => exact iff_of_true ⟨base, rfl⟩ nofun
  | append_singleton ts t ih =>
      rw [insertAll_concat_eq_ok_iff, forall_getElem?_concat, ← ih]
      constructor
      · rintro ⟨table, htable, hout⟩
        exact ⟨⟨table, htable⟩, (h.insert_eq_ok_iff_fits htable).1 hout⟩
      · rintro ⟨⟨table, htable⟩, hfits⟩
        exact ⟨table, htable, (h.insert_eq_ok_iff_fits htable).2 hfits⟩

/-! ## The first that is refused -/

/-- The first template that does not fit on top of those before it. -/
def FirstOffending (base : TemplateTable) (ts : List Template) (index : Nat) (e : InsertError) :
    Prop :=
  (∀ i < index, ∀ t, ts[i]? = some t → base.Fits (ts.take i) t) ∧
    ∃ t, ts[index]? = some t ∧ base.Offends (ts.take index) t e

theorem Lawful.exists_insertAll_take_iff (h : base.Lawful) {index : Nat} :
    (∃ table, base.insertAll (ts.take index) = .ok table) ↔
      ∀ i < index, ∀ t, ts[i]? = some t → base.Fits (ts.take i) t := by
  rw [h.insertAll_eq_ok_iff]
  constructor
  · intro hfits i hi t ht
    have htake := hfits i t (by rwa [List.getElem?_take_of_lt hi])
    rwa [List.take_take, Nat.min_eq_left (Nat.le_of_lt hi)] at htake
  · intro hfits i t ht
    obtain ⟨hlen, -⟩ := List.getElem?_eq_some_iff.1 ht
    have hi : i < index := Nat.lt_of_lt_of_le hlen (List.length_take_le index ts)
    rw [List.getElem?_take_of_lt hi] at ht
    rw [List.take_take, Nat.min_eq_left (Nat.le_of_lt hi)]
    exact hfits i hi t ht

theorem Lawful.firstRefused_iff_firstOffending (h : base.Lawful) {index : Nat} :
    base.FirstRefused ts index e ↔ base.FirstOffending ts index e := by
  rw [FirstOffending, ← h.exists_insertAll_take_iff]
  constructor
  · rintro ⟨t, before, ht, hbefore, hi⟩
    exact ⟨⟨before, hbefore⟩, t, ht, (h.insert_eq_error_iff_offends hbefore).1 hi⟩
  · rintro ⟨⟨before, hbefore⟩, t, ht, hoffends⟩
    exact ⟨t, before, ht, hbefore, (h.insert_eq_error_iff_offends hbefore).2 hoffends⟩

/-! ## The order of the templates -/

/-- Without a tag that occurs twice, it does not matter in which order templates are laid. -/
theorem overlaid?_of_perm (hperm : us.Perm ts) (hnodup : (ts.map (·.id)).Nodup) (tag : Int32) :
    base.overlaid? us tag = base.overlaid? ts tag := by
  have hkey : ∀ t ∈ ts, ∀ u ∈ ts, t.id = u.id → t = u :=
    fun _ ht _ hu => List.inj_on_of_nodup_map hnodup ht hu
  have hfind : (us.reverse.find? fun t => t.id = tag) = ts.reverse.find? fun t => t.id = tag := by
    ext u
    rw [find?_eq_some_iff_of_key (by simpa [hperm.mem_iff] using hkey),
      find?_eq_some_iff_of_key (by simpa using hkey), List.mem_reverse, List.mem_reverse,
      hperm.mem_iff]
  rw [overlaid?, overlaid?, hfind]

/-- A lawful table is known from what its tags stand for. -/
theorem Lawful.eq_of_template? (h : table.Lawful) (h' : table'.Lawful)
    (heq : ∀ tag, table.registry.template? tag = table'.registry.template? tag) :
    table = table' := by
  have hmem (t : Template) : t ∈ table.templates ↔ t ∈ table'.templates := by
    have ht : table.registry.template? t.id = some t ↔ t ∈ table.templates ∧ t.id = t.id :=
      h.template?_eq_some_iff
    rw [heq, h'.template?_eq_some_iff] at ht
    simpa using ht.symm
  have hnodup {ts : List Template} (hts : Ordered ts) : ts.Nodup :=
    hts.imp fun hlt heq => Int32.ne_of_lt hlt (congrArg Template.id heq)
  have hperm := (List.perm_ext_iff_of_nodup (hnodup h.ordered) (hnodup h'.ordered)).2 hmem
  have htemplates := hperm.eq_of_pairwise
    (fun t u _ _ htu hut => (Int32.lt_asymm htu hut).elim) h.ordered h'.ordered
  cases table
  cases table'
  exact congrArg TemplateTable.mk htemplates

end TriggerScript.TemplateTable
