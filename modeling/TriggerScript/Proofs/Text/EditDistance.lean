import Mathlib.Order.Bounds.Defs
import TriggerScript.Text.EditDistance

/-!
# The least number of edits

The distance between two texts is the least number of edits that lead from one to the other, where
an edit inserts, deletes or replaces one character at any place. Edits may come in any order. An
alignment puts the two texts side by side, which gives the edits an order in which the table of
distances can find the best of them.
-/

namespace TriggerScript

/-! ## Edits -/

/-- One character is inserted, deleted or replaced, at the front or further on. -/
inductive CharEdit : List Char → List Char → Prop
  | insert (c : Char) (s : List Char) : CharEdit s (c :: s)
  | delete (c : Char) (s : List Char) : CharEdit (c :: s) s
  | replace (c d : Char) (s : List Char) : CharEdit (c :: s) (d :: s)
  | further (c : Char) {s t : List Char} : CharEdit s t → CharEdit (c :: s) (c :: t)

/-- So many edits, one after the other. -/
inductive CharEdits : Nat → List Char → List Char → Prop
  | nil (s : List Char) : CharEdits 0 s s
  | cons {n : Nat} {s t u : List Char} : CharEdit s t → CharEdits n t u → CharEdits (n + 1) s u

variable {n m : Nat} {a b s t u : List Char} {x y : Char}

theorem CharEdit.append_left (u : List Char) (h : CharEdit s t) : CharEdit (u ++ s) (u ++ t) := by
  induction u with
  | nil => exact h
  | cons c u ih => exact .further c ih

theorem CharEdit.append_right (u : List Char) (h : CharEdit s t) : CharEdit (s ++ u) (t ++ u) := by
  induction h with
  | insert c s => exact .insert c (s ++ u)
  | delete c s => exact .delete c (s ++ u)
  | replace c d s => exact .replace c d (s ++ u)
  | further c _ ih => exact .further c ih

theorem CharEdit.reverse (h : CharEdit s t) : CharEdit s.reverse t.reverse := by
  induction h with
  | insert c s => simpa using (CharEdit.insert c []).append_left s.reverse
  | delete c s => simpa using (CharEdit.delete c []).append_left s.reverse
  | replace c d s => simpa using (CharEdit.replace c d []).append_left s.reverse
  | further c _ ih => simpa using ih.append_right [c]

theorem CharEdits.reverse (h : CharEdits n s t) : CharEdits n s.reverse t.reverse := by
  induction h with
  | nil s => exact .nil _
  | cons hedit _ ih => exact .cons hedit.reverse ih

theorem CharEdits.further (c : Char) (h : CharEdits n s t) : CharEdits n (c :: s) (c :: t) := by
  induction h with
  | nil s => exact .nil _
  | cons hedit _ ih => exact .cons (.further c hedit) ih

/-! ## Alignments -/

/-- Two texts side by side. A character that faces an equal one costs nothing, one that faces
another or none costs one edit. -/
inductive Aligned : Nat → List Char → List Char → Prop
  | nil : Aligned 0 [] []
  | keep (c : Char) {n : Nat} {s t : List Char} : Aligned n s t → Aligned n (c :: s) (c :: t)
  | replace (c d : Char) {n : Nat} {s t : List Char} :
      Aligned n s t → Aligned (n + 1) (c :: s) (d :: t)
  | delete (c : Char) {n : Nat} {s t : List Char} : Aligned n s t → Aligned (n + 1) (c :: s) t
  | insert (c : Char) {n : Nat} {s t : List Char} : Aligned n s t → Aligned (n + 1) s (c :: t)

theorem Aligned.refl (s : List Char) : Aligned 0 s s := by
  induction s with
  | nil => exact .nil
  | cons c s ih => exact .keep c ih

theorem Aligned.edits (h : Aligned n s t) : CharEdits n s t := by
  induction h with
  | nil => exact .nil []
  | keep c _ ih => exact ih.further c
  | replace c d _ ih => exact .cons (.replace c d _) (ih.further d)
  | delete c _ ih => exact .cons (.delete c _) ih
  | insert c _ ih => exact .cons (.insert c _) (ih.further c)

/-- An edit before an alignment costs one more at most. -/
theorem Aligned.of_edit (h : Aligned n t u) (hedit : CharEdit s t) :
    ∃ m ≤ n + 1, Aligned m s u := by
  induction h generalizing s with
  | nil =>
      cases hedit with
      | delete c => exact ⟨1, Nat.le_refl _, .delete c .nil⟩
  | @keep c n t u h ih =>
      cases hedit with
      | insert => exact ⟨n + 1, Nat.le_refl _, .insert c h⟩
      | delete d => exact ⟨n + 1, Nat.le_refl _, .delete d (.keep c h)⟩
      | replace d => exact ⟨n + 1, Nat.le_refl _, .replace d c h⟩
      | further _ hedit =>
          obtain ⟨m, hm, hs⟩ := ih hedit
          exact ⟨m, hm, .keep c hs⟩
  | @replace c d n t u h ih =>
      cases hedit with
      | insert => exact ⟨n + 1, Nat.le_succ _, .insert d h⟩
      | delete e => exact ⟨n + 2, Nat.le_refl _, .delete e (.replace c d h)⟩
      | replace e => exact ⟨n + 1, Nat.le_succ _, .replace e d h⟩
      | further _ hedit =>
          obtain ⟨m, hm, hs⟩ := ih hedit
          exact ⟨m + 1, Nat.succ_le_succ hm, .replace c d hs⟩
  | @delete c n t u h ih =>
      cases hedit with
      | insert => exact ⟨n, by omega, h⟩
      | delete e => exact ⟨n + 2, Nat.le_refl _, .delete e (.delete c h)⟩
      | replace e => exact ⟨n + 1, Nat.le_succ _, .delete e h⟩
      | further _ hedit =>
          obtain ⟨m, hm, hs⟩ := ih hedit
          exact ⟨m + 1, Nat.succ_le_succ hm, .delete c hs⟩
  | @insert c n t u _ ih =>
      obtain ⟨m, hm, hs⟩ := ih hedit
      exact ⟨m + 1, Nat.succ_le_succ hm, .insert c hs⟩

theorem CharEdits.exists_aligned (h : CharEdits n s t) : ∃ m ≤ n, Aligned m s t := by
  induction h with
  | nil s => exact ⟨0, Nat.le_refl _, .refl s⟩
  | cons hedit _ ih =>
      obtain ⟨m, hm, haligned⟩ := ih
      obtain ⟨k, hk, hs⟩ := haligned.of_edit hedit
      exact ⟨k, by omega, hs⟩

theorem isLeast_edits_of_aligned (h : IsLeast {n | Aligned n s t} m) :
    IsLeast {n | CharEdits n s t} m := by
  refine ⟨h.1.edits, fun n hn => ?_⟩
  obtain ⟨k, hk, haligned⟩ := CharEdits.exists_aligned hn
  exact Nat.le_trans (h.2 haligned) hk

theorem isLeast_edits_reverse (h : IsLeast {n | CharEdits n s.reverse t.reverse} m) :
    IsLeast {n | CharEdits n s t} m := by
  have hback := CharEdits.reverse h.1
  rw [List.reverse_reverse, List.reverse_reverse] at hback
  exact ⟨hback, fun n hn => h.2 (CharEdits.reverse hn)⟩

/-! ## Least alignments -/

theorem Aligned.length_le (h : Aligned n s t) :
    t.length ≤ s.length + n ∧ s.length ≤ t.length + n := by
  induction h <;> simp only [List.length_nil, List.length_cons] <;> omega

theorem isLeast_nil_left (t : List Char) : IsLeast {n | Aligned n [] t} t.length := by
  refine ⟨?_, fun n hn => by simpa using (Aligned.length_le hn).1⟩
  induction t with
  | nil => exact .nil
  | cons c t ih => exact .insert c ih

theorem isLeast_nil_right (s : List Char) : IsLeast {n | Aligned n s []} s.length := by
  refine ⟨?_, fun n hn => by simpa using (Aligned.length_le hn).2⟩
  induction s with
  | nil => exact .nil
  | cons c s ih => exact .delete c ih

/-- What stands at the front of both texts faces the other, or one of the two faces nothing. -/
theorem isLeast_cons {left up corner : Nat} (hleft : IsLeast {n | Aligned n (x :: a) b} left)
    (hup : IsLeast {n | Aligned n a (y :: b)} up) (hcorner : IsLeast {n | Aligned n a b} corner) :
    IsLeast {n | Aligned n (x :: a) (y :: b)}
      (min (min (left + 1) (up + 1)) (corner + if x = y then 0 else 1)) := by
  constructor
  · have hfacing : Aligned (corner + if x = y then 0 else 1) (x :: a) (y :: b) := by
      split
      · rename_i hxy
        subst hxy
        exact .keep x hcorner.1
      · exact .replace x y hcorner.1
    obtain h | h := Nat.le_total (min (left + 1) (up + 1)) (corner + if x = y then 0 else 1)
    · rw [Nat.min_eq_left h]
      obtain h | h := Nat.le_total (left + 1) (up + 1)
      · rw [Nat.min_eq_left h]
        exact .insert y hleft.1
      · rw [Nat.min_eq_right h]
        exact .delete x hup.1
    · rw [Nat.min_eq_right h]
      exact hfacing
  · intro n hn
    cases hn with
    | keep _ h =>
        have := hcorner.2 h
        rw [if_pos rfl]
        omega
    | replace _ _ h =>
        have := hcorner.2 h
        split <;> omega
    | delete _ h =>
        have := hup.2 h
        omega
    | insert _ h =>
        have := hleft.2 h
        omega

/-! ## Rows of the table -/

namespace EditDistance

/-- The rest of a row: what it takes at least from `a` to each text that has, with its last
character first, one more character of `ys` in front of `b`. -/
inductive Row (a : List Char) : List Char → List Char → List Nat → Prop
  | nil (b : List Char) : Row a b [] []
  | cons {b ys : List Char} {y : Char} {least : Nat} {row : List Nat} :
      IsLeast {n | Aligned n a (y :: b)} least → Row a (y :: b) ys row →
      Row a b (y :: ys) (least :: row)

variable {ys : List Char} {row above : List Nat} {corner left : Nat}

theorem row_firstRow (b ys : List Char) : Row [] b ys (List.range' (b.length + 1) ys.length) := by
  induction ys generalizing b with
  | nil => exact .nil b
  | cons y ys ih => exact .cons (isLeast_nil_left (y :: b)) (ih (y :: b))

theorem Row.extendRow (habove : Row a b ys above) (hleft : IsLeast {n | Aligned n (x :: a) b} left)
    (hcorner : IsLeast {n | Aligned n a b} corner) :
    Row (x :: a) b ys (extendRow x ys left corner above) := by
  induction habove generalizing left corner with
  | nil b => exact .nil b
  | cons hup _ ih =>
      have hbest := isLeast_cons hleft hup hcorner
      exact .cons hbest (ih hbest hup)

theorem Row.getLastD (hrow : Row a b ys row) (hleft : IsLeast {n | Aligned n a b} left) :
    IsLeast {n | Aligned n a (ys.reverse ++ b)} ((left :: row).getLastD 0) := by
  induction hrow generalizing left with
  | nil b => exact hleft
  | cons hleast _ ih => simpa using ih hleast

/-- The whole row of a prefix, which is given with its last character first. -/
def IsRow (target a : List Char) (row : List Nat) : Prop :=
  ∃ above, row = a.length :: above ∧ Row a [] target above

variable {target : List Char}

theorem isRow_firstRow (target : List Char) : IsRow target [] (firstRow target) := by
  refine ⟨List.range' 1 target.length, ?_, row_firstRow [] target⟩
  rw [firstRow, List.range_eq_range', List.range'_succ]
  rfl

theorem IsRow.nextRow (h : IsRow target a row) (x : Char) :
    IsRow target (x :: a) (nextRow target row x) := by
  obtain ⟨above, rfl, habove⟩ := h
  exact ⟨_, rfl, habove.extendRow (isLeast_nil_right (x :: a)) (isLeast_nil_right a)⟩

/-- The run: a row for each prefix, up to the whole text. -/
theorem IsRow.foldl (h : IsRow target a row) (source : List Char) :
    IsRow target (source.reverse ++ a) (source.foldl (EditDistance.nextRow target) row) := by
  induction source generalizing a row with
  | nil => exact h
  | cons x source ih => simpa using ih (h.nextRow x)

theorem IsRow.getLastD (h : IsRow target a row) :
    IsLeast {n | Aligned n a target.reverse} (row.getLastD 0) := by
  obtain ⟨above, rfl, habove⟩ := h
  simpa using habove.getLastD (isLeast_nil_right a)

end EditDistance

/-- The distance of two texts is the least number of edits from one to the other. -/
theorem isLeast_editDistance (source target : String) :
    IsLeast {n | CharEdits n source.toList target.toList} (editDistance source target) := by
  have hrow := (EditDistance.isRow_firstRow target.toList).foldl source.toList
  rw [List.append_nil] at hrow
  exact isLeast_edits_reverse (isLeast_edits_of_aligned hrow.getLastD)

theorem editDistance_le_iff {source target : String} {reach : Nat} :
    editDistance source target ≤ reach ↔ ∃ n ≤ reach, CharEdits n source.toList target.toList := by
  obtain ⟨hmem, hleast⟩ := isLeast_editDistance source target
  constructor
  · exact fun h => ⟨_, h, hmem⟩
  · rintro ⟨n, hn, hedits⟩
    exact Nat.le_trans (hleast hedits) hn

end TriggerScript
