import Mathlib.Data.List.Basic
import Mathlib.Data.List.Forall2

/-!
# Texts whose end can be found

Texts that stand one behind another, without their lengths, can be taken apart if the end of each is
found in whatever follows it. Lists with separators keep that property of their items.
-/

namespace TriggerScript

open List

/-! ## Marks -/

/-- Texts that begin with one of the marks. -/
def Begins (marks : List Char) (r : List Char) : Prop := ∃ c t, r = c :: t ∧ c ∈ marks

/-- Characters of one sort up to one of another: their number is told by what comes behind. -/
theorem append_inj_of_head {p : Char → Bool} {a b q r : List Char} (ha : ∀ c ∈ a, p c = true)
    (hb : ∀ c ∈ b, p c = true) (hq : ∀ c ∈ q.head?, p c = false) (hr : ∀ c ∈ r.head?, p c = false)
    (h : a ++ q = b ++ r) : a = b ∧ q = r := by
  have hstop {t : List Char} (ht : ∀ c ∈ t.head?, p c = false) : t.takeWhile p = [] := by
    cases t with
    | nil => rfl
    | cons c t => rw [takeWhile_cons, ht c rfl, if_neg Bool.false_ne_true]
  have htext := congrArg (takeWhile p) h
  rw [takeWhile_append_of_pos ha, takeWhile_append_of_pos hb, hstop hq, hstop hr, append_nil,
    append_nil] at htext
  exact ⟨htext, append_cancel_left (htext ▸ h)⟩

/-- What stands before the first mark is the same in equal texts, and so is the rest. -/
theorem append_cons_inj {marks a b r s : List Char} {c d : Char} (ha : Disjoint a marks)
    (hb : Disjoint b marks) (hc : c ∈ marks) (hd : d ∈ marks) (h : a ++ c :: r = b ++ d :: s) :
    a = b ∧ c = d ∧ r = s := by
  have hfree {t : List Char} (ht : Disjoint t marks) : ∀ x ∈ t, decide (x ∉ marks) = true :=
    fun x hx => decide_eq_true fun hmark => ht hx hmark
  obtain ⟨hbefore, hrest⟩ := append_inj_of_head (hfree ha) (hfree hb) (by simpa using hc)
    (by simpa using hd) h
  exact ⟨hbefore, cons.inj hrest⟩

theorem exists_intercalate_cons (separator first : List Char) (others : List (List Char)) :
    ∃ t, separator.intercalate (first :: others) = first ++ t := by
  cases others with
  | nil => exact ⟨[], by rw [intercalate_singleton, append_nil]⟩
  | cons second others => exact ⟨_, by rw [intercalate_cons_cons, append_assoc]⟩

/-! ## One text behind another -/

section Told

variable {α : Type} {Writes : α → List Char → Prop} {Next Ends : List Char → Prop}
variable {separator : List Char} {as bs : List α} {ss ts : List (List Char)}

/-- The text tells the value, among all that are written in some way, and where it ends, with
anything behind it that may come `Next`. -/
def Told (Writes : α → List Char → Prop) (Next : List Char → Prop) (a : α) (s : List Char) : Prop :=
  ∀ ⦃b : α⦄ ⦃t q r : List Char⦄, Writes b t → Next q → Next r → s ++ q = t ++ r → a = b ∧ q = r

/-- Items with separators between them, if no separator comes behind the last one. -/
theorem Told.separated (h : Forall₂ (Told Writes Next) as ss) (hbs : Forall₂ Writes bs ts)
    (has : as ≠ []) (hne : bs ≠ []) (hnext : ∀ r, Next (separator ++ r))
    (hends : ∀ r, Ends r → Next r ∧ ∀ t, r ≠ separator ++ t) {q r : List Char} (hq : Ends q)
    (hr : Ends r) (heq : separator.intercalate ss ++ q = separator.intercalate ts ++ r) :
    as = bs ∧ q = r := by
  induction h generalizing bs ts with
  | nil => exact absurd rfl has
  | @cons a s as ss ha htail ih =>
      cases hbs with
      | nil => exact absurd rfl hne
      | @cons b t bs ts hb hbs =>
          cases htail with
          | nil =>
              cases hbs with
              | nil =>
                  simp only [intercalate_singleton] at heq
                  obtain ⟨rfl, rfl⟩ := ha hb (hends q hq).1 (hends r hr).1 heq
                  exact ⟨rfl, rfl⟩
              | cons =>
                  simp only [intercalate_singleton, intercalate_cons_cons, append_assoc] at heq
                  exact absurd (ha hb (hends q hq).1 (hnext _) heq).2 ((hends q hq).2 _)
          | cons =>
              cases hbs with
              | nil =>
                  simp only [intercalate_singleton, intercalate_cons_cons, append_assoc] at heq
                  exact absurd (ha hb (hnext _) (hends r hr).1 heq).2.symm ((hends r hr).2 _)
              | cons hb' hbs =>
                  simp only [intercalate_cons_cons, append_assoc] at heq
                  obtain ⟨rfl, hrest⟩ := ha hb (hnext _) (hnext _) heq
                  obtain ⟨htail, rfl⟩ := ih (.cons hb' hbs) (cons_ne_nil _ _) (cons_ne_nil _ _)
                    (append_cancel_left hrest)
                  exact ⟨congrArg _ htail, rfl⟩

/-- A list that may be empty, up to a mark that no item begins with. -/
theorem Told.enclosed {close : Char} (h : Forall₂ (Told Writes Next) as ss)
    (has : Forall₂ Writes as ss) (hbs : Forall₂ Writes bs ts)
    (hhead : ∀ b t u v, Writes b t → t ++ u ≠ close :: v) (hnext : ∀ r, Next (separator ++ r))
    (hclose : ∀ r, Next (close :: r) ∧ ∀ t, close :: r ≠ separator ++ t) {q r : List Char}
    (heq : separator.intercalate ss ++ close :: q = separator.intercalate ts ++ close :: r) :
    as = bs ∧ q = r := by
  cases has with
  | nil =>
      cases hbs with
      | nil => exact ⟨rfl, (cons.inj heq).2⟩
      | @cons b t bs ts hb =>
          obtain ⟨u, hu⟩ := exists_intercalate_cons separator t ts
          rw [hu, append_assoc] at heq
          exact absurd heq.symm (hhead b t _ _ hb)
  | @cons a s as ss ha =>
      cases hbs with
      | nil =>
          obtain ⟨u, hu⟩ := exists_intercalate_cons separator s ss
          rw [hu, append_assoc] at heq
          exact absurd heq (hhead a s _ _ ha)
      | cons hb hbs =>
          have hends : ∀ r, (∃ t, r = close :: t) → Next r ∧ ∀ t, r ≠ separator ++ t := by
            rintro - ⟨t, rfl⟩
            exact hclose t
          obtain ⟨hlists, hrest⟩ := Told.separated h (.cons hb hbs) (cons_ne_nil _ _)
            (cons_ne_nil _ _) hnext hends ⟨q, rfl⟩ ⟨r, rfl⟩ heq
          exact ⟨hlists, (cons.inj hrest).2⟩

end Told

/-! ## Texts of good values -/

/-- The good values are told apart by what is written for them, whatever follows it among the texts
that may come `Next`. -/
def Legible {α : Type} (write : α → List Char) (Good : α → Prop) (Next : List Char → Prop) : Prop :=
  ∀ ⦃a b : α⦄ ⦃r s : List Char⦄, Good a → Good b → Next r → Next s →
    write a ++ r = write b ++ s → a = b ∧ r = s

namespace Legible

variable {α : Type} {write : α → List Char} {Good : α → Prop} {Next Ends : List Char → Prop}
variable {separator : List Char}

/-- Items with separators between them, if no separator comes behind the last one. -/
theorem separated (h : Legible write Good Next) (hnext : ∀ r, Next (separator ++ r))
    (hends : ∀ r, Ends r → Next r ∧ ∀ t, r ≠ separator ++ t) :
    Legible (fun as => separator.intercalate (as.map write))
      (fun as => as ≠ [] ∧ ∀ a ∈ as, Good a) Ends := by
  intro as bs r s has hbs hr hs heq
  have htold : Forall₂ (Told (fun b t => Good b ∧ t = write b) Next) as (as.map write) := by
    refine forall₂_map_right_iff.2 (forall₂_same.2 fun a ha => ?_)
    rintro b - q r ⟨hb, rfl⟩ hq hr heq
    exact h (has.2 a ha) hb hq hr heq
  have hwrites : Forall₂ (fun b t => Good b ∧ t = write b) bs (bs.map write) :=
    forall₂_map_right_iff.2 (forall₂_same.2 fun b hb => ⟨hbs.2 b hb, rfl⟩)
  exact Told.separated htold hwrites has.1 hbs.1 hnext hends hr hs heq

/-- A list that may be empty, if what is written for the empty one is told from all others. -/
theorem orEmpty {write : List α → List Char} {Good : List α → Prop}
    (h : Legible write (fun as => as ≠ [] ∧ Good as) Ends)
    (hempty : ∀ as r s, as ≠ [] → Good as → Ends s → write as ++ r ≠ write [] ++ s) :
    Legible write Good Ends := by
  intro as bs r s has hbs hr hs heq
  by_cases hnil : as = [] <;> by_cases hnil' : bs = []
  · rw [hnil, hnil'] at heq ⊢
    exact ⟨rfl, append_cancel_left heq⟩
  · rw [hnil] at heq
    exact absurd heq.symm (hempty bs s r hnil' hbs hr)
  · rw [hnil'] at heq
    exact absurd heq (hempty as r s hnil has hs)
  · exact h ⟨hnil, has⟩ ⟨hnil', hbs⟩ hr hs heq

end Legible

end TriggerScript
