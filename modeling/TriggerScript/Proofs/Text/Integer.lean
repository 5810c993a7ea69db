import TriggerScript.Proofs.Decimal.Numeral
import TriggerScript.Text.Integer

/-!
# Reading whole numbers

A word is read from an optional sign and digits, of which the first may be zeros, as long as the
value fits, and from nothing else. Such a text has no letters, so it is the same in any case.
-/

namespace TriggerScript

variable {s digits : List Char} {text : String} {i : Int}

/-- The decimal texts of a whole number. -/
inductive IntegerText : List Char → Int → Prop
  | unsigned {digits : List Char} :
      Digits digits → IntegerText digits (Nat.ofDigitChars 10 digits 0)
  | plus {digits : List Char} :
      Digits digits → IntegerText ('+' :: digits) (Nat.ofDigitChars 10 digits 0)
  | minus {digits : List Char} :
      Digits digits → IntegerText ('-' :: digits) (-(Nat.ofDigitChars 10 digits 0 : Int))

theorem parseDigits?_eq_some_iff {n : Nat} :
    parseDigits? digits = some n ↔ Digits digits ∧ Nat.ofDigitChars 10 digits 0 = n := by
  have hdigits : ¬ (digits.isEmpty || !digits.all Char.isDigit) = true ↔ Digits digits := by
    simp [Digits]
  rw [parseDigits?, ← hdigits, ite_eq_iff]
  simp [Nat.ofDigitChars]

theorem map_parseDigits?_eq_some_iff {f : Int → Int} :
    (do return ((← parseDigits? digits : Nat) : Int)).map f = some i ↔
      Digits digits ∧ f (Nat.ofDigitChars 10 digits 0) = i := by
  simp only [Option.map_eq_some_iff, Option.bind_eq_bind, Option.bind_eq_some_iff, Option.pure_def,
    Option.some.injEq, parseDigits?_eq_some_iff]
  constructor
  · rintro ⟨_, ⟨_, ⟨hdigits, rfl⟩, rfl⟩, hi⟩
    exact ⟨hdigits, hi⟩
  · rintro ⟨hdigits, hi⟩
    exact ⟨_, ⟨_, ⟨hdigits, rfl⟩, rfl⟩, hi⟩

theorem not_digits_cons {c : Char} (h : c.isDigit = false) : ¬ Digits (c :: digits) :=
  fun hdigits => Bool.false_ne_true (h.symm.trans (hdigits.2 c List.mem_cons_self))

theorem parseInt?_eq_some_iff : parseInt? text = some i ↔ IntegerText text.toList i := by
  rw [parseInt?]
  generalize text.toList = s
  split
  · rw [map_parseDigits?_eq_some_iff]
    constructor
    · rintro ⟨hdigits, rfl⟩
      exact .minus hdigits
    · intro h
      cases h with
      | unsigned hdigits => exact (not_digits_cons rfl hdigits).elim
      | minus hdigits => exact ⟨hdigits, rfl⟩
  · rw [map_parseDigits?_eq_some_iff]
    constructor
    · rintro ⟨hdigits, rfl⟩
      exact .plus hdigits
    · intro h
      cases h with
      | unsigned hdigits => exact (not_digits_cons rfl hdigits).elim
      | plus hdigits => exact ⟨hdigits, rfl⟩
  · rename_i hminus hplus
    rw [map_parseDigits?_eq_some_iff]
    constructor
    · rintro ⟨hdigits, rfl⟩
      exact .unsigned hdigits
    · intro h
      cases h with
      | unsigned hdigits => exact ⟨hdigits, rfl⟩
      | plus => exact (hplus _ rfl).elim
      | minus => exact (hminus _ rfl).elim

/-- A word is read from exactly the decimal texts of its value. -/
theorem parseInt32?_eq_some_iff {w : Int32} :
    parseInt32? text = some w ↔ IntegerText text.toList w.toInt := by
  rw [parseInt32?, ← parseInt?_eq_some_iff, Option.bind_eq_some_iff]
  constructor
  · rintro ⟨i, hi, hw⟩
    obtain ⟨⟨hlow, hhigh⟩, hw⟩ := Option.ite_none_right_eq_some.1 hw
    cases hw
    rwa [Int32.toInt_ofInt_of_le hlow (Int.lt_add_one_of_le hhigh)]
  · intro h
    have hlow := w.le_toInt
    have hhigh := w.toInt_lt
    refine ⟨w.toInt, h, ?_⟩
    rw [if_pos ⟨hlow, by omega⟩, Int32.ofInt_toInt]

/-! ## The case of letters -/

theorem upper_iff {c : Char} :
    c.val ≥ 'A'.val ∧ c.val ≤ 'Z'.val ↔ 65 ≤ c.toNat ∧ c.toNat ≤ 90 := by
  simp only [ge_iff_le, UInt32.le_iff_toNat_le]
  rfl

theorem lower_iff {c : Char} :
    c.val ≥ 'a'.val ∧ c.val ≤ 'z'.val ↔ 97 ≤ c.toNat ∧ c.toNat ≤ 122 := by
  simp only [ge_iff_le, UInt32.le_iff_toNat_le]
  rfl

theorem toNat_toLower (c : Char) :
    c.toLower.toNat = if 65 ≤ c.toNat ∧ c.toNat ≤ 90 then c.toNat + 32 else c.toNat := by
  split
  · rename_i hupper
    have hlower : c.toLower.toNat = (c.val + ('a'.val - 'A'.val)).toNat :=
      congrArg Char.toNat (dif_pos (upper_iff.2 hupper))
    have hc : c.val.toNat = c.toNat := rfl
    have hshift : ('a'.val - 'A'.val).toNat = 32 := rfl
    rw [hlower, UInt32.toNat_add]
    omega
  · rename_i hother
    exact congrArg Char.toNat (dif_neg fun hupper => hother (upper_iff.1 hupper))

theorem isAlpha_eq_false_iff {c : Char} :
    c.isAlpha = false ↔ ¬ (65 ≤ c.toNat ∧ c.toNat ≤ 90) ∧ ¬ (97 ≤ c.toNat ∧ c.toNat ≤ 122) := by
  have hlower : c.isLower = decide (c.val ≥ 'a'.val ∧ c.val ≤ 'z'.val) :=
    (Bool.decide_and _ _).symm
  rw [← upper_iff, ← lower_iff, ← decide_eq_false_iff_not, ← decide_eq_false_iff_not, ← hlower]
  exact Bool.or_eq_false_iff

/-- A character that is no letter is the lower case of itself alone. -/
theorem eq_of_toLower_eq {c d : Char} (hd : d.isAlpha = false) (h : c.toLower = d.toLower) :
    c = d := by
  obtain ⟨hupper, hlower⟩ := isAlpha_eq_false_iff.1 hd
  have h := congrArg Char.toNat h
  rw [toNat_toLower, toNat_toLower, if_neg hupper] at h
  apply Char.toNat_inj.1
  split at h
  · omega
  · exact h

theorem IntegerText.isAlpha {s : List Char} {i : Int} (h : IntegerText s i) :
    ∀ c ∈ s, c.isAlpha = false := by
  have hdigits {digits : List Char} (h : Digits digits) : ∀ c ∈ digits, c.isAlpha = false := by
    intro c hc
    have hdigit := h.2 c hc
    simp only [Char.isDigit, ge_iff_le, UInt32.le_iff_toNat_le, Bool.and_eq_true,
      decide_eq_true_eq] at hdigit
    have hc : c.val.toNat = c.toNat := rfl
    have hnine : '9'.val.toNat = 57 := rfl
    exact isAlpha_eq_false_iff.2 (by omega)
  cases h with
  | unsigned h => exact hdigits h
  | plus h => exact List.forall_mem_cons.2 ⟨rfl, hdigits h⟩
  | minus h => exact List.forall_mem_cons.2 ⟨rfl, hdigits h⟩

theorem map_toLower_inj {s s' : List Char} (hs : ∀ c ∈ s, c.isAlpha = false)
    (h : s'.map Char.toLower = s.map Char.toLower) : s' = s := by
  induction s generalizing s' with
  | nil => exact List.map_eq_nil_iff.1 h
  | cons d s ih =>
      obtain ⟨c, rest, rfl, hc, hrest⟩ := List.map_eq_cons_iff.1 h
      obtain ⟨hd, hs⟩ := List.forall_mem_cons.1 hs
      rw [eq_of_toLower_eq hd hc, ih hs hrest]

end TriggerScript
