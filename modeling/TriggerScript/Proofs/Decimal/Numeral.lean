import TriggerScript.Decimal.Layout
import Mathlib.Data.List.Basic
import Mathlib.Data.Nat.Digits.Defs

/-!
# Numerals

The form of a number in text: a sign, an integer part that does not begin with a zero unless it is
one, a fraction and a power of ten. Layouts write finite numbers in this form.
-/

namespace TriggerScript

open List

/-! ## The grammar -/

/-- A nonempty run of decimal digits. -/
def Digits (s : List Char) : Prop := s ≠ [] ∧ ∀ c ∈ s, c.isDigit = true

/-- Digits without leading zeros. -/
def Whole (s : List Char) : Prop := Digits s ∧ (s.head? = some '0' → s = ['0'])

inductive Fraction : List Char → Prop
  | none : Fraction []
  | some {digits : List Char} : Digits digits → Fraction ('.' :: digits)

inductive Exponent : List Char → Prop
  | none : Exponent []
  | some {sign digits : List Char} : sign ∈ [[], ['+'], ['-']] → Digits digits →
      Exponent ('e' :: (sign ++ digits))

inductive Magnitude : List Char → Prop
  | intro {whole fraction exponent : List Char} : Whole whole → Fraction fraction →
      Exponent exponent → Magnitude (whole ++ fraction ++ exponent)

/-- The numbers of JSON, with a small `e` before the power of ten. -/
inductive Numeral : List Char → Prop
  | positive {size : List Char} : Magnitude size → Numeral size
  | negative {size : List Char} : Magnitude size → Numeral ('-' :: size)

variable {s t : List Char}

theorem Digits.append (hs : Digits s) (ht : ∀ c ∈ t, c.isDigit = true) : Digits (s ++ t) :=
  ⟨append_ne_nil_of_left_ne_nil hs.1 t, forall_mem_append.2 ⟨hs.2, ht⟩⟩

theorem whole_zero : Whole ['0'] := ⟨⟨by simp, by simp [Char.isDigit]⟩, fun _ => rfl⟩

/-- What begins like a whole number other than zero is one, as far as the digits go. -/
theorem Whole.of_head (hs : Digits s) (hzero : s.head? ≠ some '0') : Whole s :=
  ⟨hs, fun h => absurd h hzero⟩

theorem Whole.magnitude (h : Whole s) : Magnitude s := by
  simpa using Magnitude.intro h .none .none

/-- The characters that numerals are made of. -/
def isNumeralChar (c : Char) : Bool := c.isDigit || c ∈ ['.', 'e', '+', '-']

theorem isNumeralChar_of_isDigit {c : Char} (h : c.isDigit = true) : isNumeralChar c = true := by
  simp [isNumeralChar, h]

theorem Fraction.chars (h : Fraction s) : ∀ c ∈ s, isNumeralChar c = true := by
  cases h with
  | none => simp
  | some hdigits =>
      exact forall_mem_cons.2 ⟨rfl, fun c hc => isNumeralChar_of_isDigit (hdigits.2 c hc)⟩

theorem Exponent.chars (h : Exponent s) : ∀ c ∈ s, isNumeralChar c = true := by
  cases h with
  | none => simp
  | @some sign digits hsign hdigits =>
      have hsign : ∀ c ∈ sign, isNumeralChar c = true := by
        simp only [mem_cons, not_mem_nil, or_false] at hsign
        obtain rfl | rfl | rfl := hsign <;> simp [isNumeralChar]
      exact forall_mem_cons.2 ⟨rfl, forall_mem_append.2
        ⟨hsign, fun c hc => isNumeralChar_of_isDigit (hdigits.2 c hc)⟩⟩

theorem Magnitude.chars (h : Magnitude s) : ∀ c ∈ s, isNumeralChar c = true := by
  obtain ⟨hwhole, hfraction, hexponent⟩ := h
  exact forall_mem_append.2 ⟨forall_mem_append.2
    ⟨fun c hc => isNumeralChar_of_isDigit (hwhole.1.2 c hc), hfraction.chars⟩, hexponent.chars⟩

theorem Magnitude.ne_nil (h : Magnitude s) : s ≠ [] := by
  obtain ⟨hwhole, -, -⟩ := h
  simp [hwhole.1.1]

theorem Numeral.chars (h : Numeral s) : ∀ c ∈ s, isNumeralChar c = true := by
  cases h with
  | positive hsize => exact hsize.chars
  | negative hsize => exact forall_mem_cons.2 ⟨rfl, hsize.chars⟩

theorem Numeral.ne_nil (h : Numeral s) : s ≠ [] := by
  cases h with
  | positive hsize => exact hsize.ne_nil
  | negative hsize => exact cons_ne_nil _ _

/-! ## Whole numbers -/

theorem digits_nat (n : ℕ) : Digits (toString n).toList := by
  rw [Nat.toString_eq_repr, Nat.toList_repr]
  exact ⟨Nat.toDigits_ne_nil, fun c => Nat.isDigit_of_mem_toDigits (by norm_num) (by norm_num)⟩

theorem head_toDigits {n : ℕ} (hn : n ≠ 0) : (Nat.toDigits 10 n).head? ≠ some '0' := by
  induction n using Nat.strong_induction_on with
  | _ n ih =>
      rw [Nat.toDigits_eq_if (by norm_num)]
      split
      · simpa [Nat.digitChar_eq_zero] using hn
      · rename_i hten
        rw [head?_append_of_ne_nil _ Nat.toDigits_ne_nil]
        exact ih (n / 10) (by omega) (by omega)

theorem head_nat {n : ℕ} (hn : n ≠ 0) : (toString n).toList.head? ≠ some '0' := by
  rw [Nat.toString_eq_repr, Nat.toList_repr]
  exact head_toDigits hn

theorem whole_nat (n : ℕ) : Whole (toString n).toList := by
  by_cases hn : n = 0
  · rw [hn]
    exact whole_zero
  · exact .of_head (digits_nat n) (head_nat hn)

theorem nat_inj {m n : ℕ} (h : (toString m).toList = (toString n).toList) : m = n := by
  rw [Nat.toString_eq_repr, Nat.toString_eq_repr, Nat.toList_repr, Nat.toList_repr] at h
  rw [← @Nat.ofDigitChars_toDigits 10 m (by norm_num) (by norm_num), h,
    Nat.ofDigitChars_toDigits (by norm_num) (by norm_num)]

theorem minus_ne_nat (n : ℕ) (s : List Char) : '-' :: s ≠ (toString n).toList := by
  intro h
  have hdigit := (digits_nat n).2 '-' (h ▸ mem_cons_self)
  simp [Char.isDigit] at hdigit

theorem toList_negSucc (n : ℕ) :
    (toString (Int.negSucc n)).toList = '-' :: (toString (n + 1)).toList := by
  rw [Int.toString_eq_repr, Nat.toString_eq_repr, Int.repr, String.toList_append]
  rfl

theorem numeral_int (i : ℤ) : Numeral (toString i).toList := by
  cases i with
  | ofNat n => exact .positive (whole_nat n).magnitude
  | negSucc n =>
      rw [toList_negSucc]
      exact .negative (whole_nat (n + 1)).magnitude

theorem int_inj {i j : ℤ} (h : (toString i).toList = (toString j).toList) : i = j := by
  cases i with
  | ofNat m =>
      cases j with
      | ofNat n => exact congrArg Int.ofNat (nat_inj h)
      | negSucc n =>
          rw [toList_negSucc] at h
          exact absurd h.symm (minus_ne_nat m _)
  | negSucc m =>
      rw [toList_negSucc] at h
      cases j with
      | ofNat n => exact absurd h (minus_ne_nat n _)
      | negSucc n =>
          rw [toList_negSucc] at h
          exact congrArg Int.negSucc (Nat.succ.inj (nat_inj (cons.inj h).2))

/-! ## Layouts -/

theorem toList_pushn (s : String) (c : Char) (n : ℕ) :
    (s.pushn c n).toList = s.toList ++ replicate n c := by
  induction n with
  | zero => exact (append_nil _).symm
  | succ n ih =>
      change ((s.pushn c n).push c).toList = _
      rw [String.toList_push, ih, append_assoc, replicate_succ']

theorem isDigit_of_mem_replicate {n : ℕ} : ∀ c ∈ replicate n '0', c.isDigit = true := by
  intro c hc
  rw [eq_of_mem_replicate hc]
  rfl

namespace NumberLayout

/-- The digits with zeros in front, as many as the point needs. -/
theorem toList_withPoint (digits : String) (places : ℕ) :
    (withPoint digits places).toList =
      let padded := replicate (places + 1 - digits.toList.length) '0' ++ digits.toList
      padded.take (padded.length - places) ++ '.' :: padded.drop (padded.length - places) := by
  simp only [withPoint, String.toList_append, String.toList_ofList, ← String.length_toList,
    toList_pushn, String.toList_empty, nil_append, append_assoc]
  rfl

/-- In front of a point that stands among or before the digits there is a whole number. -/
theorem whole_take_padded {digits : List Char} {places : ℕ} (h : Whole digits)
    (hplaces : 0 < places) :
    let padded := replicate (places + 1 - digits.length) '0' ++ digits
    Whole (padded.take (padded.length - places)) := by
  intro padded
  -- Padding is needed only if it leaves a single zero before the point.
  by_cases hshort : digits.length ≤ places
  · obtain ⟨missing, hmissing⟩ : ∃ n, places + 1 - digits.length = n + 1 :=
      ⟨places - digits.length, by omega⟩
    have hlen : padded.length - places = 1 := by
      simp only [padded, length_append, length_replicate]
      omega
    rw [hlen]
    simp only [padded, hmissing, replicate_succ, cons_append, take_succ_cons, take_zero]
    exact whole_zero
  · have hpadded : padded = digits := by
      simp only [padded, Nat.sub_eq_zero_of_le (Nat.lt_of_not_le hshort), replicate_zero,
        nil_append]
    rw [hpadded]
    refine .of_head ⟨?_, fun c hc => h.1.2 c (mem_of_mem_take hc)⟩ ?_
    · rw [← length_pos_iff, length_take]
      omega
    · rw [head?_take, if_neg (by omega)]
      intro hzero
      have hone := congrArg length (h.2 hzero)
      rw [length_singleton] at hone
      omega

/-- A point among digits leaves a whole part and a fraction, neither of them empty. -/
theorem withPoint_form {digits : String} {places : ℕ} (h : Whole digits.toList)
    (hplaces : 0 < places) : ∃ whole fraction, Whole whole ∧ Fraction fraction ∧
      (withPoint digits places).toList = whole ++ fraction := by
  rw [toList_withPoint]
  refine ⟨_, _, whole_take_padded h hplaces, .some ⟨?_, ?_⟩, rfl⟩
  · rw [← length_pos_iff, length_drop, length_append, length_replicate]
    omega
  · intro c hc
    exact forall_mem_append.2 ⟨isDigit_of_mem_replicate, h.1.2⟩ c (mem_of_mem_drop hc)

theorem magnitude_positionalText (l : NumberLayout) {d : Decimal}
    (h : d.digits = 0 → d.exponent = 0) : Magnitude (l.positionalText d).toList := by
  unfold positionalText
  split
  · rename_i hneg
    obtain ⟨whole, fraction, hwhole, hfraction, heq⟩ :=
      withPoint_form (whole_nat d.digits) (by omega : 0 < (-d.exponent).toNat)
    rw [heq]
    simpa using Magnitude.intro hwhole hfraction .none
  · rename_i hneg
    have hwhole : Whole ((toString d.digits).pushn '0' d.exponent.toNat).toList := by
      rw [toList_pushn]
      by_cases hd : d.digits = 0
      · rw [h hd, hd]
        exact whole_zero
      · refine .of_head ((digits_nat _).append isDigit_of_mem_replicate) ?_
        rw [head?_append_of_ne_nil _ (digits_nat _).1]
        exact head_nat hd
    rw [String.toList_append]
    split
    · have hpoint : Fraction ['.', '0'] := .some whole_zero.1
      simpa using Magnitude.intro hwhole hpoint .none
    · simpa using hwhole.magnitude

theorem magnitude_exponentText (d : Decimal) : Magnitude (exponentText d).toList := by
  have hdigits : Whole (toString d.digits).toList := whole_nat d.digits
  simp only [exponentText]
  generalize toString d.digits = digits at hdigits ⊢
  generalize d.exponent + ↑(digits.length - 1) = exponent
  have hpower : Exponent
      ('e' :: ((if exponent < 0 then "-" else "+").toList ++ (toString exponent.natAbs).toList)) :=
    .some (by split <;> simp) (digits_nat _)
  obtain ⟨whole, fraction, hwhole, hfraction, hmantissa⟩ : ∃ whole fraction, Whole whole ∧
      Fraction fraction ∧ (if digits.length = 1 then digits
        else withPoint digits (digits.length - 1)).toList = whole ++ fraction := by
    split
    · exact ⟨_, [], hdigits, .none, (append_nil _).symm⟩
    · rename_i hone
      have hpos := length_pos_iff.2 hdigits.1.1
      rw [String.length_toList] at hpos
      exact withPoint_form hdigits (by omega)
  have htext := Magnitude.intro hwhole hfraction hpower
  rw [← hmantissa] at htext
  simpa using htext

theorem magnitude_decimalText (l : NumberLayout) {d : Decimal}
    (h : d.digits = 0 → d.exponent = 0) : Magnitude (l.decimalText d).toList := by
  unfold decimalText
  split
  · exact l.magnitude_positionalText h
  · exact magnitude_exponentText d

end NumberLayout

/-! ## Shortest decimals -/

namespace Decimal

/-- Nothing reads back as a positive number that is not positive itself. -/
theorem Interval.not_contains_zero {i : Interval} (hlow : 0 < i.low) (hhigh : 0 < i.high) {d : ℕ}
    (hd : 0 < d) : i.contains 0 d = false := by
  have hlow := Nat.mul_pos hlow hd
  have hhigh := Nat.mul_pos hhigh hd
  simp only [contains, Nat.zero_mul]
  simp [hlow.ne, hhigh.ne]

theorem digits_of_onGrid {i : Interval} (hlow : 0 < i.low) (hhigh : 0 < i.high) {tie : Tie} {k : ℤ}
    {d : Decimal} (h : i.onGrid tie k = some d) : d.digits ≠ 0 := by
  have hdown : 0 < Nat.pow 10 (-k).toNat := Nat.pow_pos (by norm_num)
  simp only [Interval.onGrid, Option.map_eq_some_iff] at h
  obtain ⟨upper, hupper, rfl⟩ := h
  cases upper with
  | true => simp
  | false =>
      generalize hbelow :
        i.value * Nat.pow 10 (-k).toNat / (i.unit * Nat.pow 10 k.toNat) = below at hupper ⊢
      rintro (hzero : below = 0)
      rw [hzero, Nat.zero_mul, Interval.not_contains_zero hlow hhigh hdown] at hupper
      split at hupper <;> simp_all

theorem exponent_of_shortest (f : FloatFormat) (tie : Tie) {m : ℕ} (hm : m ≠ 0) (q : ℤ)
    (h : (shortest f tie m q).digits = 0) : (shortest f tie m q).exponent = 0 := by
  have hscale : 0 < Nat.pow 2 (q - 2).toNat := Nat.pow_pos (by norm_num)
  have hlow : 0 < (Interval.around f m q).low := by
    refine Nat.mul_pos ?_ hscale
    split <;> omega
  have hhigh : 0 < (Interval.around f m q).high := Nat.mul_pos (by omega) hscale
  unfold shortest at h ⊢
  simp only at h ⊢
  generalize hgrid : List.findSome? _ _ = found at h ⊢
  cases found with
  | none => rfl
  | some d =>
      obtain ⟨k, -, hk⟩ := exists_of_findSome?_eq_some hgrid
      exact absurd h (digits_of_onGrid hlow hhigh hk)

end Decimal

/-- Finite numbers are written as numerals. -/
theorem NumberLayout.numeral_text (l : NumberLayout) (f : FloatFormat) (negative : Bool) (m : ℕ)
    (q : ℤ) : Numeral (l.text f (.finite negative m q)).toList := by
  have hsize : Magnitude (if m = 0 then l.positionalText ⟨0, 0⟩
      else l.decimalText (Decimal.shortest f l.tie m q)).toList := by
    split
    · exact l.magnitude_positionalText fun _ => rfl
    · rename_i hm
      exact l.magnitude_decimalText (Decimal.exponent_of_shortest f l.tie hm q)
  cases negative with
  | false => exact .positive hsize
  | true =>
      rw [text, if_pos rfl, String.toList_append]
      exact .negative hsize

end TriggerScript
