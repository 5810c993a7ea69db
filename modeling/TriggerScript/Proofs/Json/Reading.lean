import TriggerScript.Proofs.Json.Grammar
import TriggerScript.Proofs.Text.Legible

/-!
# Reading JSON texts

No text says two values. The first character tells the form of the value, and then every part of it
tells where it ends: strings by their quote, arrays and objects by their brackets, and numerals by
what may come behind a value.
-/

namespace TriggerScript.Json

open List

/-! ## Strings -/

theorem escapes_functional {letter c d : Char} (hc : (letter, c) ∈ escapes)
    (hd : (letter, d) ∈ escapes) : c = d := by
  have hall : ∀ e ∈ escapes, ∀ f ∈ escapes, e.1 = f.1 → e.2 = f.2 := by decide
  exact hall _ hc _ hd rfl

theorem not_u_escapes {c : Char} : ('u', c) ∉ escapes := by simp [escapes]

theorem digitChar_inj {i j : Fin 16} (h : Nat.digitChar i = Nat.digitChar j) : i = j := by
  revert i j
  decide

theorem CharText.told {c : Char} {s : List Char} (h : CharText c s) :
    Told CharText (fun _ => True) c s := by
  rintro d t q r hd - - heq
  cases h with
  | plain _ _ hbackslash =>
      cases hd with
      | plain => exact cons.inj heq
      | escape => exact absurd (cons.inj heq).1 hbackslash
      | unicode => exact absurd (cons.inj heq).1 hbackslash
  | escape hletter =>
      cases hd with
      | plain _ _ hbackslash => exact absurd (cons.inj heq).1.symm hbackslash
      | escape hletter' =>
          obtain ⟨rfl, rfl⟩ := cons.inj (cons.inj heq).2
          exact ⟨escapes_functional hletter hletter', rfl⟩
      | unicode =>
          obtain ⟨rfl, -⟩ := cons.inj (cons.inj heq).2
          exact absurd hletter not_u_escapes
  | unicode hcode =>
      cases hd with
      | plain _ _ hbackslash => exact absurd (cons.inj heq).1.symm hbackslash
      | escape hletter =>
          obtain ⟨rfl, -⟩ := cons.inj (cons.inj heq).2
          exact absurd hletter not_u_escapes
      | unicode hcode' =>
          simp only [cons_append, nil_append, cons.injEq, true_and] at heq
          obtain ⟨hi, hj, hk, hl, rfl⟩ := heq
          rw [digitChar_inj hi, digitChar_inj hj, digitChar_inj hk, digitChar_inj hl] at hcode
          exact ⟨Char.toNat_inj.1 (hcode.trans hcode'.symm), rfl⟩

theorem CharText.head_ne {c : Char} {s t u : List Char} (h : CharText c s) :
    s ++ t ≠ '"' :: u := by
  cases h with
  | plain _ hquote _ => exact fun heq => hquote (cons.inj heq).1
  | escape => exact nofun
  | unicode => exact nofun

/-- Characters up to a quote. -/
theorem charTexts_told {cs ds : List Char} {ss ts : List (List Char)} (h : Forall₂ CharText cs ss)
    (hd : Forall₂ CharText ds ts) {q r : List Char}
    (heq : ss.flatten ++ '"' :: q = ts.flatten ++ '"' :: r) : cs = ds ∧ q = r := by
  induction h generalizing ds ts with
  | nil =>
      cases hd with
      | nil => exact ⟨rfl, (cons.inj heq).2⟩
      | cons hd _ =>
          rw [flatten_cons, append_assoc] at heq
          exact absurd heq.symm hd.head_ne
  | cons hc _ ih =>
      cases hd with
      | nil =>
          rw [flatten_cons, append_assoc] at heq
          exact absurd heq hc.head_ne
      | cons hd hds =>
          rw [flatten_cons, flatten_cons, append_assoc, append_assoc] at heq
          obtain ⟨rfl, hrest⟩ := hc.told hd trivial trivial heq
          obtain ⟨rfl, rfl⟩ := ih hds hrest
          exact ⟨rfl, rfl⟩

theorem Quoted.told {s : String} {text : List Char} (h : Quoted s text) :
    Told Quoted (fun _ => True) s text := by
  rintro t text' q r ⟨ht⟩ - - heq
  obtain ⟨hs⟩ := h
  simp only [cons_append, append_assoc, nil_append, cons.injEq, true_and] at heq
  obtain ⟨hchars, rfl⟩ := charTexts_told hs ht heq
  exact ⟨String.toList_inj.1 hchars, rfl⟩

/-! ## Forms -/

inductive Form
  | null
  | bool (value : Bool)
  | numeral
  | string
  | array
  | object

def form : Json → Form
  | .null => .null
  | .bool value => .bool value
  | .int _ | .number _ => .numeral
  | .string _ => .string
  | .array _ => .array
  | .object _ => .object

/-- The form of the values that begin with the character. -/
def formOf? (c : Char) : Option Form :=
  if isNumeralChar c then some .numeral
  else if c = 'n' then some .null
  else if c = 't' then some (.bool true)
  else if c = 'f' then some (.bool false)
  else if c = '"' then some .string
  else if c = '[' then some .array
  else if c = '\x7b' then some .object
  else none

variable {v w : Json} {s t q r : List Char}

theorem head_numeral (h : Numeral s) : s.head?.bind formOf? = some .numeral := by
  obtain ⟨c, s, rfl⟩ := exists_cons_of_ne_nil h.ne_nil
  exact if_pos (h.chars c mem_cons_self)

theorem Says.head (h : Says v s) : s.head?.bind formOf? = some v.form := by
  cases h with
  | null => rfl
  | bool value => cases value <;> rfl
  | int value => exact head_numeral (numeral_int value)
  | number h _ => exact head_numeral h
  | string h =>
      cases h
      rfl
  | array => rfl
  | object => rfl

theorem Says.head_append (h : Says v s) : (s ++ q).head?.bind formOf? = some v.form := by
  cases s with
  | nil => cases h.head
  | cons c s => exact h.head

theorem Says.form_eq (hv : Says v s) (hw : Says w t) (heq : s ++ q = t ++ r) : v.form = w.form := by
  have hhead := hv.head_append (q := q)
  rw [heq, hw.head_append] at hhead
  exact (Option.some.inj hhead).symm

/-! ## Values -/

/-- What may come behind a value. -/
def Closes (r : List Char) : Prop := r = [] ∨ Begins [',', ']', '\x7d'] r

theorem numeral_told (hs : Numeral s) (ht : Numeral t) (hq : Closes q) (hr : Closes r)
    (heq : s ++ q = t ++ r) : s = t ∧ q = r := by
  have hstop {r : List Char} (h : Closes r) : ∀ c ∈ r.head?, isNumeralChar c = false := by
    rintro c hc
    obtain rfl | ⟨d, r, rfl, hd⟩ := h
    · cases hc
    · obtain rfl := Option.some.inj hc
      simp only [mem_cons, not_mem_nil, or_false] at hd
      obtain rfl | rfl | rfl := hd <;> rfl
  exact append_inj_of_head hs.chars ht.chars (hstop hq) (hstop hr) heq

/-- A field of an object, and its text. -/
inductive FieldSays : String × Json → List Char → Prop
  | intro {name : String} {value : Json} {nameText text : List Char} : Quoted name nameText →
      Says value text → FieldSays (name, value) (nameText ++ ':' :: text)

theorem ItemsSay.forall₂ {items : List Json} {texts : List (List Char)} (h : ItemsSay items texts) :
    Forall₂ Says items texts := by
  induction items generalizing texts with
  | nil =>
      cases h
      exact .nil
  | cons item items ih =>
      cases h with
      | cons h hs => exact .cons h (ih hs)

theorem FieldsSay.forall₂ {fields : List (String × Json)} {texts : List (List Char)}
    (h : FieldsSay fields texts) : Forall₂ FieldSays fields texts := by
  induction fields generalizing texts with
  | nil =>
      cases h
      exact .nil
  | cons field fields ih =>
      cases h with
      | cons hname h hs => exact .cons (.intro hname h) (ih hs)

theorem FieldSays.told {name : String} {value : Json} {nameText text : List Char}
    (hname : Quoted name nameText) (h : Told Says Closes value text) :
    Told FieldSays Closes (name, value) (nameText ++ ':' :: text) := by
  rintro - - q r ⟨hname', h'⟩ hq hr heq
  rw [append_assoc, append_assoc] at heq
  obtain ⟨rfl, hrest⟩ := hname.told hname' trivial trivial heq
  obtain ⟨rfl, rfl⟩ := h h' hq hr (cons.inj hrest).2
  exact ⟨rfl, rfl⟩

theorem closes_comma (r : List Char) : Closes ([','] ++ r) := .inr ⟨',', r, rfl, by simp⟩

theorem items_told {items items' : List Json} {texts texts' : List (List Char)}
    (h : Forall₂ (Told Says Closes) items texts) (hs : ItemsSay items texts)
    (hs' : ItemsSay items' texts')
    (heq : [','].intercalate texts ++ ']' :: q = [','].intercalate texts' ++ ']' :: r) :
    items = items' ∧ q = r := by
  refine Told.enclosed h hs.forall₂ hs'.forall₂ ?_ closes_comma
    (fun r => ⟨.inr ⟨']', r, rfl, by simp⟩, nofun⟩) heq
  intro item text u v hitem hclose
  have hhead := hitem.head_append (q := u)
  rw [hclose] at hhead
  cases hhead

theorem fields_told {fields fields' : List (String × Json)} {texts texts' : List (List Char)}
    (h : Forall₂ (Told FieldSays Closes) fields texts) (hs : FieldsSay fields texts)
    (hs' : FieldsSay fields' texts')
    (heq : [','].intercalate texts ++ '\x7d' :: q = [','].intercalate texts' ++ '\x7d' :: r) :
    fields = fields' ∧ q = r := by
  refine Told.enclosed h hs.forall₂ hs'.forall₂ ?_ closes_comma
    (fun r => ⟨.inr ⟨'\x7d', r, rfl, by simp⟩, nofun⟩) heq
  rintro - - u v ⟨⟨-⟩, -⟩
  exact nofun

mutual

theorem Says.told {v : Json} {s : List Char} : Says v s → Told Says Closes v s
  | .null => by
      intro w t q r hw hq hr heq
      have hform := Says.null.form_eq hw heq
      cases hw with
      | null => exact ⟨rfl, append_cancel_left heq⟩
      | _ => cases hform
  | .bool value => by
      intro w t q r hw hq hr heq
      have hform := (Says.bool value).form_eq hw heq
      cases hw with
      | bool =>
          cases hform
          exact ⟨rfl, append_cancel_left heq⟩
      | _ => cases hform
  | .int value => by
      intro w t q r hw hq hr heq
      have hform := (Says.int value).form_eq hw heq
      cases hw with
      | int value' =>
          obtain ⟨htext, rfl⟩ := numeral_told (numeral_int value) (numeral_int value') hq hr heq
          exact ⟨congrArg _ (int_inj htext), rfl⟩
      | number h hwhole =>
          -- The form is the same: only the text tells whole numbers from others.
          obtain ⟨htext, -⟩ := numeral_told (numeral_int value) h hq hr heq
          exact absurd (String.toList_inj.1 htext).symm (hwhole value)
      | _ => cases hform
  | .number h hwhole => by
      intro w t q r hw hq hr heq
      have hform := (Says.number h hwhole).form_eq hw heq
      cases hw with
      | int value =>
          obtain ⟨htext, -⟩ := numeral_told h (numeral_int value) hq hr heq
          exact absurd (String.toList_inj.1 htext) (hwhole value)
      | number h' =>
          obtain ⟨htext, rfl⟩ := numeral_told h h' hq hr heq
          exact ⟨congrArg _ (String.toList_inj.1 htext), rfl⟩
      | _ => cases hform
  | .string h => by
      intro w t q r hw hq hr heq
      have hform := (Says.string h).form_eq hw heq
      cases hw with
      | string h' =>
          obtain ⟨rfl, rfl⟩ := h.told h' trivial trivial heq
          exact ⟨rfl, rfl⟩
      | _ => cases hform
  | .array h => by
      intro w t q r hw hq hr heq
      have hform := (Says.array h).form_eq hw heq
      cases hw with
      | array h' =>
          simp only [cons_append, append_assoc, nil_append, cons.injEq, true_and] at heq
          obtain ⟨rfl, rfl⟩ := items_told h.told h h' heq
          exact ⟨rfl, rfl⟩
      | _ => cases hform
  | .object h => by
      intro w t q r hw hq hr heq
      have hform := (Says.object h).form_eq hw heq
      cases hw with
      | object h' =>
          simp only [cons_append, append_assoc, nil_append, cons.injEq, true_and] at heq
          obtain ⟨rfl, rfl⟩ := fields_told h.told h h' heq
          exact ⟨rfl, rfl⟩
      | _ => cases hform

theorem ItemsSay.told {items : List Json} {texts : List (List Char)} :
    ItemsSay items texts → Forall₂ (Told Says Closes) items texts
  | .nil => .nil
  | .cons h hs => .cons h.told hs.told

theorem FieldsSay.told {fields : List (String × Json)} {texts : List (List Char)} :
    FieldsSay fields texts → Forall₂ (Told FieldSays Closes) fields texts
  | .nil => .nil
  | .cons hname h hs => .cons (FieldSays.told hname h.told) hs.told

end

/-- A text says one value at most. -/
theorem Says.unique (hv : Says v s) (hw : Says w s) : v = w :=
  (hv.told hw (.inl rfl) (.inl rfl) rfl).1

end TriggerScript.Json
