import TriggerScript.Json.Render
import TriggerScript.Proofs.Decimal.Numeral
import Mathlib.Data.List.Forall2

/-!
# JSON texts

Which texts say which values: the grammar of JSON as far as programs need it that write no blanks
between tokens and small letters in escapes. The compact text of a value says that value, except
that numbers JSON has no numeral for become `null`.
-/

namespace TriggerScript.Json

open List

/-! ## The grammar -/

/-- The escapes of one letter. -/
def escapes : List (Char × Char) :=
  [('"', '"'), ('\\', '\\'), ('/', '/'), ('b', '\x08'), ('f', '\x0c'), ('n', '\n'), ('r', '\r'),
    ('t', '\t')]

/-- How a character can stand in a string: as it is, or escaped, with its code in hexadecimal. -/
inductive CharText : Char → List Char → Prop
  | plain {c : Char} : 0x20 ≤ c.toNat → c ≠ '"' → c ≠ '\\' → CharText c [c]
  | escape {c letter : Char} : (letter, c) ∈ escapes → CharText c ['\\', letter]
  | unicode {c : Char} {i j k l : Fin 16} : c.toNat = 4096 * i + 256 * j + 16 * k + l →
      CharText c ['\\', 'u', Nat.digitChar i, Nat.digitChar j, Nat.digitChar k, Nat.digitChar l]

inductive Quoted : String → List Char → Prop
  | intro {s : String} {texts : List (List Char)} : Forall₂ CharText s.toList texts →
      Quoted s ('"' :: (texts.flatten ++ ['"']))

mutual

/-- The text says the value, and nothing else is in it. A number is `int` if its text is the one of
a whole number. -/
inductive Says : Json → List Char → Prop
  | null : Says .null "null".toList
  | bool (value : Bool) : Says (.bool value) (if value then "true" else "false").toList
  | int (value : Int) : Says (.int value) (toString value).toList
  | number {text : String} : Numeral text.toList → (∀ value : ℤ, text ≠ toString value) →
      Says (.number text) text.toList
  | string {s : String} {text : List Char} : Quoted s text → Says (.string s) text
  | array {items : List Json} {texts : List (List Char)} : ItemsSay items texts →
      Says (.array items) ('[' :: ([','].intercalate texts ++ [']']))
  | object {fields : List (String × Json)} {texts : List (List Char)} : FieldsSay fields texts →
      Says (.object fields) ('\x7b' :: ([','].intercalate texts ++ ['\x7d']))

inductive ItemsSay : List Json → List (List Char) → Prop
  | nil : ItemsSay [] []
  | cons {item : Json} {items : List Json} {text : List Char} {texts : List (List Char)} :
      Says item text → ItemsSay items texts → ItemsSay (item :: items) (text :: texts)

inductive FieldsSay : List (String × Json) → List (List Char) → Prop
  | nil : FieldsSay [] []
  | cons {name : String} {value : Json} {fields : List (String × Json)}
      {nameText text : List Char} {texts : List (List Char)} : Quoted name nameText →
      Says value text → FieldsSay fields texts →
      FieldsSay ((name, value) :: fields) ((nameText ++ ':' :: text) :: texts)

end

/-! ## One line -/

theorem CharText.no_newline {c : Char} {text : List Char} (h : CharText c text) : '\n' ∉ text := by
  cases h with
  | plain hc =>
      rintro hmem
      rw [← mem_singleton.1 hmem] at hc
      exact absurd hc (by decide)
  | escape hletter =>
      simp only [escapes, mem_cons, Prod.mk.injEq, not_mem_nil, or_false] at hletter
      rcases hletter with ⟨rfl, -⟩ | ⟨rfl, -⟩ | ⟨rfl, -⟩ | ⟨rfl, -⟩ | ⟨rfl, -⟩ | ⟨rfl, -⟩ |
        ⟨rfl, -⟩ | ⟨rfl, -⟩ <;> decide
  | unicode =>
      have hdigit : ∀ i : Fin 16, '\n' ≠ Nat.digitChar i := by decide
      simp [hdigit]

theorem Quoted.no_newline {s : String} {text : List Char} (h : Quoted s text) : '\n' ∉ text := by
  obtain ⟨hchars⟩ := h
  have hflat : ∀ {content texts}, Forall₂ CharText content texts → '\n' ∉ texts.flatten := by
    intro content texts hchars
    induction hchars with
    | nil => simp
    | cons hc _ ih => simp [hc.no_newline, ih]
  simp [hflat hchars]

theorem no_newline_numeral {s : List Char} (h : Numeral s) : '\n' ∉ s :=
  fun hmem => absurd (h.chars '\n' hmem) (by decide)

/-- Lists have no newline unless their items have. -/
theorem no_newline_intercalate {texts : List (List Char)} (h : ∀ text ∈ texts, '\n' ∉ text) :
    '\n' ∉ [','].intercalate texts := by
  induction texts with
  | nil => simp
  | cons first others ih =>
      obtain ⟨hfirst, hothers⟩ := forall_mem_cons.1 h
      cases others with
      | nil => simpa using hfirst
      | cons second others =>
          rw [intercalate_cons_cons]
          simp [hfirst, ih hothers]

mutual

theorem Says.no_newline {v : Json} {s : List Char} : Says v s → '\n' ∉ s
  | .null => by simp
  | .bool value => by cases value <;> simp
  | .int value => no_newline_numeral (numeral_int value)
  | .number h _ => no_newline_numeral h
  | .string h => h.no_newline
  | .array h => by simpa using no_newline_intercalate h.no_newline
  | .object h => by simpa using no_newline_intercalate h.no_newline

theorem ItemsSay.no_newline {items : List Json} {texts : List (List Char)} :
    ItemsSay items texts → ∀ text ∈ texts, '\n' ∉ text
  | .nil => by simp
  | .cons h hs => forall_mem_cons.2 ⟨h.no_newline, hs.no_newline⟩

theorem FieldsSay.no_newline {fields : List (String × Json)} {texts : List (List Char)} :
    FieldsSay fields texts → ∀ text ∈ texts, '\n' ∉ text
  | .nil => by simp
  | .cons hname h hs =>
      forall_mem_cons.2 ⟨by simp [hname.no_newline, h.no_newline], hs.no_newline⟩

end

/-! ## Compact text -/

theorem charText_escapeChar (c : Char) : CharText c (escapeChar c).toList := by
  have hescape (letter : Char) {code : Char} (hc : c.toNat = code.toNat)
      (hmem : (letter, code) ∈ escapes) : CharText c ['\\', letter] := by
    rw [Char.toNat_inj.1 hc]
    exact .escape hmem
  unfold escapeChar
  split_ifs with hquote hbackslash hb ht hn hf hr hcontrol
  · simpa using hescape '"' (congrArg Char.toNat hquote) (by simp [escapes])
  · simpa using hescape '\\' (congrArg Char.toNat hbackslash) (by simp [escapes])
  · simpa using @hescape 'b' '\x08' hb (by simp [escapes])
  · simpa using @hescape 't' '\t' ht (by simp [escapes])
  · simpa using @hescape 'n' '\n' hn (by simp [escapes])
  · simpa using @hescape 'f' '\x0c' hf (by simp [escapes])
  · simpa using @hescape 'r' '\r' hr (by simp [escapes])
  · rw [String.toList_ofList]
    have hcode : c.toNat = 4096 * (0 : Fin 16) + 256 * (0 : Fin 16) +
        16 * (⟨c.toNat / 16, by omega⟩ : Fin 16) + (⟨c.toNat % 16, by omega⟩ : Fin 16) := by
      simp only [Fin.val_zero]
      omega
    exact .unicode hcode
  · rw [String.toList_singleton]
    exact .plain (Nat.not_lt.1 hcontrol) hquote hbackslash

theorem quoted_quote (s : String) : Quoted s (quote s).toList := by
  have htext : (quote s).toList =
      '"' :: ((s.toList.map (String.toList ∘ escapeChar)).flatten ++ ['"']) := by
    simp [quote, String.toList_join, flatMap_def]
  rw [htext]
  exact .intro (forall₂_map_right_iff.2 (forall₂_same.2 fun c _ => charText_escapeChar c))

theorem toList_compact_array (items : List Json) : (compact (.array items)).toList =
    '[' :: ([','].intercalate ((compactItems items).map String.toList) ++ [']']) := by
  simp [compact, brackets]

theorem toList_compact_object (fields : List (String × Json)) : (compact (.object fields)).toList =
    '\x7b' :: ([','].intercalate ((compactFields fields).map String.toList) ++ ['\x7d']) := by
  simp [compact, braces]

/-- Every number has a numeral, or the text that stands for none. -/
inductive Sound : Json → Prop
  | null : Sound .null
  | bool (value : Bool) : Sound (.bool value)
  | int (value : Int) : Sound (.int value)
  | number {text : String} : text = "null" ∨ Numeral text.toList → Sound (.number text)
  | string (s : String) : Sound (.string s)
  | array {items : List Json} : (∀ item ∈ items, Sound item) → Sound (.array items)
  | object {fields : List (String × Json)} : (∀ field ∈ fields, Sound field.2) →
      Sound (.object fields)

attribute [simp] Sound.null Sound.bool Sound.int Sound.string

@[simp]
theorem sound_array_iff {items : List Json} :
    (Json.array items).Sound ↔ ∀ item ∈ items, item.Sound := by
  refine ⟨fun h => ?_, .array⟩
  cases h with
  | array h => exact h

@[simp]
theorem sound_object_iff {fields : List (String × Json)} :
    (Json.object fields).Sound ↔ ∀ field ∈ fields, field.2.Sound := by
  refine ⟨fun h => ?_, .object⟩
  cases h with
  | object h => exact h

theorem exists_itemsSay {items : List Json}
    (h : ∀ item ∈ items, ∃ value, Says value item.compact.toList) :
    ∃ values, ItemsSay values ((compactItems items).map String.toList) := by
  induction items with
  | nil => exact ⟨[], .nil⟩
  | cons item items ih =>
      obtain ⟨hitem, hitems⟩ := forall_mem_cons.1 h
      obtain ⟨value, hvalue⟩ := hitem
      obtain ⟨values, hvalues⟩ := ih hitems
      exact ⟨value :: values, .cons hvalue hvalues⟩

theorem FieldsSay.cons_compact {name : String} {v value : Json}
    {fields values : List (String × Json)} (h : Says value v.compact.toList)
    (hfields : FieldsSay values ((compactFields fields).map String.toList)) :
    FieldsSay ((name, value) :: values)
      ((compactFields ((name, v) :: fields)).map String.toList) := by
  have htext : (quote name ++ ":" ++ v.compact).toList =
      (quote name).toList ++ ':' :: v.compact.toList := by simp
  rw [compactFields, map_cons, htext]
  exact .cons (quoted_quote name) h hfields

theorem exists_fieldsSay {fields : List (String × Json)}
    (h : ∀ field ∈ fields, ∃ value, Says value field.2.compact.toList) :
    ∃ values, FieldsSay values ((compactFields fields).map String.toList) := by
  induction fields with
  | nil => exact ⟨[], .nil⟩
  | cons field fields ih =>
      obtain ⟨hfield, hfields⟩ := forall_mem_cons.1 h
      obtain ⟨value, hvalue⟩ := hfield
      obtain ⟨values, hvalues⟩ := ih hfields
      exact ⟨(field.1, value) :: values, hvalues.cons_compact hvalue⟩

theorem exists_says {v : Json} (h : v.Sound) : ∃ value, Says value v.compact.toList := by
  induction h with
  | null => exact ⟨_, .null⟩
  | bool value => exact ⟨_, .bool value⟩
  | int value => exact ⟨_, .int value⟩
  | @number text h =>
      by_cases hint : ∃ value : ℤ, text = toString value
      · obtain ⟨value, rfl⟩ := hint
        exact ⟨_, .int value⟩
      · obtain rfl | h := h
        · exact ⟨_, .null⟩
        · exact ⟨_, .number h fun value htext => hint ⟨value, htext⟩⟩
  | string s => exact ⟨_, .string (quoted_quote s)⟩
  | @array items _ ih =>
      obtain ⟨values, hvalues⟩ := exists_itemsSay ih
      rw [toList_compact_array]
      exact ⟨_, .array hvalues⟩
  | @object fields _ ih =>
      obtain ⟨values, hvalues⟩ := exists_fieldsSay ih
      rw [toList_compact_object]
      exact ⟨_, .object hvalues⟩

end TriggerScript.Json
