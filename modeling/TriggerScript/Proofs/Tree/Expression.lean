import TriggerScript.Proofs.Decimal.Numeral
import TriggerScript.Proofs.Text.Legible
import TriggerScript.Tree.Text

/-!
# Reading trigger expressions

An expression says what it shows: its clauses, the conditions in them, and for each condition the
texts of its type and its parameters. Every part is written so that its end can be found in the text
that follows it, and what comes next is told by the first character.
-/

namespace TriggerScript

open List

/-! ## Texts of parameters -/

/-- A name or a number, which has none of the marks that expressions are divided by. -/
def Word (s : List Char) : Prop := s ≠ [] ∧ Disjoint s ['"', '(', ')', ',']

/-- A word, or anything between quotes or parentheses but what closes them. -/
inductive Lexeme : List Char → Prop
  | word {s : List Char} : Word s → Lexeme s
  | fenced {s : List Char} {left right : Char} : (left, right) ∈ [('"', '"'), ('(', ')')] →
      right ∉ s → Lexeme (left :: (s ++ [right]))

namespace Lexeme

variable {a b r s : List Char}

theorem head_of_word (h : Word a) {c : Char} (hc : c ∈ ['"', '(', ')', ',']) {t : List Char} :
    a ++ r ≠ c :: t := by
  obtain ⟨d, a, rfl⟩ := exists_cons_of_ne_nil h.1
  rintro ⟨⟩
  exact h.2 mem_cons_self hc

theorem left_mem {left right : Char} (h : (left, right) ∈ [('"', '"'), ('(', ')')]) :
    left ∈ ['"', '(', ')', ','] := by
  simp only [mem_cons, Prod.mk.injEq, not_mem_nil, or_false] at h ⊢
  tauto

theorem head_ne (h : Lexeme a) {t : List Char} : a ++ r ≠ ')' :: t := by
  cases h with
  | word h => exact head_of_word h (by simp)
  | fenced hfence =>
      rintro ⟨⟩
      simp at hfence

theorem right_unique {left right right' : Char} (h : (left, right) ∈ [('"', '"'), ('(', ')')])
    (h' : (left, right') ∈ [('"', '"'), ('(', ')')]) : right = right' := by
  simp only [mem_cons, Prod.mk.injEq, not_mem_nil, or_false] at h h'
  obtain ⟨rfl, rfl⟩ | ⟨rfl, rfl⟩ := h <;> simp_all

/-- A word ends where a comma or a parenthesis comes, all others where they are closed. -/
theorem append_inj (ha : Lexeme a) (hb : Lexeme b) (hr : Begins [',', ')'] r)
    (hs : Begins [',', ')'] s) (h : a ++ r = b ++ s) : a = b ∧ r = s := by
  cases ha with
  | word ha =>
      cases hb with
      | word hb =>
          have hsubset : ∀ c ∈ [',', ')'], c ∈ ['"', '(', ')', ','] := by simp
          obtain ⟨c, t, rfl, hc⟩ := hr
          obtain ⟨d, u, rfl, hd⟩ := hs
          obtain ⟨rfl, rfl, rfl⟩ :=
            append_cons_inj ha.2 hb.2 (hsubset c hc) (hsubset d hd) h
          exact ⟨rfl, rfl⟩
      | fenced hfence' => exact absurd h (head_of_word ha (left_mem hfence'))
  | fenced hfence hright =>
      cases hb with
      | word hb => exact absurd h.symm (head_of_word hb (left_mem hfence))
      | fenced hfence' hright' =>
          simp only [cons_append, append_assoc, nil_append, cons.injEq] at h
          obtain ⟨rfl, h⟩ := h
          obtain rfl := right_unique hfence hfence'
          obtain ⟨rfl, -, rfl⟩ := append_cons_inj (disjoint_singleton.2 hright)
            (disjoint_singleton.2 hright') mem_cons_self mem_cons_self h
          exact ⟨rfl, rfl⟩

end Lexeme

/-! ## Expressions -/

/-- A condition as it is shown. -/
@[ext]
structure Atom where
  name : String
  arguments : List String
  deriving DecidableEq

/-- A disjunction of conjunctions of conditions. -/
abbrev Expression := List (List Atom)

namespace Atom

def Plain (a : Atom) : Prop := '(' ∉ a.name.toList ∧ ∀ p ∈ a.arguments, Lexeme p.toList

def argumentsText (arguments : List String) : List Char :=
  ", ".toList.intercalate (arguments.map String.toList)

def text (a : Atom) : List Char := a.name.toList ++ '(' :: (argumentsText a.arguments ++ [')'])

theorem legible_arguments :
    Legible argumentsText (fun arguments => ∀ p ∈ arguments, Lexeme p.toList) (Begins [')']) := by
  have hlexeme : Legible String.toList (fun p => Lexeme p.toList) (Begins [',', ')']) := by
    intro p p' r s hp hp' hr hs heq
    obtain ⟨htext, hrest⟩ := hp.append_inj hp' hr hs heq
    exact ⟨String.toList_inj.1 htext, hrest⟩
  refine (hlexeme.separated (fun r => ⟨',', ' ' :: r, rfl, by simp⟩) ?_).orEmpty ?_
  · rintro r ⟨c, t, rfl, hc⟩
    obtain rfl := mem_singleton.1 hc
    exact ⟨⟨')', t, rfl, by simp⟩, nofun⟩
  · rintro as r s hne has ⟨c, t, rfl, hc⟩
    obtain rfl := mem_singleton.1 hc
    obtain ⟨p, as, rfl⟩ := exists_cons_of_ne_nil hne
    obtain ⟨u, hu⟩ := exists_intercalate_cons ", ".toList p.toList (as.map String.toList)
    rw [map_cons, hu, append_assoc]
    exact (has p mem_cons_self).head_ne

theorem legible : Legible text Plain fun _ => True := by
  intro a b r s ha hb _ _ heq
  simp only [text, append_assoc, cons_append, nil_append] at heq
  obtain ⟨hname, -, hrest⟩ := append_cons_inj (disjoint_singleton.2 ha.1)
    (disjoint_singleton.2 hb.1) mem_cons_self mem_cons_self heq
  obtain ⟨harguments, hrest⟩ := legible_arguments ha.2 hb.2 ⟨')', r, rfl, mem_cons_self⟩
    ⟨')', s, rfl, mem_cons_self⟩ hrest
  exact ⟨Atom.ext (String.toList_inj.1 hname) harguments, (cons.inj hrest).2⟩

end Atom

/-- A conjunction in parentheses, and the word for the empty one. -/
def clauseText : List Atom → List Char
  | [] => "TRUE".toList
  | atoms => '(' :: (" AND ".toList.intercalate (atoms.map Atom.text) ++ [')'])

theorem legible_clauseText :
    Legible clauseText (fun atoms => ∀ a ∈ atoms, a.Plain) fun _ => True := by
  have hlist : Legible (fun as => " AND ".toList.intercalate (as.map Atom.text))
      (fun as => as ≠ [] ∧ ∀ a ∈ as, a.Plain) (Begins [')']) := by
    refine Atom.legible.separated (fun _ => trivial) ?_
    rintro r ⟨c, t, rfl, hc⟩
    obtain rfl := mem_singleton.1 hc
    exact ⟨trivial, nofun⟩
  refine Legible.orEmpty ?_ ?_
  · rintro (_ | ⟨a, as⟩) (_ | ⟨b, bs⟩) r s has hbs - - heq
    · exact absurd rfl has.1
    · exact absurd rfl has.1
    · exact absurd rfl hbs.1
    · simp only [clauseText, cons_append, append_assoc, nil_append, cons.injEq, true_and] at heq
      obtain ⟨hatoms, hrest⟩ := hlist has hbs ⟨')', r, rfl, mem_cons_self⟩
        ⟨')', s, rfl, mem_cons_self⟩ heq
      exact ⟨hatoms, (cons.inj hrest).2⟩
  · rintro (_ | ⟨a, as⟩) r s hne - -
    · exact absurd rfl hne
    · simp [clauseText]

theorem head_clauseText (atoms : List Atom) : Begins ['T', '('] (clauseText atoms) := by
  cases atoms with
  | nil => exact ⟨'T', _, rfl, by simp⟩
  | cons a as => exact ⟨'(', _, rfl, by simp⟩

namespace Expression

def Plain (e : Expression) : Prop := ∀ atoms ∈ e, ∀ a ∈ atoms, a.Plain

def text : Expression → List Char
  | [] => "FALSE".toList
  | clauses => " OR ".toList.intercalate (clauses.map clauseText)

theorem legible : Legible text Plain (· = []) := by
  have hlist : Legible (fun as => " OR ".toList.intercalate (as.map clauseText))
      (fun as => as ≠ [] ∧ ∀ clause ∈ as, ∀ a ∈ clause, a.Plain) (· = []) := by
    refine legible_clauseText.separated (fun _ => trivial) ?_
    rintro r rfl
    exact ⟨trivial, nofun⟩
  refine Legible.orEmpty ?_ ?_
  · rintro (_ | ⟨a, as⟩) (_ | ⟨b, bs⟩) r s has hbs hr hs heq
    · exact absurd rfl has.1
    · exact absurd rfl has.1
    · exact absurd rfl hbs.1
    · exact hlist has hbs hr hs heq
  · rintro (_ | ⟨clause, clauses⟩) r s hne - - heq
    · exact absurd rfl hne
    · obtain ⟨u, hu⟩ := exists_intercalate_cons " OR ".toList (clauseText clause)
        (clauses.map clauseText)
      obtain ⟨c, t, hclause, hc⟩ := head_clauseText clause
      rw [show text (clause :: clauses) = clauseText clause ++ u from hu, hclause] at heq
      have hfirst : c = 'F' := by simpa [text] using congrArg head? heq
      simp [hfirst] at hc

end Expression

/-! ## What is shown -/

def Condition.shown (names : TypeNames) (c : Condition) : Atom :=
  ⟨typeText names c.type, c.params.map Parameter.render⟩

def Trigger.shown (names : TypeNames) (t : Trigger) : Expression :=
  t.clauses.map fun c => c.conditions.map (Condition.shown names)

theorem Condition.toList_render (names : TypeNames) (c : Condition) :
    (c.render names).toList = (c.shown names).text := by
  simp only [render, shown, Atom.text, Atom.argumentsText, String.toList_append,
    String.toList_intercalate, append_assoc]
  rfl

theorem Clause.toList_render (names : TypeNames) (c : Clause) :
    (c.render names).toList = clauseText (c.conditions.map (Condition.shown names)) := by
  obtain ⟨_ | ⟨first, others⟩⟩ := c
  · rfl
  · have hatoms : ((first :: others).map (Condition.render names)).map String.toList =
        ((first :: others).map (Condition.shown names)).map Atom.text := by
      rw [map_map, map_map]
      exact map_congr_left fun c _ => c.toList_render names
    simp only [render, isVacuous, isEmpty_cons, Bool.false_eq_true, ↓reduceIte,
      String.toList_append, String.toList_intercalate, hatoms, append_assoc]
    rfl

theorem Trigger.toList_render (names : TypeNames) (t : Trigger) :
    (t.render names).toList = (t.shown names).text := by
  obtain ⟨_ | ⟨first, others⟩⟩ := t
  · rfl
  · have hclauses : ((first :: others).map (Clause.render names)).map String.toList =
        ((first :: others).map fun c => c.conditions.map (Condition.shown names)).map
          clauseText := by
      rw [map_map, map_map]
      exact map_congr_left fun c _ => c.toList_render names
    simp only [render, isEmpty_cons, Bool.false_eq_true, ↓reduceIte, String.toList_intercalate,
      hclauses]
    rfl

/-! ## Texts of values -/

theorem Numeral.word {s : List Char} (h : Numeral s) : Word s := by
  refine ⟨h.ne_nil, fun c hc hmark => ?_⟩
  have hchar := h.chars c hc
  simp only [mem_cons, not_mem_nil, or_false] at hmark
  obtain rfl | rfl | rfl | rfl := hmark <;> simp [isNumeralChar, Char.isDigit] at hchar

theorem Word.append {s t : List Char} (hs : Word s) (ht : Word t) : Word (s ++ t) :=
  ⟨append_ne_nil_of_left_ne_nil hs.1 t, disjoint_append_left.2 ⟨hs.2, ht.2⟩⟩

theorem Single.word_plainText (x : Single) : Word x.plainText.toList := by
  unfold plainText
  cases x.value with
  | nan => simp [Word, NumberLayout.text, NumberLayout.plain]
  | infinite negative => cases negative <;> simp [Word, NumberLayout.text, NumberLayout.plain]
  | finite negative m q => exact (NumberLayout.plain.numeral_text .single negative m q).word

theorem word_comparisonSign {code : Int32} {sign : String} (h : comparisonSign? code = some sign) :
    Word sign.toList := by
  have hsigns : sign ∈ ["<", "<=", "==", ">=", ">", "!="] := by
    unfold comparisonSign? at h
    split_ifs at h <;> simp_all
  simp only [mem_cons, not_mem_nil, or_false] at hsigns
  obtain rfl | rfl | rfl | rfl | rfl | rfl := hsigns <;> simp [Word]

theorem Coord.lexeme_render (c : Coord) : Lexeme c.render.toList := by
  have htext : c.render.toList = '(' :: (c.x.plainText.toList ++ ", ".toList ++
      c.y.plainText.toList ++ ", ".toList ++ c.z.plainText.toList ++ [')']) := by
    change ("(" ++ c.x.plainText ++ ", " ++ c.y.plainText ++ ", " ++ c.z.plainText ++
      ")").toList = _
    simp
  have hclose (x : Single) : ')' ∉ x.plainText.toList := fun h => x.word_plainText.2 h (by simp)
  rw [htext]
  exact .fenced (by simp) (by simp [hclose])

/-- The text of the parameter is not what is shown, or has no quote in it. -/
def Parameter.Unquoted (p : Parameter) : Prop :=
  p.kind = .coord3d ∨ p.kind.isIntegral = true ∨ p.kind.isReal = true ∨ '"' ∉ p.text.toList

/-- Texts without quotes are shown between quotes, everything else is a word or a coordinate. -/
theorem Parameter.lexeme_render {p : Parameter} (h : p.Unquoted) : Lexeme p.render.toList := by
  have hint : Word (toString p.int).toList := (numeral_int p.int.toInt).word
  unfold render
  split
  · exact p.coord.lexeme_render
  · refine .word ?_
    split <;> simp [Word]
  · refine .word ?_
    cases hsign : comparisonSign? p.int with
    | some sign => exact word_comparisonSign hsign
    | none =>
        have htext : s!"cmp#{p.int}".toList = "cmp#".toList ++ (toString p.int).toList := by
          rw [← String.toList_append]
          rfl
        rw [Option.getD_none, htext]
        exact Word.append (by simp [Word]) hint
  · rename_i hcoord _ _
    split
    · exact .word hint
    · rename_i hintegral
      split
      · exact .word p.real.word_plainText
      · rename_i hreal
        have hquote := ((h.resolve_left hcoord).resolve_left hintegral).resolve_left hreal
        have htext : ("\"" ++ p.text ++ "\"").toList = '"' :: (p.text.toList ++ ['"']) := by simp
        rw [htext]
        exact .fenced (by simp) hquote

/-! ## Reading expressions back -/

/-- No text that is shown has a quote in it. -/
def Trigger.Unquoted (t : Trigger) : Prop :=
  ∀ clause ∈ t.clauses, ∀ c ∈ clause.conditions, ∀ p ∈ c.params, p.Unquoted

def Trigger.types (t : Trigger) : List (List Int32) :=
  t.clauses.map fun c => c.conditions.map (·.type)

/-- Names that show where the parameters begin. -/
def TypeNames.Open (names : TypeNames) : Prop :=
  ∀ type name, names type = some name → '(' ∉ name.toList

theorem typeText_noNames (type : Int32) :
    (Condition.typeText noNames type).toList = '#' :: (toString type.toInt).toList := by
  change ("#" ++ toString type.toInt).toList = _
  simp

theorem typeText_noNames_inj {a b : Int32}
    (h : Condition.typeText noNames a = Condition.typeText noNames b) : a = b := by
  have htags := congrArg String.toList h
  rw [typeText_noNames, typeText_noNames] at htags
  exact Int32.toInt_inj.1 (int_inj (cons.inj htags).2)

theorem TypeNames.Open.typeText {names : TypeNames} (h : names.Open) (type : Int32) :
    '(' ∉ (Condition.typeText names type).toList := by
  cases hname : names type with
  | some name =>
      rw [Condition.typeText, hname]
      exact h type name hname
  | none =>
      have htag : Condition.typeText names type = Condition.typeText noNames type := by
        rw [Condition.typeText, hname]
        rfl
      rw [htag, typeText_noNames]
      exact not_mem_cons_of_ne_of_not_mem (by decide)
        fun hmem => (numeral_int type.toInt).word.2 hmem (by simp)

namespace Trigger

variable {names : TypeNames} {t u : Trigger}

theorem plain_shown (hnames : names.Open) (h : t.Unquoted) : (t.shown names).Plain := by
  intro atoms hatoms a ha
  obtain ⟨clause, hclause, rfl⟩ := mem_map.1 hatoms
  obtain ⟨c, hc, rfl⟩ := mem_map.1 ha
  refine ⟨hnames.typeText c.type, fun text htext => ?_⟩
  obtain ⟨p, hp, rfl⟩ := mem_map.1 htext
  exact p.lexeme_render (h clause hclause c hc p hp)

theorem shown_eq_of_render (hnames : names.Open) (ht : t.Unquoted) (hu : u.Unquoted)
    (h : t.render names = u.render names) : t.shown names = u.shown names := by
  have htext : (t.shown names).text ++ [] = (u.shown names).text ++ [] := by
    rw [← toList_render, ← toList_render, h]
  exact (Expression.legible (plain_shown hnames ht) (plain_shown hnames hu) rfl rfl htext).1

theorem types_eq_of_shown (h : t.shown noNames = u.shown noNames) : t.types = u.types := by
  obtain ⟨tag, htag⟩ := Function.Injective.hasLeftInverse @typeText_noNames_inj
  have htypes (t : Trigger) :
      t.types = (t.shown noNames).map fun atoms => atoms.map fun a => tag a.name := by
    simp [types, shown, Condition.shown, htag _]
  rw [htypes, htypes, h]

/-- Equal texts show equal expressions: with the names of a registry, and with tags alone, where
the types are equal as well. -/
theorem render_unambiguous {t u : Trigger} (ht : t.Unquoted) (hu : u.Unquoted) :
    (∀ registry : Registry,
        (∀ tag template, registry.template? tag = some template → '(' ∉ template.name.toList) →
        t.render registry.typeName? = u.render registry.typeName? →
          t.shown registry.typeName? = u.shown registry.typeName?) ∧
      (t.render noNames = u.render noNames →
        t.shown noNames = u.shown noNames ∧ t.types = u.types) := by
  refine ⟨fun registry hregistry => shown_eq_of_render ?_ ht hu, fun h => ?_⟩
  · intro tag name hname
    obtain ⟨template, htemplate, rfl⟩ := Option.map_eq_some_iff.1 hname
    exact hregistry tag template htemplate
  · have hshown : t.shown noNames = u.shown noNames := shown_eq_of_render nofun ht hu h
    exact ⟨hshown, types_eq_of_shown hshown⟩

/-- A condition with the number one, and a vacuous clause. -/
def single (kind : ParameterKind) : Trigger :=
  ⟨[⟨[⟨5, [.ofInt kind 1], false, 0, 0⟩]⟩, ⟨[]⟩]⟩

/-- A type whose name looks like the end of a clause. -/
def misleading : Template := ⟨5, "A AND B) OR TRUE", [.int]⟩

theorem single_alike :
    single .int ≠ single .boundary ∧
      (single .int).shown (Registry.ofList [misleading]).typeName? =
        (single .boundary).shown (Registry.ofList [misleading]).typeName? ∧
      (single .int).shown noNames = (single .boundary).shown noNames ∧
      (single .int).types = (single .boundary).types := by
  have hquotes (kind : ParameterKind) : (single kind).Unquoted := by
    simp [Unquoted, Parameter.Unquoted, single, Parameter.ofInt, Parameter.ofKind]
  have hnames (tag : Int32) (template : Template)
      (h : (Registry.ofList [misleading]).template? tag = some template) :
      '(' ∉ template.name.toList := by
    have hfind : [misleading].find? (fun t => t.id = tag) = some template := h
    rw [mem_singleton.1 (mem_of_find?_eq_some hfind)]
    simp [misleading]
  obtain ⟨hnamed, hplain⟩ := render_unambiguous (hquotes .int) (hquotes .boundary)
  exact ⟨by decide, hnamed (Registry.ofList [misleading]) hnames rfl, hplain rfl⟩

end Trigger

end TriggerScript
