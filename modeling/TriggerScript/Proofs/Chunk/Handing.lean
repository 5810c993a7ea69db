import TriggerScript.Proofs.Chunk.Stepping

/-!
# What parsers are handed

At some moments of a run the next step hands a chunk to a parser, with the target that is being
filled. A run is orderly when every parser is handed targets that fit it only, at the moments inside
parsers and inside the parsers that they start as well. A program that parses nothing is orderly;
dispatch is, when the one parser that can be found in its scope is.
-/

namespace TriggerScript

variable {κ τ α β : Type}

/-! ## Programs that parse nothing -/

namespace Call

def isParse : Call κ τ → Bool
  | .parse _ => true
  | _ => false

end Call

namespace Program

/-- None of the calls, whatever the answers are, is one that parses. -/
def Quiet : Program κ τ α → Prop
  | .done _ => True
  | .call c next => c.isParse = false ∧ ∀ answer, (next answer).Quiet

theorem Quiet.bind {p : Program κ τ α} {f : α → Program κ τ β} (hp : p.Quiet)
    (hf : ∀ a, (f a).Quiet) : (p.bind f).Quiet := by
  induction p with
  | done a => exact hf a
  | call c next ih => exact ⟨hp.1, fun answer => ih answer (hp.2 answer)⟩

end Program

namespace Reading

def Quiet (p : Reading κ τ α) : Prop := Program.Quiet p.run

namespace Quiet

theorem byte : (Reading.byte : Reading κ τ UInt8).Quiet := ⟨rfl, fun _ => trivial⟩

theorem int : (Reading.int : Reading κ τ Int32).Quiet := ⟨rfl, fun _ => trivial⟩

theorem real : (Reading.real : Reading κ τ Single).Quiet := ⟨rfl, fun _ => trivial⟩

theorem text : (Reading.text : Reading κ τ String).Quiet := ⟨rfl, fun _ => trivial⟩

theorem pure (a : α) : (Pure.pure a : Reading κ τ α).Quiet := trivial

theorem throw (e : ChunkError) : (throwThe ChunkError e : Reading κ τ α).Quiet := trivial

theorem bind {p : Reading κ τ α} {f : α → Reading κ τ β} (hp : p.Quiet) (hf : ∀ a, (f a).Quiet) :
    (p >>= f).Quiet := by
  refine Program.Quiet.bind (p := p.run) hp fun result => ?_
  cases result with
  | error e => exact trivial
  | ok a => exact hf a

theorem map (f : α → β) {p : Reading κ τ α} (hp : p.Quiet) : (f <$> p).Quiet := by
  rw [map_eq_pure_bind]
  exact hp.bind fun a => pure (f a)

theorem ite {c : Prop} [Decidable c] {p q : Reading κ τ α} (hp : p.Quiet) (hq : q.Quiet) :
    (if c then p else q).Quiet := by
  split
  · exact hp
  · exact hq

theorem count (n : ℕ) {p : Reading κ τ α} (hp : p.Quiet) : (Reading.count n p).Quiet := by
  induction n with
  | zero => exact pure []
  | succ n ih => exact hp.bind fun a => ih.bind fun as => pure (a :: as)

end Quiet

end Reading

namespace Moment

/-! ## One program after another -/

/-- The same moment with more to be done afterwards. -/
def andThen (m : Moment κ τ α) (f : α → Program κ τ β) : Moment κ τ β := ⟨m.todo.bind f, m.cursor⟩

variable {parsers : κ → Parser κ τ} {m : Moment κ τ α} {c : Cursor κ} {f : α → Program κ τ β}

theorem afterParser_bind (answer : Except ChunkError Unit × τ → Program κ τ α)
    (result : Except ChunkError Unit × τ) :
    (afterParser answer result).bind f =
      afterParser (fun result => (answer result).bind f) result := by
  obtain ⟨e | ⟨⟩, target⟩ := result <;> rfl

theorem nextChunk_andThen (target : τ) (answer : Except ChunkError Unit × τ → Program κ τ α)
    (c : Cursor κ) :
    nextChunk parsers target (fun result => (answer result).bind f) c =
      (nextChunk parsers target answer c).andThen f := by
  unfold nextChunk
  split
  · rfl
  · split
    · rfl
    · rename_i info c₁ _
      split
      · exact congrArg (Moment.mk · c₁) (afterParser_bind answer _).symm
      · rename_i parser _
        refine congrArg (Moment.mk · c₁) ?_
        rw [Program.bind_assoc]
        exact congrArg (Program.bind _) (funext fun result => (afterParser_bind answer result).symm)

/-- A program that is not done takes its next step, whatever comes after it. -/
theorem next_andThen (call : Call κ τ) (answer : call.Answer → Program κ τ α) (c : Cursor κ) :
    next parsers (andThen ⟨.call call answer, c⟩ f) =
      (next parsers ⟨.call call answer, c⟩).andThen f := by
  cases call with
  | parse target => exact nextChunk_andThen target answer c
  | _ => rfl

theorem iterate_done (n : ℕ) (a : α) (c : Cursor κ) :
    (next parsers)^[n] (⟨.done a, c⟩ : Moment κ τ α) = ⟨.done a, c⟩ :=
  Function.iterate_fixed rfl n

/-! ## Orderly runs -/

/-- The parser to which the next step hands a chunk, and the target for it to fill. -/
def handed? : Moment κ τ α → Option (κ × τ)
  | ⟨.call (.parse target) _, c⟩ =>
    if c.atEnd then none
    else
      match c.openChunk with
      | (.error _, _) => none
      | (.ok info, c) => (c.parsers.find? info.label info.parent).map (·, target)
  | _ => none

/-- Whatever a parser is handed from this moment on fits it. -/
def Orderly (parsers : κ → Parser κ τ) (fits : κ → τ → Prop) (m : Moment κ τ α) : Prop :=
  ∀ n k target, ((next parsers)^[n] m).handed? = some (k, target) → fits k target

variable {fits : κ → τ → Prop}

theorem Orderly.of_next (hnow : ∀ k target, m.handed? = some (k, target) → fits k target)
    (hlater : Orderly parsers fits (next parsers m)) : Orderly parsers fits m
  | 0 => hnow
  | n + 1 => hlater n

/-- At a moment where nothing is handed to a parser, only later ones count. -/
theorem Orderly.of_later (hnow : m.handed? = none)
    (hlater : Orderly parsers fits (next parsers m)) : Orderly parsers fits m := by
  refine of_next (fun k target hhanded => ?_) hlater
  rw [hnow] at hhanded
  cases hhanded

theorem Orderly.next (h : Orderly parsers fits m) : Orderly parsers fits (next parsers m) :=
  fun n => h (n + 1)

theorem orderly_done (a : α) (c : Cursor κ) :
    Orderly parsers fits (⟨.done a, c⟩ : Moment κ τ α) := by
  intro n
  rw [iterate_done]
  exact nofun

theorem handed?_of_isParse {call : Call κ τ} {answer : call.Answer → Program κ τ α}
    (h : call.isParse = false) : handed? ⟨.call call answer, c⟩ = none := by
  cases call with
  | parse target => cases h
  | _ => rfl

theorem orderly_of_quiet {todo : Program κ τ α} (h : todo.Quiet) (c : Cursor κ) :
    Orderly parsers fits ⟨todo, c⟩ := by
  induction todo generalizing c with
  | done a => exact orderly_done a c
  | call call answer ih =>
      refine .of_later (handed?_of_isParse h.1) ?_
      cases call with
      | parse target => cases h.1
      | _ => exact ih _ (h.2 _) _

theorem handed?_andThen (call : Call κ τ) (answer : call.Answer → Program κ τ α) (c : Cursor κ) :
    (andThen ⟨.call call answer, c⟩ f).handed? = handed? ⟨.call call answer, c⟩ := by
  cases call <;> rfl

/-- One orderly run after another: the second begins where the first has ended. -/
theorem Orderly.andThen (h : Orderly parsers fits m)
    (hf : ∀ n a c, (Moment.next parsers)^[n] m = ⟨.done a, c⟩ → Orderly parsers fits ⟨f a, c⟩) :
    Orderly parsers fits (m.andThen f) := by
  intro n
  induction n generalizing m with
  | zero =>
      obtain ⟨todo, c⟩ := m
      cases todo with
      | done a => exact hf 0 a c rfl 0
      | call call answer =>
          intro k target hhanded
          exact h 0 k target ((handed?_andThen call answer c).symm.trans hhanded)
  | succ n ih =>
      obtain ⟨todo, c⟩ := m
      cases todo with
      | done a => exact hf 0 a c rfl (n + 1)
      | call call answer =>
          rw [Function.iterate_succ_apply, next_andThen]
          exact ih h.next fun i a c hi => hf (i + 1) a c hi

end Moment

/-! ## Dispatch -/

/-- In a chunk of `label` the parser `k`, which fills targets made by `fill`, is orderly. -/
def Parser.Orderly (parsers : κ → Parser κ τ) (fits : κ → τ → Prop) (P : ParserTable κ → Prop)
    (labels : LabelTable) (label : String) (k : κ) (fill : List α → τ) : Prop :=
  ∀ (info : ChunkInfo) (found : List α) (c : Cursor κ), info.label = label → c.Sound →
    c.reader.Scope P labels label → Moment.Orderly parsers fits ⟨parsers k info (fill found), c⟩

namespace Moment

section Dispatch

variable {parsers : κ → Parser κ τ} {fits : κ → τ → Prop} {P : ParserTable κ → Prop}
variable {labels : LabelTable} {label parent : String} {k : κ}
variable {decode : UInt16 → List UInt8 → Except ChunkError α} {fill : List α → τ} {c : Cursor κ}

/-- The program of dispatch alone. -/
def dispatch (target : τ) : Program κ τ (Except ChunkError Unit × τ) := .call (.parse target) .done

/-- What dispatch does after a parser, when the rest of the scope is dispatched in order. -/
theorem orderly_afterParser {target : τ}
    (h : Orderly parsers fits ⟨dispatch target, c.closeChunk⟩) :
    Orderly parsers fits ⟨afterParser .done (.ok (), target), c⟩ :=
  .of_later rfl h

/-! What the next step of dispatch does: nothing is left; a header is refused; a chunk is skipped; or
it is handed to its parser. -/

section Next

variable {target : τ} {e : ChunkError} {info : ChunkInfo} {c₁ : Cursor κ}

theorem next_dispatch_of_atEnd (hend : c.atEnd = true) :
    next parsers ⟨dispatch target, c⟩ = ⟨.done (.ok (), target), c⟩ := by
  simp [dispatch, next, nextChunk, hend]

theorem next_dispatch_of_refused (hend : c.atEnd = false) (ho : c.openChunk = (.error e, c₁)) :
    next parsers ⟨dispatch target, c⟩ = ⟨.done (.error e, target), c₁⟩ := by
  simp [dispatch, next, nextChunk, hend, ho]

theorem next_dispatch_of_skipped (hend : c.atEnd = false) (ho : c.openChunk = (.ok info, c₁))
    (hfind : c₁.parsers.find? info.label info.parent = none) :
    next parsers ⟨dispatch target, c⟩ = ⟨afterParser .done (.ok (), target), c₁⟩ := by
  simp [dispatch, next, nextChunk, hend, ho, hfind]

theorem next_dispatch_of_found (hend : c.atEnd = false) (ho : c.openChunk = (.ok info, c₁))
    (hfind : c₁.parsers.find? info.label info.parent = some k) :
    next parsers ⟨dispatch target, c⟩ =
      andThen ⟨parsers k info target, c₁⟩ (afterParser .done) := by
  simp [dispatch, next, nextChunk, hend, ho, hfind, andThen]

end Next

theorem orderly_dispatch_of_atEnd (target : τ) (hend : c.atEnd = true) :
    Orderly parsers fits ⟨dispatch target, c⟩ := by
  refine .of_later (by simp [dispatch, handed?, hend]) ?_
  rw [next_dispatch_of_atEnd hend]
  exact orderly_done _ _

theorem orderly_dispatch_of_refused (target : τ) {e : ChunkError} {c₁ : Cursor κ}
    (hend : c.atEnd = false) (ho : c.openChunk = (.error e, c₁)) :
    Orderly parsers fits ⟨dispatch target, c⟩ := by
  refine .of_later (by simp [dispatch, handed?, hend, ho]) ?_
  rw [next_dispatch_of_refused hend ho]
  exact orderly_done _ _

theorem orderly_dispatch_of_skipped (target : τ) {info : ChunkInfo} {c₁ : Cursor κ}
    (hend : c.atEnd = false) (ho : c.openChunk = (.ok info, c₁))
    (hfind : c₁.parsers.find? info.label info.parent = none)
    (hrest : Orderly parsers fits ⟨dispatch target, c₁.closeChunk⟩) :
    Orderly parsers fits ⟨dispatch target, c⟩ := by
  refine .of_later (by simp [dispatch, handed?, hend, ho, hfind]) ?_
  rw [next_dispatch_of_skipped hend ho hfind]
  exact orderly_afterParser hrest

/-- A chunk that is handed to a parser: the parser is orderly, and so is what comes after it. -/
theorem orderly_dispatch_of_found {target : τ} {info : ChunkInfo} {c₁ : Cursor κ}
    (hend : c.atEnd = false) (ho : c.openChunk = (.ok info, c₁))
    (hfind : c₁.parsers.find? info.label info.parent = some k) (hfits : fits k target)
    (hparser : Orderly parsers fits ⟨parsers k info target, c₁⟩)
    (hrest : ∀ n target' c', (next parsers)^[n] ⟨parsers k info target, c₁⟩ =
      ⟨.done (.ok (), target'), c'⟩ → Orderly parsers fits ⟨dispatch target', c'.closeChunk⟩) :
    Orderly parsers fits ⟨dispatch target, c⟩ := by
  refine .of_next (fun k' target' hhanded => ?_) ?_
  · simp only [dispatch, handed?, hend, ho, hfind] at hhanded
    cases hhanded
    exact hfits
  · rw [next_dispatch_of_found hend ho hfind]
    refine hparser.andThen fun n result c' hdone => ?_
    obtain ⟨e | ⟨⟩, target'⟩ := result
    · exact orderly_done _ _
    · exact orderly_afterParser (hrest n target' c' hdone)

/-- A parser that adds to its target and ends well has added one element, and the cursor is back in
the chunk of the parser. -/
theorem eq_of_done (hadds : Parser.Adds parsers P labels label k decode fill) {info : ChunkInfo}
    {found : List α} {target : τ} {n : ℕ} {c' : Cursor κ} (hl : info.label = label) (h : c.Sound)
    (hr : c.reader.Scope P labels label)
    (hdone : (next parsers)^[n] ⟨parsers k info (fill found), c⟩ = ⟨.done (.ok (), target), c'⟩) :
    c.Advances c' ∧ c.reader.Returns P c'.reader ∧ ∃ a, target = fill (found ++ [a]) := by
  obtain ⟨hadvances, houtcome⟩ :=
    leads_iterate parsers (m := ⟨parsers k info (fill found), c⟩) h n
  rw [hdone] at hadvances houtcome
  obtain ⟨hok, herror⟩ := hadds info found c.reader hl hr
  cases hd : decode info.version c.reader.unread with
  | error e =>
      obtain ⟨r', hrun⟩ := herror e hd
      cases houtcome.trans hrun
  | ok a =>
      obtain ⟨r', hrun, hreturns⟩ := hok a hd
      obtain ⟨hresult, hr'⟩ := Prod.mk.inj (houtcome.trans hrun)
      obtain ⟨-, rfl⟩ := Prod.mk.inj hresult
      exact ⟨hadvances, hr' ▸ hreturns, a, rfl⟩

/-- Dispatch is orderly in a scope where only the chunks of `label` have a parser, if that parser is
orderly and fits the targets that it is handed there. -/
theorem orderly_dispatch
    (hk : ∀ table, P table → ∀ l, table.find? l parent = if l = label then some k else none)
    (hadds : Parser.Adds parsers P labels label k decode fill)
    (horderly : Parser.Orderly parsers fits P labels label k fill)
    (hfits : ∀ found, fits k (fill found)) (found : List α) (h : c.Sound)
    (hr : c.reader.Scope P labels parent) :
    Orderly parsers fits ⟨dispatch (fill found), c⟩ := by
  -- The induction is on the bytes that remain: a chunk that is opened takes some of them.
  induction hn : c.reader.remaining using Nat.strongRecOn generalizing c found with
  | _ n ih =>
    subst hn
    cases hend : c.atEnd with
    | true => exact orderly_dispatch_of_atEnd _ hend
    | false =>
    obtain ⟨hopened, hreader⟩ := h.openChunk
    cases ho : c.openChunk with
    | mk result c₁ =>
    rw [ho] at hopened hreader
    simp only at hopened hreader
    cases ht : takeChunk c.reader.labels c.reader.unread with
    | error e =>
        obtain ⟨unread, he⟩ := Reader.openChunk_of_refused ht
        obtain ⟨rfl, -⟩ := Prod.mk.inj (hreader.symm.trans he)
        exact orderly_dispatch_of_refused _ hend ho
    | ok out =>
        obtain ⟨chunk, rest⟩ := out
        obtain ⟨rfl, hc₁⟩ := Prod.mk.inj (hreader.symm.trans (Reader.openChunk_of_takeChunk ht))
        have hless := Reader.openChunk_remaining hreader
        have hparsers : c₁.parsers = c.parsers := congrArg Reader.parsers hc₁
        have hfind : c₁.parsers.find? chunk.label c.reader.enclosing =
            if chunk.label = label then some k else none := by
          rw [hparsers, hr.enclosing]
          exact hk _ hr.parsers chunk.label
        -- Dispatch goes on wherever it comes back to this scope.
        have hrest (found : List α) (c' : Cursor κ) (hadvances : c₁.Advances c')
            (hreturns : (c.reader.enter chunk rest).Returns P c'.reader) :
            Orderly parsers fits ⟨dispatch (fill found), c'.closeChunk⟩ := by
          obtain ⟨hclosed, heq⟩ := hadvances.sound.closeChunk
          obtain ⟨-, heq⟩ := Prod.mk.inj heq
          have hle : c'.closeChunk.reader.remaining ≤ c₁.reader.remaining :=
            hopened.sound.remaining_le (hadvances.trans hclosed)
          exact ih _ (by omega) found hclosed.sound (heq ▸ hreturns.closeChunk.1.scope hr) rfl
        by_cases hl : chunk.label = label
        · rw [if_pos hl] at hfind
          have hinside : c₁.reader.Scope P labels label := hc₁ ▸ hl ▸ hr.enter
          refine orderly_dispatch_of_found hend ho hfind (hfits found)
            (horderly _ found c₁ hl hopened.sound hinside) fun n target c' hdone => ?_
          obtain ⟨hadvances, hreturns, a, rfl⟩ := eq_of_done hadds hl hopened.sound hinside hdone
          exact hrest (found ++ [a]) c' hadvances (hc₁ ▸ hreturns)
        · rw [if_neg hl] at hfind
          exact orderly_dispatch_of_skipped _ hend ho hfind
            (hrest found c₁ hopened.sound.advances_self (hc₁ ▸ hr.enter.returns _))

end Dispatch

end Moment

end TriggerScript
