import Mathlib.Logic.Function.Iterate
import Mathlib.Order.Monotone.Basic
import TriggerScript.Proofs.Chunk.Cursor

/-!
# Programs step by step

A program on a cursor, one call at a time. Parsing is taken apart into the calls that it makes, so
that every state inside a parser, and inside the parsers that it calls in turn, is passed on the
way. From every moment on the outcome is the same, and each program ends: stepping arrives at what
running the program on the reader of the cursor gives.
-/

namespace TriggerScript

variable {κ τ α : Type}

/-- What is still to be done at a moment, and where the cursor stands. -/
structure Moment (κ τ α : Type) where
  todo : Program κ τ α
  cursor : Cursor κ

namespace Moment

/-- How parsing goes on after a parser: a failure ends it, otherwise the chunk is closed and the
next one is parsed. -/
def afterParser (answer : Except ChunkError Unit × τ → Program κ τ α) :
    Except ChunkError Unit × τ → Program κ τ α
  | (.error e, target) => answer (.error e, target)
  | (.ok (), target) => .call .closeChunk fun _ => .call (.parse target) answer

/-- Parsing that is not at the end of its scope opens the next chunk, and hands it to the parser
registered for it if there is one. -/
def nextChunk (parsers : κ → Parser κ τ) (target : τ)
    (answer : Except ChunkError Unit × τ → Program κ τ α) (c : Cursor κ) : Moment κ τ α :=
  if c.atEnd then ⟨answer (.ok (), target), c⟩
  else
    match c.openChunk with
    | (.error e, c) => ⟨answer (.error e, target), c⟩
    | (.ok info, c) =>
      match c.parsers.find? info.label info.parent with
      | none => ⟨afterParser answer (.ok (), target), c⟩
      | some parser => ⟨(parsers parser info target).bind (afterParser answer), c⟩

/-- The moment after the next call, or after the next chunk has been opened. -/
def next (parsers : κ → Parser κ τ) : Moment κ τ α → Moment κ τ α
  | ⟨.done a, c⟩ => ⟨.done a, c⟩
  | ⟨.call .openChunk answer, c⟩ => ⟨answer c.openChunk.1, c.openChunk.2⟩
  | ⟨.call .closeChunk answer, c⟩ => ⟨answer (), c.closeChunk⟩
  | ⟨.call .readByte answer, c⟩ => ⟨answer c.readByte.1, c.readByte.2⟩
  | ⟨.call .readInt answer, c⟩ => ⟨answer c.readInt.1, c.readInt.2⟩
  | ⟨.call .readReal answer, c⟩ => ⟨answer c.readReal.1, c.readReal.2⟩
  | ⟨.call .readText answer, c⟩ => ⟨answer c.readText.1, c.readText.2⟩
  | ⟨.call .atEnd answer, c⟩ => ⟨answer c.atEnd, c⟩
  | ⟨.call (.register label parent parser) answer, c⟩ => ⟨answer (), c.register label parent parser⟩
  | ⟨.call (.parse target) answer, c⟩ => nextChunk parsers target answer c

/-- What the program ends with, and where it leaves the reader. -/
def outcome (parsers : κ → Parser κ τ) (m : Moment κ τ α) : α × Reader κ :=
  m.todo.run parsers m.cursor.reader

variable {parsers : κ → Parser κ τ} {m : Moment κ τ α} {c : Cursor κ}

/-! ## One step -/

/-- From one moment to a later one: the cursor has advanced and the outcome is the same. -/
structure Leads (parsers : κ → Parser κ τ) (m m' : Moment κ τ α) : Prop where
  advances : m.cursor.Advances m'.cursor
  outcome : outcome parsers m' = outcome parsers m

theorem leads_answer (call : Call κ τ) (answer : call.Answer → Program κ τ α)
    {out : call.Answer × Cursor κ} (h : c.Mirrors out (call.answer parsers c.reader)) :
    Leads parsers ⟨.call call answer, c⟩ ⟨answer out.1, out.2⟩ :=
  ⟨h.advances, by rw [outcome, outcome, Program.run_call, h.eq]⟩

theorem run_afterParser (answer : Except ChunkError Unit × τ → Program κ τ α)
    (result : Except ChunkError Unit × τ) (r : Reader κ) :
    (afterParser answer result).run parsers r =
      match result with
      | (.error e, target) => (answer (.error e, target)).run parsers r
      | (.ok (), target) =>
        (answer (r.closeChunk.parse parsers target).1).run parsers
          (r.closeChunk.parse parsers target).2 := by
  obtain ⟨e | ⟨⟩, target⟩ := result
  · rfl
  · rw [afterParser, Program.run_call, Program.run_call]
    rfl

theorem leads_nextChunk (h : c.Sound) (target : τ)
    (answer : Except ChunkError Unit × τ → Program κ τ α) :
    Leads parsers ⟨.call (.parse target) answer, c⟩ (nextChunk parsers target answer c) := by
  have hparse : outcome parsers ⟨.call (.parse target) answer, c⟩ =
      (answer (c.reader.parse parsers target).1).run parsers
        (c.reader.parse parsers target).2 := by
    rw [outcome, Program.run_call]
    rfl
  rw [Reader.parse_eq, h.atEnd_reader] at hparse
  unfold nextChunk
  split
  · rename_i hend
    exact ⟨h.advances_self, by rw [hparse, if_pos hend]; rfl⟩
  · rename_i hend
    obtain ⟨hopened, ho⟩ := h.openChunk
    rw [if_neg hend, ho] at hparse
    generalize c.openChunk = out at hopened hparse ⊢
    obtain ⟨e | info, c₁⟩ := out
    · exact ⟨hopened, hparse.symm⟩
    · have hparsers : c₁.reader.parsers = c₁.parsers := rfl
      simp only [hparsers] at hparse ⊢
      cases hfind : c₁.parsers.find? info.label info.parent with
      | none =>
          simp only [hfind] at hparse
          exact ⟨hopened, by rw [hparse, outcome, run_afterParser]⟩
      | some parser =>
          simp only [hfind] at hparse
          refine ⟨hopened, ?_⟩
          rw [hparse, outcome, Program.run_bind, run_afterParser]
          generalize Program.run parsers (parsers parser info target) c₁.reader = out
          obtain ⟨⟨e | ⟨⟩, target'⟩, r⟩ := out <;> rfl

/-- The step: the cursor stays sound and does not go back, and the outcome stays. -/
theorem leads_next (parsers : κ → Parser κ τ) (h : m.cursor.Sound) :
    Leads parsers m (next parsers m) := by
  obtain ⟨todo, c⟩ := m
  cases todo with
  | done a => exact ⟨h.advances_self, rfl⟩
  | call call answer =>
      cases call with
      | openChunk => exact leads_answer .openChunk answer h.openChunk
      | closeChunk => exact leads_answer .closeChunk answer h.closeChunk
      | readByte => exact leads_answer .readByte answer h.readByte
      | readInt => exact leads_answer .readInt answer h.readInt
      | readReal => exact leads_answer .readReal answer h.readReal
      | readText => exact leads_answer .readText answer h.readText
      | atEnd => exact leads_answer .atEnd answer h.atEnd
      | register label parent parser =>
          exact leads_answer (.register label parent parser) answer (h.register label parent parser)
      | parse target => exact leads_nextChunk h target answer

/-! ## Many steps -/

/-- The run: what holds of one step holds of any number of them. -/
theorem leads_iterate (parsers : κ → Parser κ τ) (h : m.cursor.Sound) (n : ℕ) :
    Leads parsers m ((next parsers)^[n] m) := by
  induction n with
  | zero => exact ⟨h.advances_self, rfl⟩
  | succ n ih =>
      rw [Function.iterate_succ_apply']
      have hstep := leads_next parsers ih.advances.sound
      exact ⟨ih.advances.trans hstep.advances, hstep.outcome.trans ih.outcome⟩

theorem monotone_position (h : m.cursor.Sound) :
    Monotone fun n => ((next parsers)^[n] m).cursor.position := by
  refine monotone_nat_of_le_succ fun n => ?_
  rw [Function.iterate_succ_apply']
  exact (leads_next parsers (leads_iterate parsers h n).advances.sound).advances.position

/-! ## The end -/

def Ends (parsers : κ → Parser κ τ) (m : Moment κ τ α) : Prop :=
  ∃ n a c, (next parsers)^[n] m = ⟨.done a, c⟩

theorem Ends.of_next (h : Ends parsers (next parsers m)) : Ends parsers m := by
  obtain ⟨n, a, c, hn⟩ := h
  exact ⟨n + 1, a, c, hn⟩

/-- Every program ends: it is finite but for what it parses, and each chunk that is parsed takes ten
bytes off what remains. -/
theorem ends_of_remaining_le (parsers : κ → Parser κ τ) (n : ℕ) :
    ∀ (todo : Program κ τ α) (c : Cursor κ), c.Sound → c.reader.remaining ≤ n →
      Ends parsers ⟨todo, c⟩ := by
  induction n using Nat.strongRecOn with
  | ind n ih =>
      intro todo
      induction todo with
      | done a => exact fun c _ _ => ⟨0, a, c, rfl⟩
      | call call answer ihanswer =>
          intro c h hn
          have hanswer (out : call.Answer × Cursor κ) (hout : c.Advances out.2) :
              Ends parsers ⟨answer out.1, out.2⟩ :=
            ihanswer out.1 out.2 hout.sound (Nat.le_trans (h.remaining_le hout) hn)
          refine Ends.of_next ?_
          cases call with
          | openChunk => exact hanswer c.openChunk h.openChunk.advances
          | closeChunk => exact hanswer ((), c.closeChunk) h.closeChunk.advances
          | readByte => exact hanswer c.readByte h.readByte.advances
          | readInt => exact hanswer c.readInt h.readInt.advances
          | readReal => exact hanswer c.readReal h.readReal.advances
          | readText => exact hanswer c.readText h.readText.advances
          | atEnd => exact hanswer (c.atEnd, c) h.advances_self
          | register label parent parser =>
              exact hanswer ((), c.register label parent parser)
                (h.register label parent parser).advances
          | parse target =>
              rw [next, nextChunk]
              split
              · exact hanswer ((.ok (), target), c) h.advances_self
              · obtain ⟨hopened, ho⟩ := h.openChunk
                generalize c.openChunk = out at hopened ho ⊢
                obtain ⟨e | info, c₁⟩ := out
                · exact hanswer ((.error e, target), c₁) hopened
                · have hless : c₁.reader.remaining + 10 = c.reader.remaining :=
                    Reader.openChunk_remaining ho
                  have hlater (todo : Program κ τ α) : Ends parsers ⟨todo, c₁⟩ :=
                    ih (n - 10) (by omega) todo c₁ hopened.sound (by omega)
                  simp only
                  split <;> exact hlater _

/-- Stepping arrives at what running the program gives. -/
theorem exists_done (h : m.cursor.Sound) :
    ∃ n c, (next parsers)^[n] m = ⟨.done (outcome parsers m).1, c⟩ ∧
      c.reader = (outcome parsers m).2 := by
  obtain ⟨n, a, c, hn⟩ :=
    ends_of_remaining_le parsers m.cursor.reader.remaining m.todo m.cursor h (Nat.le_refl _)
  have houtcome := (leads_iterate parsers h n).outcome
  rw [hn] at houtcome
  exact ⟨n, c, by rw [hn, ← houtcome]; rfl, by rw [← houtcome]; rfl⟩

end Moment

end TriggerScript
