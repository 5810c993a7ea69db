import TriggerScript.Chunk.Reader

/-!
# Parsers and dispatch

A parser is a program of reader calls: a tree whose branches are the possible answers. A program
may ask the reader to parse the chunks ahead, which runs the registered parsers, programs again.
Every dispatched chunk takes its header from the bytes that remain, so parsing ends.

`Program.run_call` and `Reader.parse_eq` say how programs and dispatch run, without the bookkeeping
that shows that they end.
-/

namespace TriggerScript

/-- A call on a reader. Parsers have names in `κ`, the objects that they fill are in `τ`. -/
inductive Call (κ τ : Type) where
  | openChunk
  | closeChunk
  | readByte
  | readInt
  | readReal
  | readText
  | atEnd
  | register (label parent : String) (parser : κ)
  | parse (target : τ)

/-- What a call answers. Parsing answers the target as the parsers have left it. -/
abbrev Call.Answer {κ τ : Type} : Call κ τ → Type
  | .openChunk => Except ChunkError ChunkInfo
  | .closeChunk => Unit
  | .readByte => Except ChunkError UInt8
  | .readInt => Except ChunkError Int32
  | .readReal => Except ChunkError Single
  | .readText => Except ChunkError String
  | .atEnd => Bool
  | .register .. => Unit
  | .parse _ => Except ChunkError Unit × τ

/-- A finite sequence of calls, each chosen from the answers to the earlier ones. -/
inductive Program (κ τ α : Type) where
  | done (a : α)
  | call (c : Call κ τ) (next : c.Answer → Program κ τ α)

variable {κ τ α β : Type}

namespace Program

def bind : Program κ τ α → (α → Program κ τ β) → Program κ τ β
  | .done a, f => f a
  | .call c next, f => .call c fun answer => (next answer).bind f

instance : Monad (Program κ τ) where
  pure := .done
  bind := .bind

def ofCall (c : Call κ τ) : Program κ τ c.Answer := .call c .done

end Program

abbrev Reading (κ τ : Type) := ExceptT ChunkError (Program κ τ)

namespace Reading

def byte : Reading κ τ UInt8 := Program.ofCall .readByte

def int : Reading κ τ Int32 := Program.ofCall .readInt

def real : Reading κ τ Single := Program.ofCall .readReal

def text : Reading κ τ String := Program.ofCall .readText

def count (n : Nat) (one : Reading κ τ α) : Reading κ τ (List α) :=
  match n with
  | 0 => pure []
  | n + 1 => do
    let first ← one
    let rest ← count n one
    return first :: rest

end Reading

/-- A program that fills a target from a chunk just opened. -/
abbrev Parser (κ τ : Type) := ChunkInfo → τ → Program κ τ (Except ChunkError Unit × τ)

/-- An answer and a reader with no more bytes than `r` has. -/
abbrev Within (r : Reader κ) (α : Type) :=
  { out : α × Reader κ // out.2.remaining ≤ r.remaining }

def Within.mono {r r' : Reader κ} (out : Within r' α) (h : r'.remaining ≤ r.remaining) :
    Within r α :=
  ⟨out.val, Nat.le_trans out.property h⟩

/-! ## Running -/

/-- A way to parse for readers with at most `n` bytes. -/
abbrev ParseUpTo (κ τ : Type) (n : Nat) :=
  (r : Reader κ) → r.remaining ≤ n → τ → Within r (Except ChunkError Unit × τ)

def Call.perform {n : Nat} (parse : ParseUpTo κ τ n) :
    (c : Call κ τ) → (r : Reader κ) → r.remaining ≤ n → Within r c.Answer
  | .openChunk, r, _ => ⟨r.openChunk, Reader.openChunk_remaining_le⟩
  | .closeChunk, r, _ => ⟨((), r.closeChunk), Reader.closeChunk_remaining_le⟩
  | .readByte, r, _ => ⟨r.readByte, Reader.readByte_remaining_le⟩
  | .readInt, r, _ => ⟨r.readInt, Reader.readInt_remaining_le⟩
  | .readReal, r, _ => ⟨r.readReal, Reader.readReal_remaining_le⟩
  | .readText, r, _ => ⟨r.readText, Reader.readText_remaining_le⟩
  | .atEnd, r, _ => ⟨(r.atEnd, r), Nat.le_refl _⟩
  | .register label parent parser, r, _ => ⟨((), r.register label parent parser), Nat.le_refl _⟩
  | .parse target, r, h => parse r h target

def Program.runUpTo {n : Nat} (parse : ParseUpTo κ τ n) :
    Program κ τ α → (r : Reader κ) → r.remaining ≤ n → Within r α
  | .done a, r, _ => ⟨(a, r), Nat.le_refl _⟩
  | .call c next, r, h =>
    let out := c.perform parse r h
    ((next out.val.1).runUpTo parse out.val.2 (Nat.le_trans out.property h)).mono out.property

/-- Gives each chunk ahead in the innermost open chunk to the parser registered for it, and skips
those without one. The first error ends the walk. -/
def Reader.parseWithin (parsers : κ → Parser κ τ) (r : Reader κ) (target : τ) :
    Within r (Except ChunkError Unit × τ) :=
  if r.atEnd then ⟨((.ok (), target), r), Nat.le_refl _⟩
  else
    match h : r.openChunk with
    | (.error e, r₁) =>
      ⟨((.error e, target), r₁), by
        have := openChunk_remaining_le (r := r); rwa [h] at this⟩
    | (.ok info, r₁) =>
      have h₁ : r₁.remaining < r.remaining := by have := openChunk_remaining h; omega
      match r₁.parsers.find? info.label info.parent with
      | none =>
        have hc := closeChunk_remaining_le (r := r₁)
        (parseWithin parsers r₁.closeChunk target).mono (by omega)
      | some parser =>
        let parse : ParseUpTo κ τ r₁.remaining := fun r _ target => parseWithin parsers r target
        match (parsers parser info target).runUpTo parse r₁ (Nat.le_refl _) with
        | ⟨((.error e, target), r₂), h₂⟩ => ⟨((.error e, target), r₂), by simp at h₂ ⊢; omega⟩
        | ⟨((.ok (), target), r₂), h₂⟩ =>
          have hc := closeChunk_remaining_le (r := r₂)
          (parseWithin parsers r₂.closeChunk target).mono (by simp at h₂; omega)
termination_by r.remaining
decreasing_by all_goals simp at *; omega

def Reader.parse (parsers : κ → Parser κ τ) (r : Reader κ) (target : τ) :
    (Except ChunkError Unit × τ) × Reader κ :=
  (r.parseWithin parsers target).val

def Program.run (parsers : κ → Parser κ τ) (p : Program κ τ α) (r : Reader κ) : α × Reader κ :=
  (p.runUpTo (fun r _ target => r.parseWithin parsers target) r (Nat.le_refl _)).val

/-! ## Equations -/

def Call.answer (parsers : κ → Parser κ τ) : (c : Call κ τ) → Reader κ → c.Answer × Reader κ
  | .openChunk, r => r.openChunk
  | .closeChunk, r => ((), r.closeChunk)
  | .readByte, r => r.readByte
  | .readInt, r => r.readInt
  | .readReal, r => r.readReal
  | .readText, r => r.readText
  | .atEnd, r => (r.atEnd, r)
  | .register label parent parser, r => ((), r.register label parent parser)
  | .parse target, r => r.parse parsers target

theorem Call.perform_val (parsers : κ → Parser κ τ) {n : Nat} (c : Call κ τ) (r : Reader κ)
    (h : r.remaining ≤ n) :
    (c.perform (fun r _ target => r.parseWithin parsers target) r h).val = c.answer parsers r := by
  cases c <;> rfl

theorem Program.runUpTo_call {n : Nat} {parse : ParseUpTo κ τ n} {c : Call κ τ}
    {next : c.Answer → Program κ τ α} {r : Reader κ} {h : r.remaining ≤ n}
    {out : c.Answer × Reader κ} (hc : (c.perform parse r h).val = out)
    (h' : out.2.remaining ≤ n) :
    ((Program.call c next).runUpTo parse r h).val = ((next out.1).runUpTo parse out.2 h').val := by
  subst hc
  rfl

theorem Call.answer_remaining_le (parsers : κ → Parser κ τ) (c : Call κ τ) (r : Reader κ) :
    (c.answer parsers r).2.remaining ≤ r.remaining := by
  rw [← Call.perform_val parsers c r (Nat.le_refl _)]
  exact (c.perform _ r _).property

/-- The bound that running needs does not show in the result. -/
theorem Program.runUpTo_val (parsers : κ → Parser κ τ) (p : Program κ τ α) :
    ∀ {n : Nat} (r : Reader κ) (h : r.remaining ≤ n),
      (p.runUpTo (fun r _ target => r.parseWithin parsers target) r h).val = p.run parsers r := by
  induction p with
  | done a => intro n r h; rfl
  | call c next ih =>
    intro n r h
    have hr := c.answer_remaining_le parsers r
    rw [run, runUpTo_call (Call.perform_val parsers c r h) (Nat.le_trans hr h),
      runUpTo_call (Call.perform_val parsers c r (Nat.le_refl _)) hr, ih, ih]

@[simp]
theorem Program.run_done (parsers : κ → Parser κ τ) (a : α) (r : Reader κ) :
    (Program.done a).run parsers r = (a, r) := rfl

theorem Program.run_call (parsers : κ → Parser κ τ) (c : Call κ τ)
    (next : c.Answer → Program κ τ α) (r : Reader κ) :
    (Program.call c next).run parsers r =
      (next (c.answer parsers r).1).run parsers (c.answer parsers r).2 := by
  rw [run, runUpTo_call (Call.perform_val parsers c r (Nat.le_refl _))
    (c.answer_remaining_le parsers r), runUpTo_val]

theorem Program.run_bind (parsers : κ → Parser κ τ) (p : Program κ τ α) (f : α → Program κ τ β)
    (r : Reader κ) :
    (p.bind f).run parsers r = (f (p.run parsers r).1).run parsers (p.run parsers r).2 := by
  induction p generalizing r with
  | done a => rfl
  | call c next ih => simp only [bind, run_call, ih]

theorem Reader.parse_eq (parsers : κ → Parser κ τ) (r : Reader κ) (target : τ) :
    r.parse parsers target =
      if r.atEnd then ((.ok (), target), r)
      else
        match r.openChunk with
        | (.error e, r₁) => ((.error e, target), r₁)
        | (.ok info, r₁) =>
          match r₁.parsers.find? info.label info.parent with
          | none => r₁.closeChunk.parse parsers target
          | some parser =>
            match (parsers parser info target).run parsers r₁ with
            | ((.error e, target), r₂) => ((.error e, target), r₂)
            | ((.ok (), target), r₂) => r₂.closeChunk.parse parsers target := by
  rw [parse, parseWithin]
  split
  · rfl
  · split
    · rename_i h
      simp only [h]
    · rename_i info r₁ h
      simp only [h]
      cases hp : r₁.parsers.find? info.label info.parent with
      | none => rfl
      | some parser =>
        simp only
        rw [← Program.runUpTo_val parsers _ r₁ (Nat.le_refl _)]
        split <;> rename_i hrun <;> rw [hrun]
        rfl

end TriggerScript
