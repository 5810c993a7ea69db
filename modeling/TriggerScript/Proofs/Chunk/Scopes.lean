import TriggerScript.Proofs.Chunk.Handing

/-!
# Scopes

Parsing opens the chunks of its scope one after another, and closes each before the next one is
opened. A parser may parse in turn, in the chunk that it has been handed. As long as no parser
leaves its chunk, parsing that succeeds ends where its scope does, with the same chunks open as
before. A failure closes nothing: the chunks that were being parsed stay open.
-/

namespace TriggerScript

variable {κ τ α β : Type}

/-! ## Open chunks -/

/-- An open chunk whose content begins at a position. -/
def ChunkInfo.spanAt (info : ChunkInfo) (position : ℕ) : Span := ⟨info.label, position + info.size⟩

namespace Cursor

variable {c c' : Cursor κ}

/-- Opening a chunk puts it in front of the open ones. A header that is refused opens nothing. -/
theorem openChunk_spans (c : Cursor κ) :
    match c.openChunk with
    | (.error _, c') => c.Moves c'
    | (.ok info, c') => c'.spans = info.spanAt c'.position :: c.spans ∧ c'.parsers = c.parsers := by
  have hheader := c.moves_readWith Reader.takeHeader? 10 .chunkHeader
  unfold openChunk
  generalize c.readWith Reader.takeHeader? 10 .chunkHeader = out at hheader ⊢
  obtain ⟨e | ⟨id, version, size⟩, c₁⟩ := out
  · exact hheader
  · simp only at hheader ⊢
    cases c₁.labels.label? id with
    | none => exact hheader
    | some label =>
        by_cases hsize : size.toInt < 0
        · simp only [if_pos hsize]
          exact hheader
        · by_cases hin : c₁.scopeEnd < c₁.position + size.toInt.toNat
          · simp only [if_neg hsize, if_pos hin]
            exact hheader
          · simp only [if_neg hsize, if_neg hin]
            exact ⟨congrArg (_ :: ·) hheader.spans, hheader.parsers⟩

theorem moves_of_refused {e : ChunkError} (h : c.openChunk = (.error e, c')) : c.Moves c' := by
  have := c.openChunk_spans
  rwa [h] at this

theorem spans_of_opened {info : ChunkInfo} (h : c.openChunk = (.ok info, c')) :
    c'.spans = info.spanAt c'.position :: c.spans ∧ c'.parsers = c.parsers := by
  have := c.openChunk_spans
  rwa [h] at this

theorem openChunk_parsers (c : Cursor κ) : c.openChunk.2.parsers = c.parsers := by
  cases ho : c.openChunk with
  | mk result c' =>
      cases result with
      | error e => exact (moves_of_refused ho).parsers
      | ok info => exact (spans_of_opened ho).2

theorem closeChunk_parsers (c : Cursor κ) : c.closeChunk.parsers = c.parsers := by
  unfold closeChunk
  split <;> rfl

theorem closeChunk_of_spans {span : Span} {outer : List Span} (h : c.spans = span :: outer) :
    c.closeChunk.spans = outer := by
  simp only [closeChunk, h]

/-- The open chunks of a reader tell where each of them ends. -/
theorem openChunks_injective {file : List UInt8} {spans spans' : List Span}
    (hnested : (spans.map (·.stop)).Pairwise (· ≤ ·)) (hfile : ∀ s ∈ spans, s.stop ≤ file.length)
    (hnested' : (spans'.map (·.stop)).Pairwise (· ≤ ·))
    (hfile' : ∀ s ∈ spans', s.stop ≤ file.length)
    (h : openChunks file spans = openChunks file spans') : spans = spans' := by
  induction spans generalizing spans' with
  | nil =>
      cases spans' with
      | nil => rfl
      | cons span' outer' => cases h
  | cons span outer ih =>
      cases spans' with
      | nil => cases h
      | cons span' outer' =>
          obtain ⟨hspan, houter⟩ := List.cons.inj h
          have hrest : ∀ s ∈ outer, s.stop ≤ file.length := fun s hs =>
            hfile s (List.mem_cons_of_mem span hs)
          obtain rfl := ih (List.pairwise_cons.1 hnested).2 hrest (List.pairwise_cons.1 hnested').2
            (fun s hs => hfile' s (List.mem_cons_of_mem span' hs)) houter
          obtain ⟨hlabel, hafter⟩ := OpenChunk.mk.inj hspan
          have hlen := congrArg List.length hafter
          rw [length_extract (endOf_le hrest), length_extract (endOf_le hrest)] at hlen
          have hstop := stop_le_endOf hnested hfile
          have hstop' := stop_le_endOf hnested' hfile'
          have heq : span.stop = span'.stop := by omega
          obtain ⟨label, stop⟩ := span
          obtain ⟨label', stop'⟩ := span'
          simp only at hlabel heq
          rw [hlabel, heq]

theorem Advances.spans_eq (h : c.Sound) (hc : c.Advances c')
    (hchunks : c'.reader.chunks = c.reader.chunks) : c'.spans = c.spans := by
  refine openChunks_injective hc.sound.nested hc.sound.inFile h.nested ?_ ?_
  · rw [hc.file]
    exact h.inFile
  · rw [reader, reader, hc.file] at hchunks
    rwa [hc.file]

/-- All registered parsers are allowed. -/
def Knows (allowed : κ → Prop) (c : Cursor κ) : Prop := ∀ entry ∈ c.parsers, allowed entry.2

variable {allowed : κ → Prop}

theorem Knows.of_eq (h : c.Knows allowed) (hc : c'.parsers = c.parsers) : c'.Knows allowed := by
  rw [Knows, hc]
  exact h

theorem Knows.register {k : κ} (h : c.Knows allowed) (hk : allowed k) (label parent : String) :
    (c.register label parent k).Knows allowed := by
  intro entry hentry
  obtain rfl | hentry := List.mem_cons.1 hentry
  · exact hk
  · exact h entry (List.mem_filter.1 hentry).1

theorem Knows.of_find? {k : κ} {label parent : String} (h : c.Knows allowed)
    (hk : c.parsers.find? label parent = some k) : allowed k := by
  obtain ⟨before, after, hparsers, -⟩ := List.lookup_eq_some_iff.1 hk
  exact h ((label, parent), k) (by rw [hparsers]; simp)

end Cursor

namespace Moment

/-! ## Arriving -/

def Reaches (parsers : κ → Parser κ τ) (m m' : Moment κ τ α) : Prop :=
  ∃ n, (next parsers)^[n] m = m'

/-- The calls by which one moment leads to another one parse nothing. -/
inductive Reads (parsers : κ → Parser κ τ) : Moment κ τ α → Moment κ τ α → Prop
  | refl (m : Moment κ τ α) : Reads parsers m m
  | call {call : Call κ τ} {answer : call.Answer → Program κ τ α} {c : Cursor κ} {m : Moment κ τ α}
      (hcall : call.isParse = false) (h : Reads parsers (next parsers ⟨.call call answer, c⟩) m) :
      Reads parsers ⟨.call call answer, c⟩ m

variable {parsers : κ → Parser κ τ} {m m' m'' : Moment κ τ α} {c c' : Cursor κ}

namespace Reaches

theorem refl (m : Moment κ τ α) : Reaches parsers m m := ⟨0, rfl⟩

theorem step (h : next parsers m = m') : Reaches parsers m m' := ⟨1, h⟩

theorem trans (h : Reaches parsers m m') (h' : Reaches parsers m' m'') :
    Reaches parsers m m'' := by
  obtain ⟨n, rfl⟩ := h
  obtain ⟨n', rfl⟩ := h'
  exact ⟨n' + n, Function.iterate_add_apply _ _ _ _⟩

theorem leads (h : Reaches parsers m m') (hm : m.cursor.Sound) : Leads parsers m m' := by
  obtain ⟨n, rfl⟩ := h
  exact leads_iterate parsers hm n

/-- What is still to be done afterwards makes no difference on the way. -/
theorem andThen (h : Reaches parsers m m') (f : α → Program κ τ β) :
    Reaches parsers (m.andThen f) (m'.andThen f) := by
  obtain ⟨n, hn⟩ := h
  induction n generalizing m with
  | zero => exact hn ▸ refl _
  | succ n ih =>
      rw [Function.iterate_succ_apply] at hn
      obtain ⟨todo, c⟩ := m
      cases todo with
      | done a => exact ih hn
      | call call answer =>
          exact (step (next_andThen call answer c)).trans (ih hn)

/-- A run ends in one way only. -/
theorem done_unique {a a' : α} (h : Reaches parsers m ⟨.done a, c⟩)
    (h' : Reaches parsers m ⟨.done a', c'⟩) : a = a' ∧ c = c' := by
  obtain ⟨n, hn⟩ := h
  obtain ⟨n', hn'⟩ := h'
  have hboth : (⟨.done a, c⟩ : Moment κ τ α) = ⟨.done a', c'⟩ := by
    rw [← iterate_done n' a c, ← hn, ← Function.iterate_add_apply, Nat.add_comm,
      Function.iterate_add_apply, hn', iterate_done]
  cases hboth
  exact ⟨rfl, rfl⟩

end Reaches

namespace Reads

theorem reaches (h : Reads parsers m m') : Reaches parsers m m' := by
  induction h with
  | refl m => exact .refl m
  | call hcall h ih => exact (Reaches.step rfl).trans ih

theorem trans (h : Reads parsers m m') (h' : Reads parsers m' m'') : Reads parsers m m'' := by
  induction h with
  | refl m => exact h'
  | call hcall h ih => exact .call hcall (ih h')

theorem andThen (h : Reads parsers m m') (f : α → Program κ τ β) :
    Reads parsers (m.andThen f) (m'.andThen f) := by
  induction h with
  | refl m => exact .refl _
  | call hcall h ih =>
      refine .call hcall ?_
      rw [← next_andThen] at ih
      exact ih

end Reads

theorem exists_reads_done {todo : Program κ τ α} (h : todo.Quiet) (c : Cursor κ) :
    ∃ a c', Reads parsers ⟨todo, c⟩ ⟨.done a, c'⟩ := by
  induction todo generalizing c with
  | done a => exact ⟨a, c, .refl _⟩
  | call call answer ih =>
      have hnext : ∃ a c', Reads parsers (next parsers ⟨.call call answer, c⟩) ⟨.done a, c'⟩ := by
        cases call with
        | parse target => cases h.1
        | _ => exact ih _ (h.2 _) _
      obtain ⟨a, c', hread⟩ := hnext
      exact ⟨a, c', .call h.1 hread⟩

end Moment

/-- Reading values comes to an end in the same chunks, and with the same parsers. -/
theorem Reading.Follows.reads {p : Reading κ τ α} {d : SliceDecoder α} (hd : p.Follows d)
    (hp : p.Quiet) (parsers : κ → Parser κ τ) {c : Cursor κ} (h : c.Sound) :
    ∃ result c', Moment.Reads parsers ⟨p.run, c⟩ ⟨.done result, c'⟩ ∧
      c'.spans = c.spans ∧ c'.parsers = c.parsers := by
  obtain ⟨result, c', hreads⟩ : ∃ result c', Moment.Reads parsers ⟨p.run, c⟩ ⟨.done result, c'⟩ :=
    Moment.exists_reads_done hp c
  obtain ⟨hadvances, houtcome⟩ := hreads.reaches.leads h
  have hreader : ∃ rest, c'.reader = { c.reader with unread := rest } := by
    cases hrun : d.run c.reader.unread with
    | error e =>
        obtain ⟨rest, he⟩ : ∃ rest, Program.run parsers p.run c.reader =
            (.error e, { c.reader with unread := rest }) := hd.error hrun
        exact ⟨rest, (Prod.mk.inj (houtcome.trans he)).2⟩
    | ok out => exact ⟨out.2, (Prod.mk.inj (houtcome.trans (hd.ok hrun))).2⟩
  obtain ⟨rest, hreader⟩ := hreader
  refine ⟨result, c', hreads, hadvances.spans_eq h (by rw [hreader]), ?_⟩
  change c'.reader.parsers = _
  rw [hreader]
  rfl

/-! ## Failures -/

/-- Parsing from a cursor fails with `e` at `last`, and leaves a target, while the chunks of the
list were being parsed, the innermost first. The chunks before that have been skipped or parsed.
Then a header is refused; or the parser of a chunk fails without having parsed anything; or it
parses what is inside, this fails, and the parser ends with the same error. -/
inductive Fails (parsers : κ → Parser κ τ) (e : ChunkError) (last : Cursor κ) :
    Cursor κ → τ → List Span → τ → Prop
  | skipped {c c₁ : Cursor κ} {target target' : τ} {info : ChunkInfo} {chain : List Span}
      (hend : c.atEnd = false) (hopen : c.openChunk = (.ok info, c₁))
      (hfind : c₁.parsers.find? info.label info.parent = none)
      (h : Fails parsers e last c₁.closeChunk target chain target') :
      Fails parsers e last c target chain target'
  | parsed {c c₁ c₂ : Cursor κ} {target target₁ target' : τ} {info : ChunkInfo} {k : κ}
      {chain : List Span} (hend : c.atEnd = false) (hopen : c.openChunk = (.ok info, c₁))
      (hfind : c₁.parsers.find? info.label info.parent = some k)
      (hrun : Moment.Reaches parsers ⟨parsers k info target, c₁⟩ ⟨.done (.ok (), target₁), c₂⟩)
      (h : Fails parsers e last c₂.closeChunk target₁ chain target') :
      Fails parsers e last c target chain target'
  | refused {c : Cursor κ} {target : τ} (hend : c.atEnd = false)
      (hopen : c.openChunk = (.error e, last)) : Fails parsers e last c target [] target
  | itself {c c₁ : Cursor κ} {target target' : τ} {info : ChunkInfo} {k : κ}
      (hend : c.atEnd = false) (hopen : c.openChunk = (.ok info, c₁))
      (hfind : c₁.parsers.find? info.label info.parent = some k)
      (hrun : Moment.Reads parsers ⟨parsers k info target, c₁⟩ ⟨.done (.error e, target'), last⟩) :
      Fails parsers e last c target [info.spanAt c₁.position] target'
  | inside {c c₁ c₂ : Cursor κ} {target target₁ target₂ target' : τ} {info : ChunkInfo} {k : κ}
      {answer : Except ChunkError Unit × τ → Program κ τ (Except ChunkError Unit × τ)}
      {chain : List Span} (hend : c.atEnd = false) (hopen : c.openChunk = (.ok info, c₁))
      (hfind : c₁.parsers.find? info.label info.parent = some k)
      (hrun : Moment.Reads parsers ⟨parsers k info target, c₁⟩
        ⟨.call (.parse target₁) answer, c₂⟩)
      (h : Fails parsers e last c₂ target₁ chain target₂)
      (hends : answer (.error e, target₂) = .done (.error e, target')) :
      Fails parsers e last c target (chain ++ [info.spanAt c₁.position]) target'

/-- What parsing from a cursor leaves: the scope it was called in, at its end; or, after a failure,
the chunks that were being parsed inside this scope. -/
def Cursor.Restored (parsers : κ → Parser κ τ) (c : Cursor κ) (target : τ) :
    Except ChunkError Unit × τ → Cursor κ → Prop
  | (.ok (), _), c' => c'.spans = c.spans ∧ c'.position = c.scopeEnd
  | (.error e, target'), c' =>
    ∃ chain, c'.spans = chain ++ c.spans ∧ Fails parsers e c' c target chain target'

/-! ## Parsers that keep to their chunk -/

/-- At its end, or at a parse of which it passes on the result. -/
def Program.Ending : Program κ τ (Except ChunkError Unit × τ) → Prop
  | .done _ => True
  | .call (.parse _) answer =>
    ∀ result target, ∃ target', answer (result, target) = .done (result, target')
  | .call _ _ => False

/-- From its chunk the parser comes to its end, or to a parse of which it passes on the result, by
calls that parse nothing. There the same chunks are open as before, and no parser has been registered
but allowed ones. -/
def Parser.KeepsScope (parsers : κ → Parser κ τ) (allowed : κ → Prop) (k : κ) : Prop :=
  ∀ (info : ChunkInfo) (target : τ) (c : Cursor κ), c.Sound → c.Knows allowed →
    ∃ m, Moment.Reads parsers ⟨parsers k info target, c⟩ m ∧ m.todo.Ending ∧
      m.cursor.spans = c.spans ∧ m.cursor.Knows allowed

/-! ## Parsing -/

namespace Moment

variable {parsers : κ → Parser κ τ} {allowed : κ → Prop} {c c₁ : Cursor κ} {target : τ}
variable {info : ChunkInfo} {k : κ}

/-- Parsing ends, and leaves what it should. -/
def Restores (parsers : κ → Parser κ τ) (allowed : κ → Prop) (c : Cursor κ) (target : τ) : Prop :=
  ∃ out c', Reaches parsers ⟨dispatch target, c⟩ ⟨.done out, c'⟩ ∧ c'.Knows allowed ∧
    c.Restored parsers target out c'

theorem restores_of_atEnd (h : c.Sound) (htable : c.Knows allowed) (hend : c.atEnd = true) :
    Restores parsers allowed c target := by
  have hposition : c.position = c.scopeEnd :=
    Nat.le_antisymm h.inScope (by simpa [Cursor.atEnd] using hend)
  exact ⟨(.ok (), target), c, .step (next_dispatch_of_atEnd hend), htable, rfl, hposition⟩

theorem restores_of_refused {e : ChunkError} (htable : c.Knows allowed) (hend : c.atEnd = false)
    (ho : c.openChunk = (.error e, c₁)) : Restores parsers allowed c target := by
  have hmoves := Cursor.moves_of_refused ho
  exact ⟨(.error e, target), c₁, .step (next_dispatch_of_refused hend ho),
    htable.of_eq hmoves.parsers, [], hmoves.spans, .refused hend ho⟩

/-- Parsing goes on in the same scope. -/
theorem Restores.of_later {target₁ : τ} (hadvances : c.Advances c₁) (hspans : c₁.spans = c.spans)
    (hreaches : Reaches parsers ⟨dispatch target, c⟩ ⟨dispatch target₁, c₁⟩)
    (hfails : ∀ e last chain target', Fails parsers e last c₁ target₁ chain target' →
      Fails parsers e last c target chain target')
    (h : Restores parsers allowed c₁ target₁) : Restores parsers allowed c target := by
  obtain ⟨out, c', hlater, htable, hrestored⟩ := h
  refine ⟨out, c', hreaches.trans hlater, htable, ?_⟩
  obtain ⟨e | ⟨⟩, target'⟩ := out
  · obtain ⟨chain, hchain, hf⟩ := hrestored
    exact ⟨chain, by rw [hchain, hspans], hfails e c' chain target' hf⟩
  · obtain ⟨hsame, hposition⟩ := hrestored
    exact ⟨hsame.trans hspans, by
      rw [hposition, Cursor.scopeEnd, Cursor.scopeEnd, hspans, hadvances.file]⟩

/-! Dispatch up to the next chunk, when one has been skipped or parsed, and to its end, when the parser
of one has failed. -/

section Reaches

variable {target₁ : τ} {c₂ : Cursor κ}

theorem reaches_of_skipped (target : τ) (hend : c.atEnd = false)
    (ho : c.openChunk = (.ok info, c₁))
    (hfind : c₁.parsers.find? info.label info.parent = none) :
    Reaches parsers ⟨dispatch target, c⟩ ⟨dispatch target, c₁.closeChunk⟩ :=
  (Reaches.step (next_dispatch_of_skipped hend ho hfind)).trans (.step rfl)

theorem reaches_of_parsed (hend : c.atEnd = false) (ho : c.openChunk = (.ok info, c₁))
    (hfind : c₁.parsers.find? info.label info.parent = some k)
    (hrun : Reaches parsers ⟨parsers k info target, c₁⟩ ⟨.done (.ok (), target₁), c₂⟩) :
    Reaches parsers ⟨dispatch target, c⟩ ⟨dispatch target₁, c₂.closeChunk⟩ :=
  (Reaches.step (next_dispatch_of_found hend ho hfind)).trans
    ((hrun.andThen (afterParser .done)).trans (.step rfl))

theorem reaches_of_failed {e : ChunkError} (hend : c.atEnd = false)
    (ho : c.openChunk = (.ok info, c₁))
    (hfind : c₁.parsers.find? info.label info.parent = some k)
    (hrun : Reaches parsers ⟨parsers k info target, c₁⟩ ⟨.done (.error e, target₁), c₂⟩) :
    Reaches parsers ⟨dispatch target, c⟩ ⟨.done (.error e, target₁), c₂⟩ :=
  (Reaches.step (next_dispatch_of_found hend ho hfind)).trans (hrun.andThen (afterParser .done))

end Reaches

/-- A program that passes on what parsing inside has come to. -/
theorem Reaches.done_of_inside {a : α} {c₂ c₃ : Cursor κ} {out : Except ChunkError Unit × τ}
    {answer : Except ChunkError Unit × τ → Program κ τ α} {m : Moment κ τ α}
    (hrun : Reaches parsers m ⟨.call (.parse target) answer, c₂⟩)
    (hinside : Reaches parsers ⟨dispatch target, c₂⟩ ⟨.done out, c₃⟩)
    (hends : answer out = .done a) : Reaches parsers m ⟨.done a, c₃⟩ := by
  rw [← hends]
  exact hrun.trans (hinside.andThen answer)

/-- A failure is where parsing ends. -/
theorem reaches_of_fails {e : ChunkError} {last : Cursor κ} {target' : τ} {chain : List Span}
    (h : Fails parsers e last c target chain target') :
    Reaches parsers ⟨dispatch target, c⟩ ⟨.done (.error e, target'), last⟩ := by
  induction h with
  | @skipped c c₁ target target' info chain hend hopen hfind h ih =>
      exact (reaches_of_skipped target hend hopen hfind).trans ih
  | parsed hend hopen hfind hrun h ih => exact (reaches_of_parsed hend hopen hfind hrun).trans ih
  | refused hend hopen => exact .step (next_dispatch_of_refused hend hopen)
  | itself hend hopen hfind hrun => exact reaches_of_failed hend hopen hfind hrun.reaches
  | inside hend hopen hfind hrun h hends ih =>
      exact reaches_of_failed hend hopen hfind (hrun.reaches.done_of_inside ih hends)

theorem restores_of_skipped (hopened : c.Advances c₁) (hend : c.atEnd = false)
    (ho : c.openChunk = (.ok info, c₁))
    (hfind : c₁.parsers.find? info.label info.parent = none)
    (hrest : Restores parsers allowed c₁.closeChunk target) :
    Restores parsers allowed c target := by
  have hspans := Cursor.closeChunk_of_spans (Cursor.spans_of_opened ho).1
  exact hrest.of_later (hopened.trans hopened.sound.closeChunk.advances) hspans
    (reaches_of_skipped target hend ho hfind) fun _ _ _ _ => .skipped hend ho hfind

/-- What a parser comes to that keeps to its chunk, when parsing inside the chunk leaves what it
should: it ends in its chunk, or with the failure of the chunk. -/
theorem exists_done_of_keepsScope (hkeeps : Parser.KeepsScope parsers allowed k) (target : τ)
    (h : c₁.Sound) (htable : c₁.Knows allowed) (hend : c.atEnd = false)
    (ho : c.openChunk = (.ok info, c₁))
    (hfind : c₁.parsers.find? info.label info.parent = some k)
    (hinside : ∀ c' target', c₁.Advances c' → c'.Knows allowed →
      Restores parsers allowed c' target') :
    ∃ out c₂, Reaches parsers ⟨parsers k info target, c₁⟩ ⟨.done out, c₂⟩ ∧ c₂.Knows allowed ∧
      match out with
      | (.ok (), _) => c₂.spans = c₁.spans
      | (.error e, target') => ∃ chain, c₂.spans = chain ++ c₁.spans ∧
          Fails parsers e c₂ c target (chain ++ [info.spanAt c₁.position]) target' := by
  obtain ⟨⟨todo, c₂⟩, hreads, hending, hspans, htable₂⟩ := hkeeps info target c₁ h htable
  cases todo with
  | done out =>
      obtain ⟨e | ⟨⟩, target'⟩ := out
      · exact ⟨_, c₂, hreads.reaches, htable₂, [], hspans, .itself hend ho hfind hreads⟩
      · exact ⟨_, c₂, hreads.reaches, htable₂, hspans⟩
  | call call answer =>
      cases call with
      | parse target₁ =>
          obtain ⟨⟨result, target₂⟩, c₃, hparse, htable₃, hrestored⟩ :=
            hinside c₂ target₁ (hreads.reaches.leads h).advances htable₂
          obtain ⟨target', hanswer⟩ := hending result target₂
          refine ⟨_, c₃, hreads.reaches.done_of_inside hparse hanswer, htable₃, ?_⟩
          cases result with
          | error e =>
              obtain ⟨chain, hchain, hfails⟩ := hrestored
              exact ⟨chain, by rw [hchain, hspans], .inside hend ho hfind hreads hfails hanswer⟩
          | ok _ => exact hrestored.1.trans hspans
      | _ => cases hending

theorem restores_of_found (hkeeps : Parser.KeepsScope parsers allowed k) (hopened : c.Advances c₁)
    (htable : c₁.Knows allowed) (hend : c.atEnd = false) (ho : c.openChunk = (.ok info, c₁))
    (hfind : c₁.parsers.find? info.label info.parent = some k)
    (hlater : ∀ c' target', c₁.Advances c' → c'.Knows allowed →
      Restores parsers allowed c' target') : Restores parsers allowed c target := by
  have hspans := (Cursor.spans_of_opened ho).1
  obtain ⟨⟨result, target'⟩, c₂, hdone, htable₂, hout⟩ :=
    exists_done_of_keepsScope hkeeps target hopened.sound htable hend ho hfind hlater
  cases result with
  | error e =>
      obtain ⟨chain, hchain, hfails⟩ := hout
      exact ⟨_, c₂, reaches_of_failed hend ho hfind hdone, htable₂, _,
        by rw [hchain, hspans, List.append_assoc]; rfl, hfails⟩
  | ok _ =>
      have hadvances := (hdone.leads hopened.sound).advances
      have hclosed := hadvances.trans hadvances.sound.closeChunk.advances
      exact (hlater _ target' hclosed (htable₂.of_eq c₂.closeChunk_parsers)).of_later
        (hopened.trans hclosed) (Cursor.closeChunk_of_spans (hout.trans hspans))
        (reaches_of_parsed hend ho hfind hdone)
        fun _ _ _ _ => .parsed hend ho hfind hdone

/-- Parsing restores the scope that it was called in, if all registered parsers keep to theirs. -/
theorem restores (hkeeps : ∀ k, allowed k → Parser.KeepsScope parsers allowed k) (h : c.Sound)
    (htable : c.Knows allowed) (target : τ) : Restores parsers allowed c target := by
  -- The induction is on the bytes that remain: a chunk that is opened takes some of them.
  induction hn : c.reader.remaining using Nat.strongRecOn generalizing c target with
  | _ n ih =>
    subst hn
    cases hend : c.atEnd with
    | true => exact restores_of_atEnd h htable hend
    | false =>
    obtain ⟨hopened, hreader⟩ := h.openChunk
    cases ho : c.openChunk with
    | mk result c₁ =>
    rw [ho] at hopened hreader
    simp only at hopened hreader
    cases result with
    | error e => exact restores_of_refused htable hend ho
    | ok info =>
        have hless := Reader.openChunk_remaining hreader
        have htable₁ : c₁.Knows allowed := htable.of_eq (Cursor.spans_of_opened ho).2
        have hlater (c' : Cursor κ) (target' : τ) (hadvances : c₁.Advances c')
            (htable' : c'.Knows allowed) : Restores parsers allowed c' target' := by
          have hle := hopened.sound.remaining_le hadvances
          exact ih _ (by omega) hadvances.sound htable' target' rfl
        cases hfind : c₁.parsers.find? info.label info.parent with
        | none =>
            exact restores_of_skipped hopened hend ho hfind
              (hlater _ target hopened.sound.closeChunk.advances
                (htable₁.of_eq c₁.closeChunk_parsers))
        | some k =>
            exact restores_of_found (hkeeps k (htable₁.of_find? hfind)) hopened htable₁ hend ho hfind
              hlater

end Moment

end TriggerScript
