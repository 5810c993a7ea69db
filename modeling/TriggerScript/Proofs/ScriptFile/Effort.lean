import TriggerScript.Proofs.Chunk.Stepping
import TriggerScript.Proofs.ScriptFile.Loading

/-!
# How much is done for a file

A step opens a chunk when more chunks are open after it. Each chunk that is opened moves the cursor
ten bytes on, whatever size its header states, and nothing moves it back. A session therefore opens
no more chunks than there are headers in the bytes after the label table, and it ends.
-/

namespace TriggerScript

open LittleEndian

variable {κ τ α : Type}

/-! ## Open chunks -/

namespace Cursor

variable {c : Cursor κ}

theorem readWith_spans (take? : List UInt8 → Option (α × List UInt8)) (width : Nat) (field : Field)
    (c : Cursor κ) : (c.readWith take? width field).2.spans = c.spans :=
  (c.moves_readWith take? width field).spans

theorem readText_spans (c : Cursor κ) : c.readText.2.spans = c.spans := c.moves_readText.spans

theorem closeChunk_spans_le (c : Cursor κ) : c.closeChunk.spans.length ≤ c.spans.length := by
  unfold closeChunk
  split
  · exact Nat.le_refl _
  · rename_i span outer hs
    rw [hs]
    exact Nat.le_succ _

theorem eq_of_readWith {take? : List UInt8 → Option (α × List UInt8)} {width : Nat} {field : Field}
    {a : α} {c' : Cursor κ} (h : c.readWith take? width field = (.ok a, c')) :
    c' = { c with position := c.position + width } := by
  unfold readWith at h
  split at h
  · cases h
  · split at h <;> cases h
    rfl

/-- A chunk is opened by reading the ten bytes of its header. -/
theorem openChunk_position (h : c.spans.length < c.openChunk.2.spans.length) :
    c.openChunk.2.position = c.position + 10 := by
  have hheader := c.readWith_spans Reader.takeHeader? 10 .chunkHeader
  unfold openChunk at h ⊢
  split at h
  · rename_i h₁
    rw [h₁] at hheader
    exact absurd h (Nat.not_lt.2 (congrArg List.length hheader).le)
  · rename_i id version size c₁ h₁
    cases eq_of_readWith h₁
    split at h
    · simp at h
    · split at h
      · simp at h
      · split at h
        · simp at h
        · rename_i label hlabel hsize hin
          simp only [if_neg hsize, if_neg hin]

end Cursor

namespace Moment

variable {parsers : κ → Parser κ τ} {m : Moment κ τ α}

/-! ## Steps that open a chunk -/

/-- More chunks are open after the next step. -/
def Opens (parsers : κ → Parser κ τ) (m : Moment κ τ α) : Prop :=
  m.cursor.spans.length < (next parsers m).cursor.spans.length

instance (m : Moment κ τ α) : Decidable (m.Opens parsers) := inferInstanceAs (Decidable (_ < _))

/-- How many of the next `n` steps open a chunk. -/
def opened (parsers : κ → Parser κ τ) (m : Moment κ τ α) (n : ℕ) : ℕ :=
  (List.range n).countP fun i => ((next parsers)^[i] m).Opens parsers

theorem nextChunk_cursor (target : τ) (answer : Except ChunkError Unit × τ → Program κ τ α)
    (c : Cursor κ) :
    (nextChunk parsers target answer c).cursor = if c.atEnd then c else c.openChunk.2 := by
  unfold nextChunk
  split
  · rfl
  · split
    · rename_i ho
      rw [ho]
    · rename_i ho
      rw [ho]
      split <;> rfl

theorem Opens.position (h : m.Opens parsers) :
    (next parsers m).cursor.position = m.cursor.position + 10 := by
  obtain ⟨todo, c⟩ := m
  unfold Opens at h
  cases todo with
  | done a => exact absurd h (Nat.lt_irrefl _)
  | call call answer =>
      cases call with
      | openChunk => exact Cursor.openChunk_position h
      | closeChunk => exact absurd h (Nat.not_lt.2 c.closeChunk_spans_le)
      | readByte => simp [next, Cursor.readByte, Cursor.readWith_spans] at h
      | readInt => simp [next, Cursor.readInt, Cursor.readWith_spans] at h
      | readReal => simp [next, Cursor.readReal, Cursor.readWith_spans] at h
      | readText => simp [next, Cursor.readText_spans] at h
      | atEnd => exact absurd h (Nat.lt_irrefl _)
      | register label parent parser => exact absurd h (Nat.lt_irrefl _)
      | parse target =>
          rw [next, nextChunk_cursor] at h ⊢
          split at h
          · exact absurd h (Nat.lt_irrefl _)
          · rename_i hend
            rw [if_neg hend]
            exact Cursor.openChunk_position h

/-! ## Many steps -/

theorem opened_succ (n : ℕ) :
    opened parsers m (n + 1) =
      opened parsers m n + if ((next parsers)^[n] m).Opens parsers then 1 else 0 := by
  simp [opened, List.range_succ, List.countP_append, List.countP_singleton]

/-- Each chunk that is opened moves the cursor ten bytes on. -/
theorem position_add_opened_le (parsers : κ → Parser κ τ) (h : m.cursor.Sound) (n : ℕ) :
    m.cursor.position + 10 * opened parsers m n ≤ ((next parsers)^[n] m).cursor.position := by
  induction n with
  | zero => exact Nat.le_refl _
  | succ n ih =>
      have hsound := (leads_iterate parsers h n).advances.sound
      have hstep := (leads_next parsers hsound).advances.position
      rw [opened_succ, Function.iterate_succ_apply']
      split
      · rename_i hopens
        rw [hopens.position]
        omega
      · omega

theorem opened_le (parsers : κ → Parser κ τ) (h : m.cursor.Sound) (n : ℕ) :
    opened parsers m n ≤ (m.cursor.file.length - m.cursor.position) / 10 := by
  have hposition := position_add_opened_le parsers h n
  have hlater := (leads_iterate parsers h n).advances
  have hfile := Nat.le_trans hlater.sound.inScope hlater.sound.scopeEnd_le
  rw [hlater.file] at hfile
  omega

end Moment

/-! ## Sessions -/

/-- A session that starts at a cursor comes to an end, which is that of running it, and never opens
more chunks than there is room for their headers in the rest of the file. -/
structure Program.Bounded (parsers : κ → Parser κ τ) (session : Program κ τ α) (start : Cursor κ) :
    Prop where
  ends : ∃ n c, (Moment.next parsers)^[n] ⟨session, start⟩ =
    ⟨.done (session.run parsers start.reader).1, c⟩
  opened : ∀ n, Moment.opened parsers ⟨session, start⟩ n ≤
    (start.file.length - start.position) / 10

theorem Cursor.Sound.bounded {start : Cursor κ} (h : start.Sound) (parsers : κ → Parser κ τ)
    (session : Program κ τ α) : session.Bounded parsers start := by
  obtain ⟨n, c, hn, -⟩ : ∃ n c, (Moment.next parsers)^[n] ⟨session, start⟩ =
      ⟨.done (session.run parsers start.reader).1, c⟩ ∧
        c.reader = (session.run parsers start.reader).2 := Moment.exists_done h
  exact ⟨⟨n, c, hn⟩, Moment.opened_le parsers h⟩

/-- Loading as a session: script chunks get their parser, and the chunks of the file are parsed. -/
def loadingSession : Program ParserName Target (Except ChunkError Unit × Target) := do
  Program.ofCall (.register scriptLabel "" .script)
  Program.ofCall (.parse (.scripts []))

/-- What a session that parses scripts has loaded. -/
def scriptsLoaded : Except ChunkError Unit × Target → Except ChunkError (List Script)
  | (.error e, _) => .error e
  | (.ok (), target) => .ok target.foundScripts

theorem loadScripts_eq_loadingSession {registry : Registry} {bytes : List UInt8}
    {r : Reader ParserName} (h : Reader.ofBytes bytes = .ok r) :
    loadScripts registry bytes =
      scriptsLoaded (loadingSession.run (scriptParsers registry) r).1 := by
  have hopen : openScripts bytes = .ok (r.register scriptLabel "" .script) := by
    rw [openScripts, h]
    rfl
  have hrun : loadingSession.run (scriptParsers registry) r =
      (r.register scriptLabel "" .script).parse (scriptParsers registry) (.scripts []) :=
    (Program.run_ofCall_bind _ (.register ..) _ r).trans (Program.run_ofCall _ (.parse _) _)
  rw [loadScripts, hopen, except_ok_bind, hrun]
  generalize Reader.parse _ _ _ = out
  obtain ⟨⟨e | ⟨⟩, target⟩, r'⟩ := out <;> rfl

/-- On every file that can be opened, with any parsers, every session ends, however it opens, closes
and parses, and opens at most one chunk for every ten bytes after the label table. So loading ends
on all bytes: they cannot be opened, or the scripts are those of a session that ends. -/
theorem chunks_opened_le :
    (∀ (parsers : κ → Parser κ τ) (session : Program κ τ α) (file : List UInt8) (r : Reader κ),
      Reader.ofBytes file = .ok r → ∃ start, Cursor.ofBytes file = .ok start ∧
        start.reader = r ∧ start.file = file ∧ session.Bounded parsers start) ∧
    ∀ (registry : Registry) (bytes : List UInt8),
      (∃ e, (Reader.ofBytes bytes : Except ChunkError (Reader ParserName)) = .error e ∧
        loadScripts registry bytes = .error e) ∨
      ∃ start, Cursor.ofBytes bytes = .ok start ∧
        loadingSession.Bounded (scriptParsers registry) start ∧
        loadScripts registry bytes =
          scriptsLoaded (loadingSession.run (scriptParsers registry) start.reader).1 := by
  constructor
  · intro parsers session file r h
    obtain ⟨start, hstart, hreader, hfile, hsound⟩ := Cursor.ofBytes_of_reader h
    exact ⟨start, hstart, hreader, hfile, hsound.bounded parsers session⟩
  · intro registry bytes
    cases h : (Reader.ofBytes bytes : Except ChunkError (Reader ParserName)) with
    | error e => exact .inl ⟨e, rfl, loadScripts_of_error h⟩
    | ok r =>
        obtain ⟨start, hstart, rfl, -, hsound⟩ := Cursor.ofBytes_of_reader h
        exact .inr ⟨start, hstart, hsound.bounded _ _, loadScripts_eq_loadingSession h⟩

/-- A parser that parses the chunks inside its own. -/
def descending : Unit → Parser Unit Unit := fun _ _ target => Program.ofCall (.parse target)

def descent : Program Unit Unit (Except ChunkError Unit × Unit) := do
  Program.ofCall (.register "A" "" ())
  Program.ofCall (.register "A" "A" ())
  Program.ofCall (.parse ())

/-- Three chunks of one label, one inside the other, the innermost empty. -/
def nestedChunks : List UInt8 :=
  magic ++ [1, 0, 0, 0, 1, 65, 1, 0, 0, 0] ++ [1, 0, 0, 0, 0, 0, 20, 0, 0, 0] ++
    [1, 0, 0, 0, 0, 0, 10, 0, 0, 0] ++ [1, 0, 0, 0, 0, 0, 0, 0, 0, 0]

theorem descent_opens_three : ∃ start : Cursor Unit, Cursor.ofBytes nestedChunks = .ok start ∧
    (nestedChunks.length - start.position) / 10 = 3 ∧
    (∀ n, Moment.opened descending ⟨descent, start⟩ n ≤ 3) ∧
    Moment.opened descending ⟨descent, start⟩ 11 = 3 := by
  have hr : Reader.ofBytes nestedChunks =
      .ok (⟨[(1, "A")], [], nestedChunks.drop 14, []⟩ : Reader Unit) := rfl
  obtain ⟨start, hstart, -, hfile, hbounded⟩ :=
    chunks_opened_le.1 descending descent nestedChunks _ hr
  have hthree : (nestedChunks.length - start.position) / 10 = 3 := by
    cases hstart
    rfl
  refine ⟨start, hstart, hthree, fun n => ?_, ?_⟩
  · have hopened := hbounded.opened n
    rwa [hfile, hthree] at hopened
  · cases hstart
    rfl

end TriggerScript
