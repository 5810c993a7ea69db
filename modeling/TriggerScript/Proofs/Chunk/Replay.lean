import TriggerScript.Proofs.Chunk.Dispatch
import TriggerScript.Proofs.Chunk.LabelTable

/-!
# Replaying a file

A reader that makes, for each step in writing a file, the corresponding call gets back what was
written, in the order in which it was written. Steps need not be balanced: closing when nothing is
open does nothing on either side, and what is left open ends with the file.
-/

namespace TriggerScript

open LittleEndian

variable {κ α : Type}

/-! ## What was written -/

/-- The events before the close of an open chunk in which `depth` further chunks are open. -/
def scope : Nat → List Event → List Event
  | _, [] => []
  | depth, .openChunk label version :: rest => .openChunk label version :: scope (depth + 1) rest
  | 0, .closeChunk :: _ => []
  | depth + 1, .closeChunk :: rest => .closeChunk :: scope depth rest
  | depth, e :: rest => e :: scope depth rest

/-- The events before the end of the innermost open chunk, or of the file when none is open. -/
def within : List String → List Event → List Event
  | [], events => events
  | _ :: _, events => scope 0 events

def openAfter (labels : List String) : Event → List String
  | .openChunk label _ => keptLabel label :: labels
  | .closeChunk => labels.tail
  | _ => labels

/-! ## Calls -/

inductive ReadBack where
  | opened (info : ChunkInfo)
  | closed
  | byte (value : UInt8)
  | int (value : Int32)
  | real (value : Single)
  | text (value : String)
  deriving DecidableEq

namespace Reader

/-- The call that corresponds to a step in writing. -/
def readBack (r : Reader κ) : Event → Except ChunkError ReadBack × Reader κ
  | .openChunk .. => (r.openChunk.1.map .opened, r.openChunk.2)
  | .closeChunk => (.ok .closed, r.closeChunk)
  | .byte _ => (r.readByte.1.map .byte, r.readByte.2)
  | .int _ => (r.readInt.1.map .int, r.readInt.2)
  | .real _ => (r.readReal.1.map .real, r.readReal.2)
  | .text _ => (r.readText.1.map .text, r.readText.2)

/-- Makes the calls that correspond to events: what each answers, and whether the reader is at the
end of a chunk after it. -/
def replay (r : Reader κ) : List Event → List (Except ChunkError ReadBack × Bool)
  | [] => []
  | e :: rest =>
    let (answer, r) := r.readBack e
    (answer, r.atEnd) :: r.replay rest

end Reader

/-- What comes back for a step inside open chunks with the given labels, when `rest` follows it. -/
def expected (labels : List String) (e : Event) (rest : List Event) : ReadBack :=
  match e with
  | .openChunk label version =>
    .opened ⟨keptLabel label, labels.headD "", version, written (scope 0 rest)⟩
  | .closeChunk => .closed
  | .byte value => .byte value
  | .int value => .int value
  | .real value => .real value
  | .text value => .text (StoredText.kept value)

/-- What comes back for events, and whether nothing more is written before the end of the chunk that
is innermost after each. -/
def expectedAll : List String → List Event → List (ReadBack × Bool)
  | _, [] => []
  | labels, e :: rest =>
    let after := openAfter labels e
    (expected labels e rest, written (within after rest) = 0) :: expectedAll after rest

/-! ## Sizes -/

section Sizes

variable (id : String → UInt32)

/-- A chunk that is still open `j` chunks further out gets what the chunks inside it get. -/
theorem sum_take_ahead {j depth : Nat} (h : j < depth) (events : List Event) :
    (ahead id depth events).1.length + ((ahead id depth events).2.take j).flatten.length =
      written (scope j events) := by
  induction events generalizing j depth with
  | nil => simp [ahead, scope]
  | cons e rest ih =>
      cases e with
      | openChunk label version =>
          obtain ⟨body, here, outer, hrest, hopen⟩ := ahead_openChunk id depth label version rest
          rw [scope, written, ← ih (Nat.succ_lt_succ h), hopen, hrest, Event.size]
          simp
          omega
      | closeChunk =>
          cases depth with
          | zero => omega
          | succ depth =>
              cases j with
              | zero => simp [ahead, scope]
              | succ j => simpa [ahead, scope, Event.size] using ih (Nat.lt_of_succ_lt_succ h)
      | _ =>
          simp [ahead, scope, Event.bytes, Event.size, ← ih h]
          omega

theorem length_ahead_fst (labels : List String) (events : List Event) :
    (ahead id labels.length events).1.length = written (within labels events) := by
  cases labels with
  | nil => exact length_ahead id events
  | cons label labels => exact sum_take_ahead id (Nat.zero_lt_succ labels.length) events

theorem scope_prefix (depth : Nat) (events : List Event) : scope depth events <+: events := by
  induction events generalizing depth with
  | nil => exact List.prefix_refl _
  | cons e rest ih =>
      cases e with
      | closeChunk =>
          cases depth with
          | zero => exact List.nil_prefix
          | succ depth => exact (List.prefix_cons_inj _).2 (ih depth)
      | _ => exact (List.prefix_cons_inj _).2 (ih _)

theorem written_scope_le (depth : Nat) (events : List Event) :
    written (scope depth events) ≤ written events := by
  obtain ⟨tail, h⟩ := scope_prefix depth events
  rw [← congrArg written h, written_append]
  exact Nat.le_add_right _ _

end Sizes

/-! ## The invariant -/

namespace Reader

/-- A reader that has the rest of a file ahead of it: the identifiers are those of the labels in
`all`, chunks with the given labels are open, and what is unread in them is what the remaining
events add. -/
structure Ahead (all labels : List String) (events : List Event) (r : Reader κ) : Prop where
  table : r.labels.Covers (labelId all) events
  unread : r.unread = (ahead (labelId all) labels.length events).1
  after : r.chunks.map (·.after) = (ahead (labelId all) labels.length events).2
  names : r.chunks.map (·.label) = labels

variable {all labels : List String} {r : Reader κ} {e : Event} {rest : List Event}

theorem Ahead.atEnd (h : r.Ahead all labels rest) :
    r.atEnd = decide (written (within labels rest) = 0) := by
  rw [Reader.atEnd, h.unread, ← length_ahead_fst (labelId all)]
  cases (ahead (labelId all) labels.length rest).1 <;> simp

theorem ahead_start {table : LabelTable} {events : List Event}
    (h : table.Covers (labelId all) events) :
    (⟨table, [], (ahead (labelId all) 0 events).1, []⟩ : Reader κ).Ahead all [] events where
  table := h
  unread := rfl
  after := (List.length_eq_zero_iff.1 (length_ahead_snd (labelId all) 0 events)).symm
  names := rfl

theorem Ahead.value (h : r.Ahead all labels (e :: rest)) {here : List UInt8}
    {outer : List (List UInt8)}
    (he : ahead (labelId all) labels.length (e :: rest) = (e.bytes ++ here, outer))
    (hrest : ahead (labelId all) labels.length rest = (here, outer)) :
    r.unread = e.bytes ++ here ∧ { r with unread := here }.Ahead all labels rest := by
  refine ⟨by rw [h.unread, he], h.table.mono (List.subset_cons_self e rest), ?_, ?_, h.names⟩
  · rw [hrest]
  · rw [hrest]
    exact h.after.trans (by rw [he])

theorem readWith_of_unread {take? : List UInt8 → Option (α × List UInt8)} {bytes here : List UInt8}
    {a : α} (hr : r.unread = bytes ++ here) (h : take? (bytes ++ here) = some (a, here))
    (field : Field) : r.readWith take? field = (.ok a, { r with unread := here }) := by
  simp only [readWith, hr, h]

theorem readText_of_unread {value : String} {here : List UInt8}
    (hr : r.unread = StoredText.encode value ++ here) :
    r.readText = (.ok (StoredText.kept value), { r with unread := here }) := by
  have hc := (StoredText.toNat_length_content value).symm
  rw [StoredText.encode, List.append_assoc] at hr
  rw [readText, readWith_of_unread hr (takeUInt16?_append _ _)]
  simp only [readWith_of_unread (r := { r with unread := StoredText.content value ++ here }) rfl
    (takeBytes?_append here hc), ← StoredText.stored_eq_kept]
  rfl

theorem Ahead.closeChunk (h : r.Ahead all labels (.closeChunk :: rest)) :
    r.closeChunk.Ahead all labels.tail rest := by
  have htable := h.table.mono (List.subset_cons_self _ rest)
  cases hc : r.chunks with
  | nil =>
      have hlabels : labels = [] := by rw [← h.names, hc, List.map_nil]
      have hr : r.closeChunk = r := by simp [Reader.closeChunk, hc]
      subst hlabels
      rw [hr]
      exact ⟨htable, h.unread, h.after, h.names⟩
  | cons chunk outer =>
      have hr : r.closeChunk = { r with unread := chunk.after, chunks := outer } := by
        simp [Reader.closeChunk, hc]
      have hlabels : labels = chunk.label :: outer.map (·.label) := by rw [← h.names, hc]; rfl
      have hafter := h.after
      subst hlabels
      rw [hc, List.map_cons, List.length_cons, ahead, List.cons.injEq] at hafter
      rw [hr]
      exact ⟨htable, hafter.1, hafter.2, rfl⟩

theorem Ahead.enclosing {events : List Event} (h : r.Ahead all labels events) :
    r.enclosing = labels.headD "" := by
  rw [← h.names, Reader.enclosing]
  cases r.chunks <;> rfl

theorem Ahead.openChunk {label : String} {version : UInt16}
    (h : r.Ahead all labels (.openChunk label version :: rest)) (hs : written rest ≤ maxSize) :
    ∃ r', r.openChunk =
        (.ok ⟨keptLabel label, labels.headD "", version, written (scope 0 rest)⟩, r') ∧
      r'.Ahead all (keptLabel label :: labels) rest := by
  obtain ⟨body, here, outer, hrest, hopen⟩ :=
    ahead_openChunk (labelId all) labels.length label version rest
  have hsize : body.length = written (scope 0 rest) := by
    have hbody := length_ahead_fst (labelId all) (keptLabel label :: labels) rest
    rwa [List.length_cons, hrest] at hbody
  have hbody : body.length ≤ maxSize := by
    have := written_scope_le 0 rest
    omega
  have htake := takeChunk_append (h.table _ _ List.mem_cons_self) hbody version here
  have hunread : r.unread = chunkBytes (labelId all label) version body ++ here := by
    rw [h.unread, hopen]
  rw [← hunread] at htake
  refine ⟨r.enter ⟨keptLabel label, version, body⟩ here, ?_, ?_, ?_, ?_, ?_⟩
  · rw [openChunk_of_takeChunk htake, Chunk.info, h.enclosing, hsize]
  · exact h.table.mono (List.subset_cons_self _ rest)
  · rw [List.length_cons, hrest]
    rfl
  · rw [List.length_cons, hrest]
    exact congrArg (here :: ·) (h.after.trans (by rw [hopen]))
  · exact congrArg (keptLabel label :: ·) h.names

/-- The step: a reader that has an event ahead of it answers what is expected, and then has the
events after it ahead. -/
theorem Ahead.readBack (h : r.Ahead all labels (e :: rest)) (hs : written rest ≤ maxSize) :
    ∃ r', r.readBack e = (.ok (expected labels e rest), r') ∧
      r'.Ahead all (openAfter labels e) rest := by
  cases e with
  | openChunk label version =>
      obtain ⟨r', hr, hahead⟩ := h.openChunk hs
      exact ⟨r', by rw [Reader.readBack, hr]; rfl, hahead⟩
  | closeChunk => exact ⟨r.closeChunk, rfl, h.closeChunk⟩
  | byte value =>
      obtain ⟨hunread, hahead⟩ := h.value rfl rfl
      have hread := readWith_of_unread hunread (takeByte?_append _ _) .byte
      exact ⟨_, by rw [Reader.readBack, readByte, hread]; rfl, hahead⟩
  | int value =>
      obtain ⟨hunread, hahead⟩ := h.value rfl rfl
      have hread := readWith_of_unread hunread (takeInt32?_append _ _) .int
      exact ⟨_, by rw [Reader.readBack, readInt, hread]; rfl, hahead⟩
  | real value =>
      obtain ⟨hunread, hahead⟩ := h.value rfl rfl
      have hread := readWith_of_unread hunread (Single.take?_append _ _) .real
      exact ⟨_, by rw [Reader.readBack, readReal, hread]; rfl, hahead⟩
  | text value =>
      obtain ⟨hunread, hahead⟩ := h.value rfl rfl
      exact ⟨_, by rw [Reader.readBack, readText_of_unread hunread]; rfl, hahead⟩

/-- The run: a reader that has events ahead of it answers what is expected, call after call. -/
theorem Ahead.replay {events : List Event} (h : r.Ahead all labels events)
    (hs : written events ≤ maxSize) :
    r.replay events = (expectedAll labels events).map fun (answer, atEnd) => (.ok answer, atEnd) := by
  induction events generalizing r labels with
  | nil => rfl
  | cons e rest ih =>
      have hrest : written rest ≤ maxSize := by
        rw [written] at hs
        omega
      obtain ⟨r', hread, hahead⟩ := h.readBack hrest
      simp only [Reader.replay, hread, hahead.atEnd, ih hahead hrest]
      rfl

end Reader

/-- A file that was written can be opened and replayed: every call answers what was written, and the
reader is at an end exactly when nothing more is written before that end. An ASCII label of at most
255 characters comes back as it is. -/
theorem writeFile_replay (events : List Event)
    (h : (Writer.empty.run events).closeAll.content.size ≤ 2147483647) :
    (∃ r : Reader κ, Reader.ofBytes (writeFile events) = .ok r ∧
      r.atEnd = decide (written events = 0) ∧
      r.replay events = (expectedAll [] events).map fun (answer, atEnd) => (.ok answer, atEnd)) ∧
    ∀ label : String, (∀ c ∈ label.toList, c.toNat < 128) → label.length ≤ 255 →
      keptLabel label = label := by
  rw [size_content] at h
  have hlen : (internAll [] events).length ≤ maxSize := by
    have := length_internAll_le [] events
    rw [List.length_nil, Nat.zero_add] at this
    exact Nat.le_trans this h
  have hahead := Reader.ahead_start (κ := κ) (LabelTable.covers_entries hlen)
  exact ⟨⟨_, ofBytes_writeFile hlen, hahead.atEnd, hahead.replay h⟩, fun _ => keptLabel_of_ascii⟩

/-- Events that close too often and too seldom. -/
def unbalanced : List Event :=
  [.closeChunk, .openChunk "A" 1, .openChunk "B" 2, .byte 7, .closeChunk, .openChunk "A" 3, .int 5]

theorem unbalanced_replay : ∃ r : Reader Unit, Reader.ofBytes (writeFile unbalanced) = .ok r ∧
    r.replay unbalanced =
      [(.ok .closed, false), (.ok (.opened ⟨"A", "", 1, 25⟩), false),
        (.ok (.opened ⟨"B", "A", 2, 1⟩), false), (.ok (.byte 7), true), (.ok .closed, false),
        (.ok (.opened ⟨"A", "A", 3, 4⟩), false), (.ok (.int 5), true)] := by
  obtain ⟨⟨r, hr, -, hreplay⟩, -⟩ := writeFile_replay (κ := Unit) unbalanced (by decide)
  exact ⟨r, hr, hreplay⟩

end TriggerScript
