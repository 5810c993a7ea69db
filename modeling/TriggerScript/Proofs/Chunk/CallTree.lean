import TriggerScript.Proofs.Chunk.Replay
import TriggerScript.Proofs.Chunk.Buffer

/-!
# The tree of calls

Calls that write a file need not be balanced. A close with no chunk open does nothing, and what is
still open is closed at the end: the calls that are left are those of exactly one tree of values and
chunks. The file is this tree written down level by level, each chunk with the exact size of what is
in it.
-/

namespace TriggerScript

open LittleEndian

/-- A value that is written in a chunk. -/
inductive Datum where
  | byte (value : UInt8)
  | int (value : Int32)
  | real (value : Single)
  | text (value : String)
  deriving DecidableEq

namespace Datum

def event : Datum → Event
  | byte value => .byte value
  | int value => .int value
  | real value => .real value
  | text value => .text value

def bytes (d : Datum) : List UInt8 := d.event.bytes

@[simp]
theorem length_bytes (d : Datum) : d.bytes.length = d.event.size := by
  cases d <;> simp [bytes, event, Event.bytes, Event.size]

theorem event_writes (id : String → UInt32) (d : Datum) : Writes id [d.event] d.bytes := by
  cases d with
  | byte value => exact .byte value
  | int value => exact .int value
  | real value => exact .real value
  | text value => exact .text value

theorem event_injective {d d' : Datum} (h : d.event = d'.event) : d = d' := by
  cases d <;> cases d' <;> cases h <;> rfl

end Datum

/-- Values and chunks, in the order in which they are written. -/
inductive CallTree where
  | nil
  | datum (value : Datum) (rest : CallTree)
  | chunk (label : String) (version : UInt16) (inside rest : CallTree)
  deriving DecidableEq

namespace CallTree

/-- The calls that write a tree, which open and close its chunks. -/
def calls : CallTree → List Event
  | nil => []
  | datum value rest => value.event :: rest.calls
  | chunk label version inside rest =>
    .openChunk label version :: inside.calls ++ .closeChunk :: rest.calls

/-- The bytes of a tree, for given identifiers of labels. -/
def serialize (id : String → Nat) : CallTree → List UInt8
  | nil => []
  | datum value rest => value.bytes ++ rest.serialize id
  | chunk label version inside rest =>
    let contents := inside.serialize id
    word (id label) ++ ofUInt16 version ++ word contents.length ++ contents ++ rest.serialize id

end CallTree

/-! ## Files -/

def Event.opened? : Event → Option String
  | .openChunk label _ => some label
  | _ => none

/-- The labels of the chunks that are opened, in the order of their first use. -/
def openedLabels (events : List Event) : List String := (events.filterMap Event.opened?).eraseDups

/-- The number of a label in a table. -/
def labelNumber (labels : List String) (label : String) : Nat := labels.idxOf label + 1

/-- An entry of the label table: the first 255 bytes of the label and their number before them, and
the number of the label. -/
def plainEntry (label : String) (number : Nat) : List UInt8 :=
  let name := label.toUTF8.data.toList.take 255
  UInt8.ofNat name.length :: name ++ word number

def plainTable (labels : List String) : List UInt8 :=
  word labels.length ++ (labels.zipIdx 1).flatMap fun (label, number) => plainEntry label number

/-! ## Calls that are not balanced -/

/-- The calls inside `depth` open chunks, without those that close nothing, and with a close at the
end for each chunk that is still open. -/
def balanced : Nat → List Event → List Event
  | depth, [] => List.replicate depth .closeChunk
  | depth, .openChunk label version :: rest => .openChunk label version :: balanced (depth + 1) rest
  | 0, .closeChunk :: rest => balanced 0 rest
  | depth + 1, .closeChunk :: rest => .closeChunk :: balanced depth rest
  | depth, e :: rest => e :: balanced depth rest

section Replicate

variable (n : Nat)

theorem written_replicate_closeChunk : written (List.replicate n .closeChunk) = 0 := by
  induction n with
  | zero => rfl
  | succ n ih => rw [List.replicate_succ, written, ih, Event.size]

theorem ahead_replicate_closeChunk (id : String → UInt32) :
    ahead id n (List.replicate n .closeChunk) = ahead id n [] := by
  induction n with
  | zero => rfl
  | succ n ih => simp [List.replicate_succ, ahead, ih]

end Replicate

theorem written_balanced (depth : Nat) (events : List Event) :
    written (balanced depth events) = written events := by
  induction events generalizing depth with
  | nil => exact written_replicate_closeChunk depth
  | cons e rest ih =>
      cases e with
      | closeChunk => cases depth <;> simp [balanced, Event.size, ih]
      | _ => simp [balanced, ih]

theorem ahead_balanced (id : String → UInt32) (depth : Nat) (events : List Event) :
    ahead id depth (balanced depth events) = ahead id depth events := by
  induction events generalizing depth with
  | nil => exact ahead_replicate_closeChunk depth id
  | cons e rest ih =>
      cases e with
      | closeChunk => cases depth <;> simp [balanced, ahead, ih]
      | _ => simp [balanced, ahead, ih]

/-! ## The tree of balanced calls -/

/-- What calls write inside `depth` open chunks: in the innermost one, and in each chunk around it
after the one inside has been closed. -/
def branches : Nat → List Event → CallTree × List CallTree
  | depth, [] => (.nil, List.replicate depth .nil)
  | depth, .openChunk label version :: rest =>
    let (inside, outer) := branches (depth + 1) rest
    (.chunk label version inside (outer.headD .nil), outer.tail)
  | 0, .closeChunk :: rest => branches 0 rest
  | depth + 1, .closeChunk :: rest =>
    let (here, outer) := branches depth rest
    (.nil, here :: outer)
  | depth, .byte value :: rest =>
    let (here, outer) := branches depth rest
    (.datum (.byte value) here, outer)
  | depth, .int value :: rest =>
    let (here, outer) := branches depth rest
    (.datum (.int value) here, outer)
  | depth, .real value :: rest =>
    let (here, outer) := branches depth rest
    (.datum (.real value) here, outer)
  | depth, .text value :: rest =>
    let (here, outer) := branches depth rest
    (.datum (.text value) here, outer)

theorem length_branches_snd (depth : Nat) (events : List Event) :
    (branches depth events).2.length = depth := by
  induction events generalizing depth with
  | nil => simp [branches]
  | cons e rest ih =>
      cases e with
      | closeChunk => cases depth <;> simp [branches, ih]
      | _ => simp [branches, ih]

/-- The calls of the branches: those of the innermost one, and for each of the others the close that
leads to it and its own. -/
def branchCalls (b : CallTree × List CallTree) : List Event :=
  b.1.calls ++ b.2.flatMap fun tree => .closeChunk :: tree.calls

theorem branchCalls_branches (depth : Nat) (events : List Event) :
    branchCalls (branches depth events) = balanced depth events := by
  induction events generalizing depth with
  | nil =>
      rw [branches, balanced, branchCalls, CallTree.calls, List.nil_append]
      induction depth with
      | zero => rfl
      | succ depth ih => rw [List.replicate_succ, List.flatMap_cons, ih]; rfl
  | cons e rest ih =>
      cases e with
      | openChunk label version =>
          have hlen := length_branches_snd (depth + 1) rest
          have hrest := ih (depth + 1)
          cases hb : branches (depth + 1) rest with
          | mk inside outer =>
              cases outer with
              | nil => simp [hb] at hlen
              | cons here outer =>
                  rw [hb] at hrest
                  simp [branches, hb, balanced, ← hrest, branchCalls, CallTree.calls]
      | closeChunk =>
          cases depth with
          | zero => exact ih 0
          | succ depth => simp [branches, balanced, ← ih depth, branchCalls, CallTree.calls]
      | _ => simp [branches, balanced, ← ih depth, branchCalls, CallTree.calls, Datum.event]

namespace CallTree

/-- Calls that come after those of a whole tree. -/
def Ends : List Event → Prop
  | [] => True
  | e :: _ => e = .closeChunk

theorem ends_closeChunk (rest : List Event) : Ends (.closeChunk :: rest) := rfl

theorem not_ends_event (d : Datum) (rest : List Event) : ¬ Ends (d.event :: rest) := by
  cases d <;> nofun

/-- A tree can be told from its calls, whatever comes after it. -/
theorem calls_append_injective {t t' : CallTree} {rest rest' : List Event} (hr : Ends rest)
    (hr' : Ends rest') (h : t.calls ++ rest = t'.calls ++ rest') : t = t' ∧ rest = rest' := by
  induction t generalizing t' rest rest' with
  | nil =>
      cases t' with
      | nil => exact ⟨rfl, h⟩
      | datum value after' =>
          subst h
          exact absurd hr (not_ends_event value _)
      | chunk label version inside' after' =>
          subst h
          cases hr
  | datum value after ih =>
      cases t' with
      | nil =>
          subst h
          exact absurd hr' (not_ends_event value _)
      | datum value' after' =>
          obtain ⟨hvalue, h⟩ := List.cons.inj h
          obtain ⟨rfl, rfl⟩ := ih hr hr' h
          exact ⟨by rw [Datum.event_injective hvalue], rfl⟩
      | chunk label version inside' after' =>
          cases value <;> cases (List.cons.inj h).1
  | chunk label version inside after ihInside ihAfter =>
      cases t' with
      | nil =>
          subst h
          cases hr'
      | datum value' after' => cases value' <;> cases (List.cons.inj h).1
      | chunk label' version' inside' after' =>
          simp only [calls, List.cons_append, List.append_assoc, List.cons.injEq] at h
          obtain ⟨hopen, h⟩ := h
          cases hopen
          obtain ⟨rfl, hafter⟩ := ihInside (ends_closeChunk _) (ends_closeChunk _) h
          obtain ⟨rfl, rfl⟩ := ihAfter hr hr' (List.cons.inj hafter).2
          exact ⟨rfl, rfl⟩

theorem calls_injective {t t' : CallTree} (h : t.calls = t'.calls) : t = t' := by
  have hends : Ends [] := trivial
  have happend : t.calls ++ [] = t'.calls ++ [] := by rw [h]
  exact (calls_append_injective hends hends happend).1

/-- The calls that are left when the others have been balanced are those of exactly one tree. -/
theorem exists_calls_eq_iff (events : List Event) :
    ∃ tree : CallTree, ∀ t : CallTree, t.calls = balanced 0 events ↔ t = tree := by
  have hb := branchCalls_branches 0 events
  rw [branchCalls, List.length_eq_zero_iff.1 (length_branches_snd 0 events), List.flatMap_nil,
    List.append_nil] at hb
  exact ⟨_, fun t => ⟨fun ht => calls_injective (ht.trans hb.symm), fun ht => ht ▸ hb⟩⟩

/-! ## What is written -/

theorem length_serialize (id : String → Nat) (t : CallTree) :
    (t.serialize id).length = written t.calls := by
  induction t with
  | nil => rfl
  | datum value rest ih => simp [serialize, calls, ih]
  | chunk label version inside rest ihInside ihRest =>
      simp [serialize, calls, written_append, ihInside, ihRest, word, Event.size]
      omega

/-- The events of a tree write what the tree is serialized to, when no chunk is larger than its size
field can state. -/
theorem calls_writes (id : String → Nat) {t : CallTree} (h : (t.serialize id).length ≤ maxSize) :
    Writes (fun label => UInt32.ofNat (id label)) t.calls (t.serialize id) := by
  induction t with
  | nil => exact .nil
  | datum value rest ih =>
      rw [serialize, List.length_append] at h
      exact (value.event_writes _).append (ih (by omega))
  | chunk label version inside rest ihInside ihRest =>
      simp only [serialize, List.length_append] at h
      have hchunk := (Writes.chunk label version (ihInside (by omega))).append (ihRest (by omega))
      have hsize : min (inside.serialize id).length maxSize = (inside.serialize id).length :=
        Nat.min_eq_left (by omega)
      rw [chunkBytes, hsize, ofInt32_ofNat, ofUInt32_ofNat] at hchunk
      simpa [calls, serialize] using hchunk

end CallTree

/-! ## The label table -/

theorem intern_eraseDups {labels : List String} (h : labels.eraseDups = labels) (label : String) :
    (intern labels label).eraseDups = intern labels label := by
  by_cases hmem : label ∈ labels
  · rw [intern, if_pos hmem, h]
  · rw [intern, if_neg hmem, List.eraseDups_append, h]
    simp [List.removeAll, hmem, List.eraseDups_cons]

theorem eraseDups_intern_append (labels : List String) (label : String) (rest : List String) :
    (intern labels label ++ rest).eraseDups = (labels ++ label :: rest).eraseDups := by
  by_cases hmem : label ∈ labels
  · rw [intern, if_pos hmem, List.eraseDups_append, List.eraseDups_append]
    simp [List.removeAll, hmem]
  · rw [intern, if_neg hmem, List.append_assoc, List.singleton_append]

theorem internAll_eq {labels : List String} (h : labels.eraseDups = labels) (events : List Event) :
    internAll labels events = (labels ++ events.filterMap Event.opened?).eraseDups := by
  induction events generalizing labels with
  | nil => rw [internAll, List.filterMap_nil, List.append_nil, h]
  | cons e rest ih =>
      cases e with
      | openChunk label version =>
          rw [internAll, ih (intern_eraseDups h label), eraseDups_intern_append]
          rfl
      | _ => exact ih h

theorem internAll_nil_eq (events : List Event) : internAll [] events = openedLabels events :=
  internAll_eq rfl events

theorem labelName_eq (label : String) : Writer.labelName label = label.toUTF8.data.toList.take 255 := by
  rw [String.toUTF8, ← String.utf8Encode_toList, List.utf8Encode, List.data_toByteArray]
  rfl

theorem labelEntry_eq (label : String) (number : Nat) :
    Writer.labelEntry label (UInt32.ofNat number) = plainEntry label number := by
  rw [Writer.labelEntry, labelName_eq, ofUInt32_ofNat, plainEntry]

theorem labelTable_eq (labels : List String) : Writer.labelTable labels = plainTable labels := by
  have hentries (n : Nat) :
      (labels.mapIdx fun index label =>
          Writer.labelEntry label (UInt32.ofNat (index + n))).flatten =
        (labels.zipIdx n).flatMap fun (label, number) => plainEntry label number := by
    induction labels generalizing n with
    | nil => rfl
    | cons label labels ih =>
        rw [List.mapIdx_cons, List.flatten_cons, List.zipIdx_cons, List.flatMap_cons, ← ih (n + 1),
          labelEntry_eq, Nat.zero_add]
        simp only [Nat.add_assoc, Nat.add_comm 1 n]
  rw [Writer.labelTable, ofInt32_ofNat, plainTable, ← hentries 1]
  rfl

/-! ## The file -/

theorem labelId_eq (labels : List String) :
    labelId labels = fun label => UInt32.ofNat (labelNumber labels label) := rfl

theorem exists_writeFile_eq {events : List Event} (h : written events ≤ maxSize) :
    ∃ tree : CallTree, (∀ t : CallTree, t.calls = balanced 0 events ↔ t = tree) ∧
      writeFile events = magic ++ plainTable (openedLabels events) ++
        tree.serialize (labelNumber (openedLabels events)) := by
  obtain ⟨tree, htree⟩ := CallTree.exists_calls_eq_iff events
  have hcalls : tree.calls = balanced 0 events := (htree tree).2 rfl
  refine ⟨tree, htree, ?_⟩
  have hlen : (tree.serialize (labelNumber (openedLabels events))).length ≤ maxSize := by
    rwa [CallTree.length_serialize, hcalls, written_balanced]
  rw [writeFile_eq, internAll_nil_eq, labelTable_eq, ← ahead_balanced, ← hcalls, labelId_eq,
    (CallTree.calls_writes _ hlen).ahead_eq]

theorem closesInPlace_run {events : List Event} (h : written events ≤ maxSize) :
    (Buffer.empty.run events).ClosesInPlace := by
  have hbuffer : (Writer.empty.run events).buffer = Buffer.empty.run events :=
    Writer.empty.buffer_run events
  rw [← hbuffer]
  refine Writer.buffer_closesInPlace ?_
  rw [hbuffer, Buffer.length_run]
  simpa [Buffer.empty] using h

/-- A file is the magic, the table of the labels that are opened, numbered from one, and the tree of
the calls, in which every chunk states the exact size of what is in it. It is also what is written
in place: at every moment up to the last close at the end, closing a chunk sets the four bytes of
its own size field and no other byte. -/
theorem writeFile_eq_serialize (events : List Event)
    (h : (Writer.empty.run events).closeAll.content.size ≤ 2147483647) :
    (∃ tree : CallTree, (∀ t : CallTree, t.calls = balanced 0 events ↔ t = tree) ∧
      writeFile events = magic ++ plainTable (openedLabels events) ++
        tree.serialize (labelNumber (openedLabels events))) ∧
    writeFile events = (Buffer.empty.run events).finish ∧
    ∀ (before : List Event) (n : Nat), before <+: events ++ List.replicate n .closeChunk →
      (Buffer.empty.run before).ClosesInPlace := by
  rw [size_content] at h
  refine ⟨exists_writeFile_eq h, ?_, fun before n hbefore => closesInPlace_run ?_⟩
  · rw [writeFile, ← Writer.finish_buffer, Writer.buffer_run]
    rfl
  · obtain ⟨after, hafter⟩ := hbefore
    have hwritten := congrArg written hafter
    rw [written_append, written_append, written_replicate_closeChunk] at hwritten
    exact Nat.le_trans (by omega) h

theorem unbalanced_serialize :
    writeFile unbalanced = magic ++ plainTable ["A", "B"] ++
      (CallTree.chunk "A" 1
        (.chunk "B" 2 (.datum (.byte 7) .nil)
          (.chunk "A" 3 (.datum (.int 5) .nil) .nil)) .nil).serialize (labelNumber ["A", "B"]) := by
  obtain ⟨⟨tree, htree, hfile⟩, -⟩ := writeFile_eq_serialize unbalanced (by decide)
  rw [hfile, ← (htree (.chunk "A" 1 (.chunk "B" 2 (.datum (.byte 7) .nil)
    (.chunk "A" 3 (.datum (.int 5) .nil) .nil)) .nil)).1 (by decide)]
  have hlabels : openedLabels unbalanced = ["A", "B"] := by decide
  rw [hlabels]

end TriggerScript
