import TriggerScript.Chunk.Writer
import TriggerScript.Proofs.Chunk.Slice

/-!
# The layout of a written file

What a list of events adds to the content of the open chunks can be read off the events alone, from
the last one back. The writer, which sees them from the first one on, ends with the same content:
a file is the magic, the table of the labels used and what the events add at the top level.
-/

namespace TriggerScript

open LittleEndian

/-! ## Chunks -/

def maxSize : Nat := 2147483647

def chunkBytes (id : UInt32) (version : UInt16) (body : List UInt8) : List UInt8 :=
  ofUInt32 id ++ ofUInt16 version ++ ofInt32 (Int32.ofNat (min body.length maxSize)) ++ body

@[simp]
theorem length_chunkBytes (id : UInt32) (version : UInt16) (body : List UInt8) :
    (chunkBytes id version body).length = 10 + body.length := by
  simp [chunkBytes]
  omega

theorem takeHeader?_append (id : UInt32) (version : UInt16) (size : Int32) (rest : List UInt8) :
    Reader.takeHeader? (ofUInt32 id ++ ofUInt16 version ++ ofInt32 size ++ rest) =
      some ((id, version, size), rest) := by
  simp [Reader.takeHeader?, List.append_assoc]

theorem takeChunk_append {labels : LabelTable} {id : UInt32} {label : String} {body : List UInt8}
    (hl : labels.label? id = some label) (hs : body.length ≤ maxSize) (version : UInt16)
    (rest : List UInt8) :
    takeChunk labels (chunkBytes id version body ++ rest) = .ok (⟨label, version, body⟩, rest) := by
  have hsize : (Int32.ofNat (min body.length maxSize)).toInt = body.length := by
    rw [Nat.min_eq_left hs, Int32.toInt_ofNat_of_lt (by rw [maxSize] at hs; omega)]
  rw [chunkBytes, List.append_assoc]
  exact takeChunk_eq_ok_iff.2
    ⟨id, _, body ++ rest, takeHeader?_append _ _ _ _, hl, by omega, rfl, by rw [hsize]; rfl⟩

theorem decodeAllChunks_flatMap {α β : Type} {labels : LabelTable} {id : UInt32} {label : String}
    {version : UInt16} {decode : UInt16 → List UInt8 → Except ChunkError β} {as : List α}
    {body : α → List UInt8} {found : α → Except ChunkError β}
    (hl : ∀ a ∈ as, labels.label? id = some label) (hs : ∀ a ∈ as, (body a).length ≤ maxSize)
    (hd : ∀ a ∈ as, decode version (body a) = found a) :
    decodeAllChunks labels label decode (as.flatMap fun a => chunkBytes id version (body a)) =
      as.mapM found := by
  induction as with
  | nil => rw [List.flatMap_nil, decodeAllChunks_nil, List.mapM_nil]; rfl
  | cons a as ih =>
      have htake := takeChunk_append (hl a List.mem_cons_self) (hs a List.mem_cons_self) version
        (as.flatMap fun a => chunkBytes id version (body a))
      rw [List.flatMap_cons, decodeAllChunks_of_takeChunk htake rfl, hd a List.mem_cons_self,
        ih (fun b hb => hl b (List.mem_cons_of_mem a hb))
          (fun b hb => hs b (List.mem_cons_of_mem a hb))
          (fun b hb => hd b (List.mem_cons_of_mem a hb)), List.mapM_cons]

/-! ## Labels -/

def intern (labels : List String) (label : String) : List String :=
  if label ∈ labels then labels else labels ++ [label]

/-- The labels used, in the order of their first use. -/
def internAll (labels : List String) : List Event → List String
  | [] => labels
  | .openChunk label _ :: rest => internAll (intern labels label) rest
  | _ :: rest => internAll labels rest

def labelId (labels : List String) (label : String) : UInt32 := Writer.idAt (labels.idxOf label)

theorem prefix_intern (labels : List String) (label : String) : labels <+: intern labels label := by
  unfold intern
  split
  · exact List.prefix_refl labels
  · exact List.prefix_append labels [label]

theorem mem_intern_iff {labels : List String} {label l : String} :
    l ∈ intern labels label ↔ l ∈ labels ∨ l = label := by
  unfold intern
  split
  · rename_i hmem
    exact ⟨.inl, fun h => h.elim id fun heq => heq ▸ hmem⟩
  · simp

theorem nodup_intern {labels : List String} (h : labels.Nodup) (label : String) :
    (intern labels label).Nodup := by
  unfold intern
  split
  · exact h
  · rename_i hmem
    refine List.nodup_append.2 ⟨h, by simp, ?_⟩
    rintro a ha b hb rfl
    exact hmem (List.mem_singleton.1 hb ▸ ha)

theorem internAll_induction {P : List String → Prop} {labels : List String} {events : List Event}
    (h : P labels) (hstep : ∀ labels label version, .openChunk label version ∈ events → P labels →
      P (intern labels label)) : P (internAll labels events) := by
  induction events generalizing labels with
  | nil => exact h
  | cons e rest ih =>
      have hrest (ls : List String) (label : String) (version : UInt16)
          (hmem : .openChunk label version ∈ rest) : P ls → P (intern ls label) :=
        hstep ls label version (List.mem_cons_of_mem e hmem)
      cases e with
      | openChunk label version => exact ih (hstep labels label version List.mem_cons_self h) hrest
      | _ => exact ih h hrest

theorem prefix_internAll (labels : List String) (events : List Event) :
    labels <+: internAll labels events :=
  internAll_induction (List.prefix_refl labels) fun ls label _ _ h => h.trans (prefix_intern ls label)

theorem nodup_internAll {labels : List String} (h : labels.Nodup) (events : List Event) :
    (internAll labels events).Nodup :=
  internAll_induction h fun _ label _ _ h => nodup_intern h label

theorem internAll_subset {labels all : List String} {events : List Event} (h : labels ⊆ all)
    (he : ∀ label version, .openChunk label version ∈ events → label ∈ all) :
    internAll labels events ⊆ all := by
  refine internAll_induction (P := (· ⊆ all)) h fun ls label version hmem h l hl => ?_
  obtain hl | rfl := mem_intern_iff.1 hl
  · exact h hl
  · exact he l version hmem

theorem mem_internAll {labels : List String} {events : List Event} {label : String}
    {version : UInt16} (h : .openChunk label version ∈ events) :
    label ∈ internAll labels events := by
  induction events generalizing labels with
  | nil => cases h
  | cons e rest ih =>
      cases h with
      | head => exact (prefix_internAll _ rest).subset (mem_intern_iff.2 (.inr rfl))
      | tail _ h => cases e <;> exact ih h

theorem labelId_of_prefix {labels all : List String} {label : String} (h : labels <+: all)
    (hmem : label ∈ labels) : labelId all label = labelId labels label := by
  obtain ⟨rest, rfl⟩ := h
  rw [labelId, labelId, List.idxOf_append, if_pos hmem]

theorem idxOf?_eq (labels : List String) (label : String) :
    labels.idxOf? label = if label ∈ labels then some (labels.idxOf label) else none := by
  induction labels with
  | nil => rfl
  | cons l labels ih =>
      by_cases hl : l = label
      · simp [List.idxOf?_cons, hl]
      · have hl' : ¬ label = l := fun h => hl h.symm
        by_cases hmem : label ∈ labels <;>
          simp [List.idxOf?_cons, List.idxOf_cons, hl', ih, hmem, beq_eq_false_iff_ne.2 hl]

/-! ## What events add -/

def Event.bytes : Event → List UInt8
  | .openChunk .. => []
  | .closeChunk => []
  | .byte value => [value]
  | .int value => ofInt32 value
  | .real value => value.toBytes
  | .text value => StoredText.encode value

/-- What events add inside `depth` open chunks: to the innermost chunk, and to each chunk around it
after the one inside has ended. -/
def ahead (id : String → UInt32) : Nat → List Event → List UInt8 × List (List UInt8)
  | depth, [] => ([], List.replicate depth [])
  | depth, .openChunk label version :: rest =>
    let (body, outer) := ahead id (depth + 1) rest
    (chunkBytes (id label) version body ++ outer.headD [], outer.tail)
  | 0, .closeChunk :: rest => ahead id 0 rest
  | depth + 1, .closeChunk :: rest =>
    let (here, outer) := ahead id depth rest
    ([], here :: outer)
  | depth, e :: rest =>
    let (here, outer) := ahead id depth rest
    (e.bytes ++ here, outer)

/-! ## Sizes -/

/-- The bytes that a step adds to the content of the file. -/
def Event.size : Event → Nat
  | .openChunk .. => 10
  | .closeChunk => 0
  | .byte _ => 1
  | .int _ => 4
  | .real _ => 4
  | .text value => 2 + min StoredText.maxLength value.length

@[simp]
def written : List Event → Nat
  | [] => 0
  | e :: rest => e.size + written rest

section Sizes

variable (id : String → UInt32)

theorem written_append (events events' : List Event) :
    written (events ++ events') = written events + written events' := by
  induction events with
  | nil => simp
  | cons e rest ih => simp [ih, Nat.add_assoc]

theorem length_ahead_snd (depth : Nat) (events : List Event) :
    (ahead id depth events).2.length = depth := by
  induction events generalizing depth with
  | nil => simp [ahead]
  | cons e rest ih =>
      cases e with
      | closeChunk => cases depth <;> simp [ahead, ih]
      | _ => simp [ahead, ih]

theorem ahead_openChunk (depth : Nat) (label : String) (version : UInt16) (rest : List Event) :
    ∃ body here outer, ahead id (depth + 1) rest = (body, here :: outer) ∧
      ahead id depth (.openChunk label version :: rest) =
        (chunkBytes (id label) version body ++ here, outer) := by
  have hlen := length_ahead_snd id (depth + 1) rest
  cases hrest : ahead id (depth + 1) rest with
  | mk body outer =>
      cases outer with
      | nil => simp [hrest] at hlen
      | cons here outer => exact ⟨body, here, outer, rfl, by rw [ahead, hrest]; rfl⟩

theorem sum_ahead (depth : Nat) (events : List Event) :
    (ahead id depth events).1.length + (ahead id depth events).2.flatten.length =
      written events := by
  induction events generalizing depth with
  | nil => simp [ahead]
  | cons e rest ih =>
      cases e with
      | openChunk label version =>
          obtain ⟨body, here, outer, hrest, hopen⟩ := ahead_openChunk id depth label version rest
          rw [written, ← ih (depth + 1), hopen, hrest, Event.size]
          simp
          omega
      | closeChunk =>
          cases depth with
          | zero => simpa [ahead, Event.size] using ih 0
          | succ depth => simpa [ahead, Event.size] using ih depth
      | _ =>
          simp [ahead, Event.bytes, Event.size, ← ih depth]
          omega

theorem length_ahead (events : List Event) : (ahead id 0 events).1.length = written events := by
  have h := sum_ahead id 0 events
  rwa [List.length_eq_zero_iff.1 (length_ahead_snd id 0 events)] at h

theorem length_internAll_le (labels : List String) (events : List Event) :
    (internAll labels events).length ≤ labels.length + written events := by
  induction events generalizing labels with
  | nil => simp [internAll]
  | cons e rest ih =>
      have hrest := ih labels
      cases e with
      | openChunk label version =>
          have hintern : (intern labels label).length ≤ labels.length + 1 := by
            unfold intern
            split <;> simp
          have := ih (intern labels label)
          simp only [internAll, written, Event.size]
          omega
      | _ =>
          simp only [internAll, written]
          omega

end Sizes

/-! ## Events that stay in a chunk -/

/-- Events that add bytes to the innermost open chunk, and to no other. -/
def Writes (id : String → UInt32) (events : List Event) (bytes : List UInt8) : Prop :=
  ∀ depth rest, ahead id depth (events ++ rest) =
    (bytes ++ (ahead id depth rest).1, (ahead id depth rest).2)

namespace Writes

variable {α : Type} {id : String → UInt32} {events events' : List Event} {bytes bytes' : List UInt8}

theorem nil : Writes id [] [] := fun _ _ => rfl

theorem append (h : Writes id events bytes) (h' : Writes id events' bytes') :
    Writes id (events ++ events') (bytes ++ bytes') := by
  intro depth rest
  rw [List.append_assoc, h depth, h' depth, List.append_assoc]

theorem flatMap {as : List α} {events : α → List Event} {bytes : α → List UInt8}
    (h : ∀ a ∈ as, Writes id (events a) (bytes a)) :
    Writes id (as.flatMap events) (as.flatMap bytes) := by
  induction as with
  | nil => exact nil
  | cons a as ih =>
      rw [List.flatMap_cons, List.flatMap_cons]
      exact (h a List.mem_cons_self).append (ih fun b hb => h b (List.mem_cons_of_mem a hb))

theorem byte (value : UInt8) : Writes id [.byte value] [value] := fun _ _ => rfl

theorem int (value : Int32) : Writes id [.int value] (ofInt32 value) := fun _ _ => rfl

theorem real (value : Single) : Writes id [.real value] value.toBytes := fun _ _ => rfl

theorem text (value : String) : Writes id [.text value] (StoredText.encode value) := fun _ _ => rfl

theorem chunk (label : String) (version : UInt16) (h : Writes id events bytes) :
    Writes id (.openChunk label version :: events ++ [.closeChunk])
      (chunkBytes (id label) version bytes) := by
  intro depth rest
  rw [List.append_assoc, List.cons_append, ahead, h (depth + 1)]
  simp [ahead]

theorem ahead_eq (h : Writes id events bytes) : (ahead id 0 events).1 = bytes := by
  have := h 0 []
  rw [List.append_nil] at this
  rw [this]
  exact List.append_nil bytes

end Writes

/-! ## The writer -/

/-- The content of a file, from what is written in the open chunks and what is added to them. -/
def assemble : List UInt8 → List Enclosing → List UInt8 × List (List UInt8) → List UInt8
  | content, [], (here, _) => content ++ here
  | content, chunk :: outer, (here, after) =>
    assemble (chunk.before.toList ++ chunkBytes chunk.id chunk.version (content ++ here)) outer
      (after.headD [], after.tail)

theorem assemble_append (content bytes : List UInt8) (chunks : List Enclosing) (here : List UInt8)
    (after : List (List UInt8)) :
    assemble (content ++ bytes) chunks (here, after) =
      assemble content chunks (bytes ++ here, after) := by
  cases chunks <;> simp [assemble]

namespace Writer

theorem openChunk_eq (w : Writer) (label : String) (version : UInt16) :
    w.openChunk label version =
      ⟨intern w.labels label, #[],
        ⟨labelId (intern w.labels label) label, version, w.content⟩ :: w.chunks⟩ := by
  by_cases hmem : label ∈ w.labels
  · simp [openChunk, idxOf?_eq, intern, labelId, hmem]
  · simp [openChunk, idxOf?_eq, intern, labelId, hmem, List.idxOf_append]

theorem closeChunk_labels (w : Writer) : w.closeChunk.labels = w.labels := by
  unfold closeChunk
  split <;> rfl

theorem closeChunk_of_cons {w : Writer} {chunk : Enclosing} {outer : List Enclosing}
    (h : w.chunks = chunk :: outer) :
    w.closeChunk.content.toList =
        chunk.before.toList ++ chunkBytes chunk.id chunk.version w.content.toList ∧
      w.closeChunk.chunks = outer := by
  simp [closeChunk, h, chunkBytes, sizeField, maxSize]

theorem assemble_put (w : Writer) (bytes : List UInt8) (added : List UInt8 × List (List UInt8)) :
    assemble (w.put bytes).content.toList (w.put bytes).chunks added =
      assemble w.content.toList w.chunks (bytes ++ added.1, added.2) := by
  rw [← assemble_append]
  simp [put]

theorem closeAll_of_cons {w : Writer} {chunk : Enclosing} {outer : List Enclosing}
    (h : w.chunks = chunk :: outer) : w.closeAll = w.closeChunk.closeAll := by
  have hcomm (n : Nat) (w : Writer) :
      Nat.repeat closeChunk n w.closeChunk = (Nat.repeat closeChunk n w).closeChunk := by
    induction n with
    | zero => rfl
    | succ n ih => simp only [Nat.repeat, ih]
  obtain ⟨-, hchunks⟩ := closeChunk_of_cons h
  rw [closeAll, closeAll, hchunks, h, hcomm]
  rfl

theorem toList_closeAll_content (w : Writer) :
    w.closeAll.content.toList =
      assemble w.content.toList w.chunks ([], List.replicate w.chunks.length []) := by
  induction hc : w.chunks generalizing w with
  | nil => simp [closeAll, hc, Nat.repeat, assemble]
  | cons chunk outer ih =>
      obtain ⟨hcontent, hchunks⟩ := closeChunk_of_cons hc
      rw [closeAll_of_cons hc, ih w.closeChunk hchunks, hcontent]
      simp [assemble, List.replicate_succ]

theorem run_cons (w : Writer) (e : Event) (events : List Event) :
    w.run (e :: events) = (w.apply e).run events := rfl

theorem run_labels (w : Writer) (events : List Event) :
    (w.run events).labels = internAll w.labels events := by
  induction events generalizing w with
  | nil => rfl
  | cons e rest ih =>
      rw [run_cons, ih]
      cases e with
      | openChunk label version =>
          rw [apply, openChunk_eq]
          rfl
      | closeChunk =>
          rw [apply, closeChunk_labels]
          rfl
      | _ => rfl

/-- The invariant of writing: at every point, what has been written and what is still to be added
make up the content of the file. -/
theorem toList_closeAll_run (w : Writer) (events : List Event) {all : List String}
    (hall : internAll w.labels events <+: all) :
    (w.run events).closeAll.content.toList =
      assemble w.content.toList w.chunks (ahead (labelId all) w.chunks.length events) := by
  induction events generalizing w with
  | nil => exact toList_closeAll_content w
  | cons e rest ih =>
      rw [run_cons]
      cases e with
      | openChunk label version =>
          have hid : labelId all label = labelId (intern w.labels label) label :=
            labelId_of_prefix ((prefix_internAll _ _).trans hall) (mem_intern_iff.2 (.inr rfl))
          have hw := w.openChunk_eq label version
          rw [apply, ih _ (by rw [hw]; exact hall), hw]
          simp only [assemble, List.length_cons, ahead, hid, ← assemble_append]
          rfl
      | closeChunk =>
          rw [apply, ih _ (by rw [closeChunk_labels]; exact hall)]
          cases hc : w.chunks with
          | nil =>
              have hw : w.closeChunk = w := by simp [closeChunk, hc]
              rw [hw, hc]
              rfl
          | cons chunk outer =>
              obtain ⟨hcontent, hchunks⟩ := closeChunk_of_cons hc
              rw [hcontent, hchunks]
              simp [assemble, ahead]
      | byte value => exact (ih (w.put [value]) hall).trans (assemble_put w _ _)
      | int value => exact (ih (w.put (ofInt32 value)) hall).trans (assemble_put w _ _)
      | real value => exact (ih (w.put value.toBytes) hall).trans (assemble_put w _ _)
      | text value => exact (ih (w.put (StoredText.encode value)) hall).trans (assemble_put w _ _)

end Writer

/-! ## The file -/

theorem toList_content (events : List Event) :
    (Writer.empty.run events).closeAll.content.toList =
      (ahead (labelId (internAll [] events)) 0 events).1 := by
  rw [Writer.toList_closeAll_run Writer.empty events (List.prefix_refl _)]
  simp [Writer.empty, assemble]

theorem size_content (events : List Event) :
    (Writer.empty.run events).closeAll.content.size = written events := by
  rw [← Array.length_toList, toList_content]
  exact length_ahead _ events

theorem writeFile_eq (events : List Event) :
    writeFile events =
      magic ++ Writer.labelTable (internAll [] events) ++
        (ahead (labelId (internAll [] events)) 0 events).1 := by
  rw [writeFile, Writer.finish, Writer.run_labels, toList_content]
  rfl

end TriggerScript
