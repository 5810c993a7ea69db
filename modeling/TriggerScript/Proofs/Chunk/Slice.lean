import TriggerScript.Chunk.Reader
import TriggerScript.Proofs.Chunk.StoredText
import TriggerScript.Proofs.Results

/-!
# Decoding slices

A slice is a list of bytes on its own. A decoder takes a value from the front of a slice and knows
nothing of files, open chunks or parsers. The chunks of a slice are decoded from left to right: those
with the label that is looked for by what they hold, and no others.
-/

namespace TriggerScript

open LittleEndian

variable {α β : Type}

/-! ## Values -/

/-- Takes a value from the front of a slice. -/
abbrev SliceDecoder (α : Type) := StateT (List UInt8) (Except ChunkError) α

namespace SliceDecoder

def value (take? : List UInt8 → Option (α × List UInt8)) (field : Field) : SliceDecoder α :=
  fun bytes =>
    match take? bytes with
    | some out => .ok out
    | none => .error (.malformed (.truncated field))

def byte : SliceDecoder UInt8 := value takeByte? .byte

def int : SliceDecoder Int32 := value takeInt32? .int

def real : SliceDecoder Single := value Single.take? .real

def text : SliceDecoder String := do
  let length ← value takeUInt16? .textLength
  let bytes ← value (takeBytes? length.toNat) .text
  return Latin1.decode bytes

def count (n : Nat) (one : SliceDecoder α) : SliceDecoder (List α) :=
  match n with
  | 0 => pure []
  | n + 1 => do
    let first ← one
    let rest ← count n one
    return first :: rest

/-! ## One decoder after another -/

variable {bytes rest : List UInt8} {a : α} {e : ChunkError}

theorem run_bind_ok {d : SliceDecoder α} (f : α → SliceDecoder β) (h : d.run bytes = .ok (a, rest)) :
    (d >>= f).run bytes = (f a).run rest := by
  rw [StateT.run_bind, h]
  rfl

theorem run_bind_error {d : SliceDecoder α} (f : α → SliceDecoder β) (h : d.run bytes = .error e) :
    (d >>= f).run bytes = .error e := by
  rw [StateT.run_bind, h]
  rfl

theorem run_bind_eq_ok_iff {d : SliceDecoder α} {f : α → SliceDecoder β} {b : β} :
    (d >>= f).run bytes = .ok (b, rest) ↔
      ∃ a mid, d.run bytes = .ok (a, mid) ∧ (f a).run mid = .ok (b, rest) := by
  rw [StateT.run_bind, except_bind_eq_ok_iff, Prod.exists]

theorem run_pure_eq_ok_iff {b : α} :
    (pure a : SliceDecoder α).run bytes = .ok (b, rest) ↔ a = b ∧ bytes = rest := by
  rw [StateT.run_pure]
  simp [pure, Except.pure]

/-! ## What is written is found -/

theorem run_value {take? : List UInt8 → Option (α × List UInt8)} {field : Field}
    (h : take? bytes = some (a, rest)) : (value take? field).run bytes = .ok (a, rest) := by
  simp [value, StateT.run, h]

theorem run_value_error {take? : List UInt8 → Option (α × List UInt8)} {field : Field}
    (h : take? bytes = none) :
    (value take? field).run bytes = .error (.malformed (.truncated field)) := by
  simp [value, StateT.run, h]

theorem run_byte (b : UInt8) (rest : List UInt8) : byte.run ([b] ++ rest) = .ok (b, rest) :=
  run_value (takeByte?_append b rest)

theorem run_int (i : Int32) (rest : List UInt8) : int.run (ofInt32 i ++ rest) = .ok (i, rest) :=
  run_value (takeInt32?_append i rest)

theorem run_real (x : Single) (rest : List UInt8) : real.run (x.toBytes ++ rest) = .ok (x, rest) :=
  run_value (Single.take?_append x rest)

theorem run_text (s : String) (rest : List UInt8) :
    text.run (StoredText.encode s ++ rest) = .ok (StoredText.kept s, rest) := by
  have hc := (StoredText.toNat_length_content s).symm
  rw [← StoredText.stored_eq_kept, StoredText.encode, List.append_assoc, text,
    run_bind_ok _ (run_value (takeUInt16?_append _ _)),
    run_bind_ok _ (run_value (takeBytes?_append rest hc))]
  rfl

theorem run_count {one : SliceDecoder β} {as : List α} {encode : α → List UInt8} {f : α → β}
    (h : ∀ a ∈ as, ∀ rest, one.run (encode a ++ rest) = .ok (f a, rest)) (rest : List UInt8) :
    (count as.length one).run (as.flatMap encode ++ rest) = .ok (as.map f, rest) := by
  induction as with
  | nil => rfl
  | cons a as ih =>
      have has := ih fun b hb => h b (List.mem_cons_of_mem a hb)
      rw [List.flatMap_cons, List.append_assoc, List.length_cons, count,
        run_bind_ok _ (h a List.mem_cons_self _), run_bind_ok _ has]
      rfl

/-! ## What is found -/

theorem take?_of_value {take? : List UInt8 → Option (α × List UInt8)} {field : Field}
    (h : (value take? field).run bytes = .ok (a, rest)) : take? bytes = some (a, rest) := by
  cases ht : take? bytes with
  | none =>
      rw [run_value_error ht] at h
      cases h
  | some out =>
      rw [run_value ht] at h
      cases h
      rfl

theorem forall_of_count {P : α → Prop} {one : SliceDecoder α}
    (hone : ∀ bytes a rest, one.run bytes = .ok (a, rest) → P a) {n : Nat} {as : List α}
    (h : (count n one).run bytes = .ok (as, rest)) : ∀ a ∈ as, P a := by
  induction n generalizing bytes rest as with
  | zero =>
      obtain ⟨rfl, -⟩ := run_pure_eq_ok_iff.1 h
      simp
  | succ n ih =>
      obtain ⟨first, mid, hfirst, h⟩ := run_bind_eq_ok_iff.1 h
      obtain ⟨others, mid', hothers, h⟩ := run_bind_eq_ok_iff.1 h
      obtain ⟨rfl, -⟩ := run_pure_eq_ok_iff.1 h
      exact List.forall_mem_cons.2 ⟨hone _ _ _ hfirst, ih hothers⟩

/-- A text that is found could have been stored as it is. -/
theorem fits_of_text {s : String} (h : text.run bytes = .ok (s, rest)) : StoredText.fits s = true := by
  obtain ⟨length, tail, -, h⟩ := run_bind_eq_ok_iff.1 h
  obtain ⟨content, rest', hc, h⟩ := run_bind_eq_ok_iff.1 h
  obtain ⟨rfl, rfl⟩ := run_pure_eq_ok_iff.1 h
  obtain ⟨-, hlen⟩ := takeBytes?_eq_some_iff.1 (take?_of_value hc)
  have hmax : length.toNat < 65536 := length.toNat_lt
  exact StoredText.fits_decode (by rw [StoredText.maxLength]; omega)

end SliceDecoder

/-! ## Chunks -/

/-- A chunk of a slice: what its header says, and its content as a slice of its own. -/
structure Chunk where
  label : String
  version : UInt16
  body : List UInt8

variable {labels : LabelTable} {bytes rest : List UInt8} {chunk : Chunk}

/-- The chunk at the front of a slice. In this order, its header has to be there, its identifier in
the table, its size not negative and its content inside the slice. -/
def takeChunk (labels : LabelTable) (bytes : List UInt8) : Except ChunkError (Chunk × List UInt8) :=
  match Reader.takeHeader? bytes with
  | none => .error (.malformed (.truncated .chunkHeader))
  | some ((id, version, size), rest) =>
    match labels.label? id with
    | none => .error (.unknownLabel id)
    | some label =>
      if size.toInt < 0 then .error (.malformed (.negativeSize size label))
      else
        match takeBytes? size.toInt.toNat rest with
        | none => .error (.malformed (.truncated .chunkBody))
        | some (body, rest) => .ok (⟨label, version, body⟩, rest)

theorem takeChunk_eq_ok_iff :
    takeChunk labels bytes = .ok (chunk, rest) ↔
      ∃ id size tail, Reader.takeHeader? bytes = some ((id, chunk.version, size), tail) ∧
        labels.label? id = some chunk.label ∧ 0 ≤ size.toInt ∧
        tail = chunk.body ++ rest ∧ chunk.body.length = size.toInt.toNat := by
  constructor
  · intro h
    unfold takeChunk at h
    split at h
    · cases h
    · rename_i id version size tail hh
      split at h
      · cases h
      · rename_i label hl
        split at h
        · cases h
        · rename_i hs
          split at h
          · cases h
          · rename_i body rest' hb
            cases h
            obtain ⟨ht, hlen⟩ := takeBytes?_eq_some_iff.1 hb
            exact ⟨id, size, tail, hh, hl, by omega, ht, hlen⟩
  · rintro ⟨id, size, tail, hh, hl, hs, ht, hlen⟩
    have hb := takeBytes?_eq_some_iff.2 ⟨ht, hlen⟩
    simp only [takeChunk, hh, hl, hb, if_neg (Int.not_lt.2 hs)]

theorem length_of_takeChunk (h : takeChunk labels bytes = .ok (chunk, rest)) :
    rest.length + 10 ≤ bytes.length := by
  obtain ⟨_, _, tail, hh, _, _, rfl, _⟩ := takeChunk_eq_ok_iff.1 h
  have := Reader.length_of_takeHeader? hh
  rw [List.length_append] at this
  omega

/-- What the chunks of a label hold, from left to right up to the first failure, and that failure.
The content of other chunks is not looked at. -/
def decodeChunks (labels : LabelTable) (label : String)
    (decode : UInt16 → List UInt8 → Except ChunkError α) (bytes : List UInt8) :
    List α × Except ChunkError Unit :=
  if bytes = [] then ([], .ok ())
  else
    match h : takeChunk labels bytes with
    | .error e => ([], .error e)
    | .ok (chunk, rest) =>
      have : rest.length < bytes.length := by have := length_of_takeChunk h; omega
      if chunk.label = label then
        match decode chunk.version chunk.body with
        | .error e => ([], .error e)
        | .ok a =>
          let (found, result) := decodeChunks labels label decode rest
          (a :: found, result)
      else decodeChunks labels label decode rest
termination_by bytes.length

/-- All that the chunks of a label hold, or the first failure. -/
def decodeAllChunks (labels : LabelTable) (label : String)
    (decode : UInt16 → List UInt8 → Except ChunkError α) (bytes : List UInt8) :
    Except ChunkError (List α) :=
  match decodeChunks labels label decode bytes with
  | (found, .ok ()) => .ok found
  | (_, .error e) => .error e

variable {label : String} {decode : UInt16 → List UInt8 → Except ChunkError α} {e : ChunkError} {a : α}

@[simp]
theorem decodeChunks_nil : decodeChunks labels label decode [] = ([], .ok ()) := by
  rw [decodeChunks, if_pos rfl]

theorem decodeChunks_of_refused (hb : bytes ≠ []) (h : takeChunk labels bytes = .error e) :
    decodeChunks labels label decode bytes = ([], .error e) := by
  rw [decodeChunks, if_neg hb]
  split <;> simp_all

theorem ne_nil_of_takeChunk (h : takeChunk labels bytes = .ok (chunk, rest)) : bytes ≠ [] := by
  rintro rfl
  have := length_of_takeChunk h
  simp at this

theorem decodeChunks_of_other (h : takeChunk labels bytes = .ok (chunk, rest))
    (hl : chunk.label ≠ label) :
    decodeChunks labels label decode bytes = decodeChunks labels label decode rest := by
  rw [decodeChunks, if_neg (ne_nil_of_takeChunk h)]
  split <;> simp_all

theorem decodeChunks_of_error (h : takeChunk labels bytes = .ok (chunk, rest))
    (hl : chunk.label = label) (hd : decode chunk.version chunk.body = .error e) :
    decodeChunks labels label decode bytes = ([], .error e) := by
  rw [decodeChunks, if_neg (ne_nil_of_takeChunk h)]
  split <;> simp_all

theorem decodeChunks_of_ok (h : takeChunk labels bytes = .ok (chunk, rest))
    (hl : chunk.label = label) (hd : decode chunk.version chunk.body = .ok a) :
    decodeChunks labels label decode bytes =
      (a :: (decodeChunks labels label decode rest).1,
        (decodeChunks labels label decode rest).2) := by
  rw [decodeChunks, if_neg (ne_nil_of_takeChunk h)]
  split <;> simp_all

@[simp]
theorem decodeAllChunks_nil : decodeAllChunks labels label decode [] = .ok [] := by
  rw [decodeAllChunks, decodeChunks_nil]

theorem decodeAllChunks_of_takeChunk (h : takeChunk labels bytes = .ok (chunk, rest))
    (hl : chunk.label = label) :
    decodeAllChunks labels label decode bytes = do
      let a ← decode chunk.version chunk.body
      let as ← decodeAllChunks labels label decode rest
      return a :: as := by
  cases hd : decode chunk.version chunk.body with
  | error e =>
      rw [decodeAllChunks, decodeChunks_of_error h hl hd]
      rfl
  | ok a =>
      rw [decodeAllChunks, decodeChunks_of_ok h hl hd, decodeAllChunks]
      rcases decodeChunks labels label decode rest with ⟨found, e | ⟨⟩⟩ <;> rfl

theorem decodeAllChunks_eq_ok_iff {as : List α} :
    decodeAllChunks labels label decode bytes = .ok as ↔
      decodeChunks labels label decode bytes = (as, .ok ()) := by
  rw [decodeAllChunks]
  rcases decodeChunks labels label decode bytes with ⟨found, e | ⟨⟩⟩ <;> simp

theorem decodeAllChunks_eq_error_iff :
    decodeAllChunks labels label decode bytes = .error e ↔
      (decodeChunks labels label decode bytes).2 = .error e := by
  rw [decodeAllChunks]
  rcases decodeChunks labels label decode bytes with ⟨found, e | ⟨⟩⟩ <;> simp

theorem forall_of_decodeAllChunks {P : α → Prop}
    (hd : ∀ version body a, decode version body = .ok a → P a) {as : List α}
    (h : decodeAllChunks labels label decode bytes = .ok as) : ∀ a ∈ as, P a := by
  rw [decodeAllChunks_eq_ok_iff] at h
  fun_induction decodeChunks labels label decode bytes generalizing as with
  | case1 =>
      cases h
      simp
  | case2 => cases h
  | case3 => cases h
  | case4 bytes hne chunk rest htake hlt hl a ha found result hrest ih =>
      obtain ⟨rfl, rfl⟩ := Prod.mk.inj h
      exact List.forall_mem_cons.2 ⟨hd _ _ _ ha, ih hrest⟩
  | case5 bytes hne chunk rest htake hlt hl ih => exact ih h

/-! ## Up to the first failure -/

/-- The chunks at the front of a slice, from left to right, and what is left after them. -/
inductive ChunksAhead (labels : LabelTable) : List Chunk → List UInt8 → List UInt8 → Prop
  | nil (rest : List UInt8) : ChunksAhead labels [] rest rest
  | cons {chunk : Chunk} {chunks : List Chunk} {bytes mid rest : List UInt8} :
      takeChunk labels bytes = .ok (chunk, mid) → ChunksAhead labels chunks mid rest →
        ChunksAhead labels (chunk :: chunks) bytes rest

/-- The chunks of a label hold one element each, in their order. -/
def Holding (label : String) (decode : UInt16 → List UInt8 → Except ChunkError α)
    (chunks : List Chunk) (found : List α) : Prop :=
  (chunks.filter (·.label = label)).map (fun chunk => decode chunk.version chunk.body) =
    found.map .ok

/-- Decoding by chunks ends with the slice, or fails at the chunk that comes next: its header is
refused, or it has the label and its content is refused. -/
def StopsAt (labels : LabelTable) (label : String)
    (decode : UInt16 → List UInt8 → Except ChunkError α) (rest : List UInt8) :
    Except ChunkError Unit → Prop
  | .ok () => rest = []
  | .error e => rest ≠ [] ∧ (takeChunk labels rest = .error e ∨
      ∃ chunk after, takeChunk labels rest = .ok (chunk, after) ∧ chunk.label = label ∧
        decode chunk.version chunk.body = .error e)

section FirstFailure

variable {chunks : List Chunk} {found : List α} {result : Except ChunkError Unit}

theorem Holding.cons_other (h : Holding label decode chunks found) (hl : chunk.label ≠ label) :
    Holding label decode (chunk :: chunks) found := by
  simpa [Holding, hl] using h

theorem Holding.cons_found (h : Holding label decode chunks found) (hl : chunk.label = label)
    (hd : decode chunk.version chunk.body = .ok a) :
    Holding label decode (chunk :: chunks) (a :: found) := by
  simpa [Holding, hl, hd] using h

theorem Holding.of_cons (h : Holding label decode (chunk :: chunks) found) :
    chunk.label ≠ label ∧ Holding label decode chunks found ∨
      chunk.label = label ∧ ∃ a others, found = a :: others ∧
        decode chunk.version chunk.body = .ok a ∧ Holding label decode chunks others := by
  by_cases hl : chunk.label = label
  · cases found with
    | nil => simp [Holding, hl] at h
    | cons a others =>
        obtain ⟨hd, h⟩ : decode chunk.version chunk.body = .ok a ∧
            Holding label decode chunks others := by simpa [Holding, hl] using h
        exact .inr ⟨hl, a, others, rfl, hd, h⟩
  · exact .inl ⟨hl, by simpa [Holding, hl] using h⟩

theorem decodeChunks_of_stopsAt (h : StopsAt labels label decode bytes result) :
    decodeChunks labels label decode bytes = ([], result) := by
  cases result with
  | ok =>
      obtain rfl : bytes = [] := h
      exact decodeChunks_nil
  | error e =>
      obtain ⟨hb, ht | ⟨chunk, after, ht, hl, hd⟩⟩ := h
      · exact decodeChunks_of_refused hb ht
      · exact decodeChunks_of_error ht hl hd

/-- What decoding by chunks finds is what the chunks before the first failure hold. -/
theorem decodeChunks_eq_iff :
    decodeChunks labels label decode bytes = (found, result) ↔
      ∃ before rest, ChunksAhead labels before bytes rest ∧ Holding label decode before found ∧
        StopsAt labels label decode rest result := by
  constructor
  · intro h
    fun_induction decodeChunks labels label decode bytes generalizing found result with
    | case1 =>
        cases h
        exact ⟨[], [], .nil [], rfl, rfl⟩
    | case2 bytes hne e ht =>
        cases h
        exact ⟨[], bytes, .nil bytes, rfl, hne, .inl ht⟩
    | case3 bytes hne chunk rest ht hlt hl e hd =>
        cases h
        exact ⟨[], bytes, .nil bytes, rfl, hne, .inr ⟨chunk, rest, ht, hl, hd⟩⟩
    | case4 bytes hne chunk rest ht hlt hl a hd found' result' hrest ih =>
        cases h
        obtain ⟨before, after, hahead, hheld, hstop⟩ := ih hrest
        exact ⟨chunk :: before, after, .cons ht hahead, hheld.cons_found hl hd, hstop⟩
    | case5 bytes hne chunk rest ht hlt hl ih =>
        obtain ⟨before, after, hahead, hheld, hstop⟩ := ih h
        exact ⟨chunk :: before, after, .cons ht hahead, hheld.cons_other hl, hstop⟩
  · rintro ⟨before, rest, hahead, hheld, hstop⟩
    induction hahead generalizing found with
    | nil rest =>
        obtain rfl : found = [] := List.map_eq_nil_iff.1 hheld.symm
        exact decodeChunks_of_stopsAt hstop
    | cons ht hahead ih =>
        obtain ⟨hl, hheld⟩ | ⟨hl, a, others, rfl, hd, hheld⟩ := hheld.of_cons
        · rw [decodeChunks_of_other ht hl, ih hheld hstop]
        · rw [decodeChunks_of_ok ht hl hd, ih hheld hstop]

end FirstFailure

end TriggerScript
