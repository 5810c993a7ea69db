import TriggerScript.Proofs.Chunk.Stepping
import TriggerScript.Proofs.ScriptFile.Reload

/-!
# Where a session stands

Whatever a program does on a file, and whatever the parsers do that it starts, the cursor stays
inside the innermost open chunk, open chunks stay inside one another and inside the file, and the
position never goes back. A read that succeeds answers what the bytes between the old and the new
position encode.
-/

namespace TriggerScript

open LittleEndian

variable {κ τ α β : Type}

/-! ## Exact decoders -/

/-- What the decoder answers is encoded by exactly the bytes that it takes. -/
def SliceDecoder.Consumes (d : SliceDecoder α) (encode : α → List UInt8) : Prop :=
  ∀ bytes a rest, d.run bytes = .ok (a, rest) → bytes = encode a ++ rest

namespace SliceDecoder

theorem consumes_value {take? : List UInt8 → Option (α × List UInt8)} {encode : α → List UInt8}
    {width : Nat} (hw : FixedWidth take? encode width) (field : Field) :
    (value take? field).Consumes encode :=
  fun _ _ _ h => (hw.take?_eq_some_iff.1 (take?_of_value h)).1

theorem consumes_byte : byte.Consumes fun b => [b] := consumes_value fixedWidth_byte .byte

theorem consumes_int : int.Consumes ofInt32 := consumes_value fixedWidth_int32 .int

theorem consumes_real : real.Consumes Single.toBytes := consumes_value Single.fixedWidth .real

theorem consumes_text : text.Consumes StoredText.encode := by
  intro bytes s rest h
  obtain ⟨length, mid, hlength, h⟩ := run_bind_eq_ok_iff.1 h
  obtain ⟨content, rest', hcontent, h⟩ := run_bind_eq_ok_iff.1 h
  obtain ⟨rfl, rfl⟩ := run_pure_eq_ok_iff.1 h
  obtain ⟨rfl, hlen⟩ := takeBytes?_eq_some_iff.1 (take?_of_value hcontent)
  rw [takeUInt16?_eq_some_iff.1 (take?_of_value hlength), StoredText.encode_decode hlen,
    List.append_assoc]

end SliceDecoder

theorem Parameter.consumes_decode : decode.Consumes Parameter.bytes := by
  intro bytes p rest h
  obtain ⟨code, mid, hcode, h⟩ := SliceDecoder.run_bind_eq_ok_iff.1 h
  rw [SliceDecoder.consumes_int _ _ _ hcode]
  cases hkind : ParameterKind.ofCode? code with
  | none => simp [hkind] at h; cases h
  | some kind =>
      rw [← ParameterKind.code_of_ofCode? hkind]
      simp only [hkind] at h
      split at h
      · rename_i hcoord
        obtain ⟨x, _, hx, h⟩ := SliceDecoder.run_bind_eq_ok_iff.1 h
        obtain ⟨y, _, hy, h⟩ := SliceDecoder.run_bind_eq_ok_iff.1 h
        obtain ⟨z, _, hz, h⟩ := SliceDecoder.run_bind_eq_ok_iff.1 h
        obtain ⟨rfl, rfl⟩ := SliceDecoder.run_pure_eq_ok_iff.1 h
        rw [SliceDecoder.consumes_real _ _ _ hx, SliceDecoder.consumes_real _ _ _ hy,
          SliceDecoder.consumes_real _ _ _ hz]
        simp [Parameter.bytes, ofKind, hcoord]
      · rename_i hcoord
        obtain ⟨int, _, hint, h⟩ := SliceDecoder.run_bind_eq_ok_iff.1 h
        obtain ⟨real, _, hreal, h⟩ := SliceDecoder.run_bind_eq_ok_iff.1 h
        obtain ⟨text, _, htext, h⟩ := SliceDecoder.run_bind_eq_ok_iff.1 h
        obtain ⟨rfl, rfl⟩ := SliceDecoder.run_pure_eq_ok_iff.1 h
        rw [SliceDecoder.consumes_int _ _ _ hint, SliceDecoder.consumes_real _ _ _ hreal,
          SliceDecoder.consumes_text _ _ _ htext]
        simp [Parameter.bytes, ofKind, hcoord]

/-! ## Reads of a cursor -/

/-- A read from here that succeeds answers what the file holds from here to where it ends, which is
inside the innermost open chunk. -/
def Cursor.ReadsExactly (parsers : κ → Parser κ τ) (c : Cursor κ) (read : Reading κ τ β)
    (encode : β → List UInt8) : Prop :=
  ∀ n b c', (Moment.next parsers)^[n] ⟨read.run, c⟩ = ⟨.done (.ok b), c'⟩ →
    c.position ≤ c'.position ∧ c'.position ≤ c.scopeEnd ∧
      c.file.extract c.position c'.position = encode b

/-- A reader from whose front `taken` has been read stands that many bytes further in the file. -/
theorem Cursor.Advances.of_taken {c c' : Cursor κ} (h : c.Sound) (hadvances : c.Advances c')
    {taken rest : List UInt8} (hunread : c.reader.unread = taken ++ rest)
    (hreader : c'.reader = { c.reader with unread := rest }) :
    c'.position ≤ c.scopeEnd ∧ c.file.extract c.position c'.position = taken := by
  have hlen := h.length_unread
  have hremaining : c'.reader.remaining + taken.length = c.reader.remaining := by
    rw [hreader]
    simp only [Reader.remaining, hunread, List.length_append]
    omega
  have hscope := h.scopeEnd_le
  have hposition := h.inScope
  have hposition' := Nat.le_trans hadvances.sound.inScope hadvances.sound.scopeEnd_le
  rw [hadvances.file] at hposition'
  rw [h.remaining_reader, hadvances.sound.remaining_reader, hadvances.file] at hremaining
  rw [hunread, List.length_append] at hlen
  have hstop : c'.position = c.position + taken.length := by omega
  have hin : c'.position ≤ c.scopeEnd := by omega
  have hsplit : c.file.extract c.position c'.position ++ c.file.extract c'.position c.scopeEnd =
      taken ++ rest :=
    (Cursor.extract_append_extract hadvances.position hin).trans hunread
  refine ⟨hin, List.append_inj_left hsplit ?_⟩
  rw [Cursor.length_extract (by omega)]
  omega

theorem Cursor.Sound.readsExactly {c : Cursor κ} {read : Reading κ τ β} {d : SliceDecoder β}
    {encode : β → List UInt8} (h : c.Sound) (hread : read.Follows d) (hd : d.Consumes encode)
    (parsers : κ → Parser κ τ) : c.ReadsExactly parsers read encode := by
  intro n b c' hn
  obtain ⟨hadvances, houtcome⟩ := Moment.leads_iterate parsers (m := ⟨read.run, c⟩) h n
  rw [hn] at hadvances houtcome
  have hrun : read.run.run parsers c.reader = (.ok b, c'.reader) := houtcome.symm
  cases hdecode : d.run c.reader.unread with
  | error e =>
      obtain ⟨rest, he⟩ : ∃ rest, read.run.run parsers c.reader =
          (.error e, { c.reader with unread := rest }) := hread.error hdecode
      rw [hrun] at he
      cases he
  | ok out =>
      obtain ⟨b', rest⟩ := out
      have hok : read.run.run parsers c.reader = (.ok b', { c.reader with unread := rest }) :=
        hread.ok hdecode
      rw [hrun] at hok
      obtain ⟨hb, hreader⟩ := Prod.mk.inj hok
      cases hb
      exact ⟨hadvances.position, hadvances.of_taken h (hd _ _ _ hdecode) hreader⟩

/-- Every read of a value from here is exact. -/
structure Cursor.Exact (parsers : κ → Parser κ τ) (c : Cursor κ) : Prop where
  byte : c.ReadsExactly parsers Reading.byte fun b => [b]
  int : c.ReadsExactly parsers Reading.int ofInt32
  real : c.ReadsExactly parsers Reading.real Single.toBytes
  text : c.ReadsExactly parsers Reading.text StoredText.encode
  parameter : c.ReadsExactly parsers Parameter.read Parameter.bytes

theorem Cursor.Sound.exact {c : Cursor κ} (h : c.Sound) (parsers : κ → Parser κ τ) :
    c.Exact parsers where
  byte := h.readsExactly .byte SliceDecoder.consumes_byte parsers
  int := h.readsExactly .int SliceDecoder.consumes_int parsers
  real := h.readsExactly .real SliceDecoder.consumes_real parsers
  text := h.readsExactly .text SliceDecoder.consumes_text parsers
  parameter := h.readsExactly Parameter.read_follows Parameter.consumes_decode parsers

/-! ## Sessions -/

/-- A session on a file that can be opened, with any parsers, taken one step at a time. It ends as
running it does, and from every moment on running what is left to do gives the same. The position
never goes back; at every moment the cursor is sound, and reads from it are exact. -/
theorem Reader.session_in_scope {file : List UInt8} {r : Reader κ}
    (h : Reader.ofBytes file = .ok r) (parsers : κ → Parser κ τ) (session : Program κ τ α) :
    ∃ start : Cursor κ, Cursor.ofBytes file = .ok start ∧ start.reader = r ∧
      (∃ n c, (Moment.next parsers)^[n] ⟨session, start⟩ = ⟨.done (session.run parsers r).1, c⟩ ∧
        c.reader = (session.run parsers r).2) ∧
      (Monotone fun n => ((Moment.next parsers)^[n] ⟨session, start⟩).cursor.position) ∧
      ∀ n, let m := (Moment.next parsers)^[n] ⟨session, start⟩
        m.todo.run parsers m.cursor.reader = session.run parsers r ∧
          m.cursor.file = file ∧ m.cursor.Sound ∧ m.cursor.Exact parsers := by
  obtain ⟨start, hstart, rfl, rfl, hsound⟩ := Cursor.ofBytes_of_reader h
  refine ⟨start, hstart, rfl, Moment.exists_done (m := ⟨session, start⟩) hsound,
    Moment.monotone_position hsound, fun n => ?_⟩
  obtain ⟨hadvances, houtcome⟩ :=
    Moment.leads_iterate parsers (m := ⟨session, start⟩) hsound n
  exact ⟨houtcome, hadvances.file, hadvances.sound, hadvances.sound.exact parsers⟩

/-- A parser that leaves the chunk it was given and reads a number in the next one. -/
def stray : Unit → Parser Unit Unit := fun _ _ target => do
  Program.ofCall .closeChunk
  let _ ← Program.ofCall .openChunk
  let number ← Program.ofCall .readInt
  return (number.map fun _ => (), target)

def straySession : Program Unit Unit (Except ChunkError Unit × Unit) := do
  Program.ofCall (.register "A" "" ())
  Program.ofCall (.parse ())

/-- Two chunks of one label, of one byte and of four. -/
def twoChunks : List UInt8 :=
  magic ++ [1, 0, 0, 0, 1, 65, 1, 0, 0, 0] ++ [1, 0, 0, 0, 1, 0, 1, 0, 0, 0, 7] ++
    [1, 0, 0, 0, 1, 0, 4, 0, 0, 0, 99, 0, 0, 0]

theorem stray_in_scope : ∃ (r : Reader Unit) (start : Cursor Unit),
    Reader.ofBytes twoChunks = .ok r ∧ start.reader = r ∧
      (straySession.run stray r).1 = (.ok (), ()) ∧
      (∀ n, ((Moment.next stray)^[n] ⟨straySession, start⟩).cursor.Sound) ∧
      (List.range 8).map
          (fun n => ((Moment.next stray)^[n] ⟨straySession, start⟩).cursor.position) =
        [14, 14, 24, 25, 35, 39, 39, 39] := by
  let r : Reader Unit := ⟨[(1, "A")], [], twoChunks.drop 14, []⟩
  have hr : Reader.ofBytes twoChunks = .ok r := by rfl
  obtain ⟨start, hstart, hreader, -, -, hall⟩ := Reader.session_in_scope hr stray straySession
  have hpositions : (List.range 8).map
      (fun n => ((Moment.next stray)^[n] ⟨straySession, start⟩).cursor.position) =
        [14, 14, 24, 25, 35, 39, 39, 39] := by
    cases hstart
    rfl
  refine ⟨r, start, hr, hreader, ?_, fun n => (hall n).2.2.1, hpositions⟩
  have hlast := (hall 8).1
  rw [← hlast]
  cases hstart
  rfl

end TriggerScript
