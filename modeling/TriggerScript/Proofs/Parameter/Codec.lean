import TriggerScript.Proofs.Chunk.Replay
import TriggerScript.Proofs.ScriptFile.Positions
import TriggerScript.Proofs.ScriptFile.WellFormed

/-!
# The codec of texts and parameters

Writing a text or a parameter adds bytes at the end of the innermost open chunk. Reading takes
exactly these bytes off again, whatever comes after them, and answers what is kept of the value. So
the values that come back as they were are those that have nothing to lose, and of the bytes from
which a value can be read no others than those that writing the value adds.
-/

namespace TriggerScript

variable {κ τ : Type} {events events' : List Event} {bytes bytes' : List UInt8}

/-! ## What events add -/

theorem Writer.put_put (w : Writer) (bytes bytes' : List UInt8) :
    (w.put bytes).put bytes' = w.put (bytes ++ bytes') := by
  rw [put, put, put, Writer.mk.injEq]
  exact ⟨rfl, Array.ext' (by simp), rfl⟩

theorem Writer.run_append (w : Writer) (events events' : List Event) :
    w.run (events ++ events') = (w.run events).run events' := List.foldl_append

/-- Whatever has been written before, the events add the bytes to the innermost open chunk, and
change nothing else. -/
def Emits (events : List Event) (bytes : List UInt8) : Prop :=
  ∀ w : Writer, w.run events = w.put bytes

namespace Emits

theorem append (h : Emits events bytes) (h' : Emits events' bytes') :
    Emits (events ++ events') (bytes ++ bytes') := by
  intro w
  rw [Writer.run_append, h w, h' (w.put bytes), Writer.put_put]

theorem int (value : Int32) : Emits [.int value] (LittleEndian.ofInt32 value) := fun _ => rfl

theorem real (value : Single) : Emits [.real value] value.toBytes := fun _ => rfl

theorem text (value : String) : Emits [.text value] (StoredText.encode value) := fun _ => rfl

end Emits

theorem Parameter.emits_events (p : Parameter) : Emits p.events p.bytes := by
  unfold Parameter.events Parameter.bytes
  split
  · exact (((Emits.int _).append (.real _)).append (.real _)).append (.real _)
  · exact (((Emits.int _).append (.int _)).append (.real _)).append (.text _)

/-! ## Texts -/

theorem StoredText.encode_kept (s : String) : encode (kept s) = encode s := by
  rw [← stored_eq_kept, stored, encode_decode (toNat_length_content s).symm, encode]

/-- What is written for a text is read as a text that could have been stored as it is, and for which
the same is written. It is the text itself exactly if that can be stored as it is. -/
theorem text_survives_iff_fits (s : String) :
    ∃ (emitted : List UInt8) (t : String), Emits [.text s] emitted ∧
      (∀ (r : Reader κ) (rest : List UInt8),
        { r with unread := emitted ++ rest }.readText = (.ok t, { r with unread := rest })) ∧
      StoredText.fits t = true ∧ (t = s ↔ StoredText.fits s = true) ∧ Emits [.text t] emitted := by
  refine ⟨StoredText.encode s, StoredText.kept s, .text s, fun r rest => ?_,
    StoredText.fits_kept s, StoredText.kept_eq_iff, ?_⟩
  · exact Reader.readText_of_unread rfl
  · rw [← StoredText.encode_kept]
    exact .text _

/-! ## Parameters -/

namespace Parameter

/-- No value that the kind does not store, and a text that can be stored if the kind stores one. -/
theorem kept_eq_self_iff {p : Parameter} :
    p.kept = p ↔ (p.kind = .coord3d → p.int = 0 ∧ p.real = .zero ∧ p.text = "") ∧
      (p.kind ≠ .coord3d → p.coord = .zero ∧ StoredText.fits p.text = true) := by
  rw [kept_eq_iff]
  constructor
  · rintro ⟨hcoord, hother, htext⟩
    exact ⟨hcoord, fun hkind => ⟨hother hkind, htext⟩⟩
  · rintro ⟨hcoord, hother⟩
    refine ⟨hcoord, fun hkind => (hother hkind).1, ?_⟩
    by_cases hkind : p.kind = .coord3d
    · rw [(hcoord hkind).2.2]
      exact StoredText.fits_empty
    · exact (hother hkind).2

/-- A parameter that has been read was stored by the bytes that have been taken. -/
theorem taken_of_read {parsers : κ → Parser κ τ} {r r' : Reader κ} {p : Parameter}
    (h : Program.run parsers read.run r = (.ok p, r')) :
    r.unread = p.bytes ++ r'.unread ∧ r' = { r with unread := r'.unread } := by
  have hread : (read : Reading κ τ Parameter).Follows decode := read_follows
  cases hd : decode.run r.unread with
  | error e =>
      obtain ⟨rest, he⟩ : ∃ rest, Program.run parsers read.run r =
          (.error e, { r with unread := rest }) := hread.error hd
      cases h.symm.trans he
  | ok out =>
      obtain ⟨p', rest⟩ := out
      cases h.symm.trans (hread.ok hd)
      exact ⟨consumes_decode _ _ _ hd, rfl⟩

theorem read_of_bytes (parsers : κ → Parser κ τ) (p : Parameter) (r : Reader κ)
    (rest : List UInt8) :
    Program.run parsers read.run { r with unread := p.bytes ++ rest } =
      (.ok p.kept, { r with unread := rest }) :=
  read_follows.ok (r := { r with unread := p.bytes ++ rest }) (run_decode p rest)

end Parameter

/-- A parameter that can be read was stored by the bytes taken, every bit of its numbers included.
What is written for any parameter is taken as a whole, whatever comes after it, and what is kept of
the parameter is read. That is the parameter itself exactly if it has no value that its kind does
not store, and a text that can be stored. -/
theorem Parameter.codec_canonical (parsers : κ → Parser κ τ) :
    (∀ (r r' : Reader κ) (p : Parameter),
      Program.run parsers Parameter.read.run r = (.ok p, r') → ∃ taken : List UInt8,
        r.unread = taken ++ r'.unread ∧ r' = { r with unread := r'.unread } ∧
          Emits p.events taken) ∧
    ∀ p : Parameter, ∃ emitted : List UInt8, Emits p.events emitted ∧
      (∀ (r : Reader κ) (rest : List UInt8),
        Program.run parsers Parameter.read.run { r with unread := emitted ++ rest } =
          (.ok p.kept, { r with unread := rest })) ∧
      (p.kept = p ↔ (p.kind = .coord3d → p.int = 0 ∧ p.real = .zero ∧ p.text = "") ∧
        (p.kind ≠ .coord3d → p.coord = .zero ∧ StoredText.fits p.text = true)) := by
  constructor
  · intro r r' p h
    obtain ⟨hunread, hr'⟩ := Parameter.taken_of_read h
    exact ⟨p.bytes, hunread, hr', p.emits_events⟩
  · intro p
    exact ⟨p.bytes, p.emits_events, p.read_of_bytes parsers, Parameter.kept_eq_self_iff⟩

namespace Payload

/-- An angle that is not a number, with a payload and the sign bit, and one more byte. -/
def reader : Reader Unit :=
  ⟨[], [], [17, 0, 0, 0, 254, 255, 255, 255, 1, 0, 192, 255, 2, 0, 233, 63, 7], []⟩

def angle : Parameter := ⟨.angle, -2, ⟨0xFFC00001⟩, "é?", .zero⟩

def parsers : Unit → Parser Unit Unit := fun _ _ target => .done (.ok (), target)

theorem angle_taken :
    Program.run parsers Parameter.read.run reader = (.ok angle, { reader with unread := [7] }) ∧
      ∃ taken : List UInt8, reader.unread = taken ++ [7] ∧ Emits angle.events taken := by
  have hread : Program.run parsers Parameter.read.run reader =
      (.ok angle, { reader with unread := [7] }) := by rfl
  obtain ⟨taken, hunread, -, htaken⟩ := (Parameter.codec_canonical parsers).1 _ _ _ hread
  exact ⟨hread, taken, hunread, htaken⟩

end Payload

end TriggerScript
