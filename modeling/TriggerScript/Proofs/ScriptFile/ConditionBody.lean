import TriggerScript.Proofs.ScriptFile.Positions
import TriggerScript.Proofs.ScriptFile.WellFormed

/-!
# The body of a condition

What the bytes of a condition stand for, said without a reader: a tag, from version 4 on a name, a
count and that many parameters, and anything after them. A body that does not have this form, or has
it for a type that is not known, is refused for the first of its parts that is wrong. Reading
answers the condition of a body, or the reason why it is refused, and nothing else.
-/

namespace TriggerScript

open LittleEndian

variable {κ τ α β : Type} {bytes rest : List UInt8} {e : ChunkError}

/-! ## Refused parts -/

/-- A text without its length, or with fewer characters than its length says. -/
inductive StoredText.Refused : List UInt8 → ChunkError → Prop
  | length {bytes : List UInt8} : bytes.length < 2 →
      Refused bytes (.malformed (.truncated .textLength))
  | content {length : UInt16} {content : List UInt8} : content.length < length.toNat →
      Refused (ofUInt16 length ++ content) (.malformed (.truncated .text))

/-- A parameter with a value missing, or of an unknown kind. The code of the kind comes first, then
three real numbers for a coordinate, and a whole number, a real number and a text otherwise. -/
inductive Parameter.Refused : List UInt8 → ChunkError → Prop
  | code {bytes : List UInt8} : bytes.length < 4 → Refused bytes (.malformed (.truncated .int))
  | kind {code : Int32} {rest : List UInt8} : ParameterKind.ofCode? code = none →
      Refused (ofInt32 code ++ rest) (.unknownParameterKind code)
  | coord (taken : List Single) {rest : List UInt8} : taken.length < 3 → rest.length < 4 →
      Refused (ofInt32 ParameterKind.coord3d.code ++ taken.flatMap Single.toBytes ++ rest)
        (.malformed (.truncated .real))
  | int {kind : ParameterKind} {rest : List UInt8} : kind ≠ .coord3d → rest.length < 4 →
      Refused (ofInt32 kind.code ++ rest) (.malformed (.truncated .int))
  | real {kind : ParameterKind} {int : Int32} {rest : List UInt8} : kind ≠ .coord3d →
      rest.length < 4 →
      Refused (ofInt32 kind.code ++ ofInt32 int ++ rest) (.malformed (.truncated .real))
  | text {kind : ParameterKind} {int : Int32} {real : Single} {rest : List UInt8} {e : ChunkError} :
      kind ≠ .coord3d → StoredText.Refused rest e →
      Refused (ofInt32 kind.code ++ ofInt32 int ++ real.toBytes ++ rest) e

namespace Condition

section Form

variable (registry : Registry) (version : UInt16)

/-- The bytes before the count: a tag and, from version 4 on, the name of the type. -/
def typeBytes (tag : Int32) (name : String) : List UInt8 :=
  ofInt32 tag ++ if 4 ≤ version then StoredText.encode name else []

/-- The type that is meant by these bytes. -/
def typeNamed (tag : Int32) (name : String) : Int32 :=
  if 4 ≤ version then typeMeant registry tag name else tag

/-- The type has a shape that is not too long. -/
def Usable (type : Int32) : Prop :=
  ∃ t, registry.template? type = some t ∧ t.shape.length ≤ 12

/-- The condition that a body stands for. Of the parameters found, those without a slot are dropped;
slots without a parameter keep their defaults, and what comes after the parameters is ignored. -/
def Held (body : List UInt8) (c : Condition) : Prop :=
  ∃ (tag : Int32) (name : String) (t : Template) (found : List Parameter) (rest : List UInt8),
    StoredText.fits name = true ∧ found.length ≤ 12 ∧ (∀ p ∈ found, p.WellFormed) ∧
    body = typeBytes version tag name ++ ofInt32 (Int32.ofNat found.length) ++
      found.flatMap Parameter.bytes ++ rest ∧
    registry.template? (typeNamed registry version tag name) = some t ∧ t.shape.length ≤ 12 ∧
    c.type = typeNamed registry version tag name ∧
    c.params = found.take t.shape.length ++ (t.shape.drop found.length).map Parameter.ofKind ∧
    (c.hasWarnings = true ↔ ∃ (slot : ℕ) (p : Parameter) (kind : ParameterKind),
      found[slot]? = some p ∧ t.shape[slot]? = some kind ∧ p.kind ≠ kind) ∧
    c.customData = 0 ∧ c.reserved = 0

/-- Why a body is refused: the first part that is wrong, from the tag over the name, the type and
the count to the parameters. Everything before that part is as it should be. -/
inductive Refused : List UInt8 → ChunkError → Prop
  | tag {body : List UInt8} : body.length < 4 → Refused body (.malformed (.truncated .int))
  | name {tag : Int32} {rest : List UInt8} {e : ChunkError} : 4 ≤ version →
      StoredText.Refused rest e → Refused (ofInt32 tag ++ rest) e
  | unknown {tag : Int32} {name : String} {rest : List UInt8} : StoredText.fits name = true →
      registry.template? (typeNamed registry version tag name) = none →
      Refused (typeBytes version tag name ++ rest)
        (.unknownConditionType (typeNamed registry version tag name))
  | oversized {tag : Int32} {name : String} {t : Template} {rest : List UInt8} :
      StoredText.fits name = true →
      registry.template? (typeNamed registry version tag name) = some t → 12 < t.shape.length →
      Refused (typeBytes version tag name ++ rest)
        (.malformed (.oversizedShape t.name t.shape.length))
  | count {tag : Int32} {name : String} {rest : List UInt8} : StoredText.fits name = true →
      Usable registry (typeNamed registry version tag name) → rest.length < 4 →
      Refused (typeBytes version tag name ++ rest) (.malformed (.truncated .int))
  | range {tag : Int32} {name : String} {count : Int32} {rest : List UInt8} :
      StoredText.fits name = true → Usable registry (typeNamed registry version tag name) →
      ¬ (0 ≤ count.toInt ∧ count.toInt ≤ 12) →
      Refused (typeBytes version tag name ++ ofInt32 count ++ rest)
        (.malformed (.parameterCount count))
  | parameter {tag : Int32} {name : String} {count : Int32} {found : List Parameter}
      {rest : List UInt8} {e : ChunkError} :
      StoredText.fits name = true → Usable registry (typeNamed registry version tag name) →
      count.toInt ≤ 12 → found.length < count.toInt → (∀ p ∈ found, p.WellFormed) →
      Parameter.Refused rest e →
      Refused (typeBytes version tag name ++ ofInt32 count ++ found.flatMap Parameter.bytes ++ rest)
        e

end Form

end Condition

/-! ## What decoders accept and refuse -/

namespace SliceDecoder

variable {d : SliceDecoder α}

theorem run_bind_eq_error_iff {f : α → SliceDecoder β} :
    (d >>= f).run bytes = .error e ↔
      d.run bytes = .error e ∨ ∃ a mid, d.run bytes = .ok (a, mid) ∧ (f a).run mid = .error e := by
  rw [StateT.run_bind, except_bind_eq_error_iff, Prod.exists]

theorem run_throw_eq_error_iff {e' : ChunkError} :
    (throw e' : SliceDecoder α).run bytes = .error e ↔ e' = e := by
  change (Except.error e' : Except ChunkError _) = .error e ↔ e' = e
  rw [Except.error.injEq]

/-- The decoder accepts the bytes of the values with `P`, with anything after them, and refuses all
others. -/
structure Reads (d : SliceDecoder α) (encode : α → List UInt8) (P : α → Prop)
    (Refused : List UInt8 → ChunkError → Prop) : Prop where
  ok_iff : ∀ {bytes a rest}, d.run bytes = .ok (a, rest) ↔ bytes = encode a ++ rest ∧ P a
  error_iff : ∀ {bytes e}, d.run bytes = .error e ↔ Refused bytes e

theorem reads_value {take? : List UInt8 → Option (α × List UInt8)} {encode : α → List UInt8}
    {width : Nat} (hw : FixedWidth take? encode width) (field : Field) :
    (value take? field).Reads encode (fun a => (encode a).length = width)
      fun bytes e => bytes.length < width ∧ e = .malformed (.truncated field) where
  ok_iff := ⟨fun h => hw.take?_eq_some_iff.1 (take?_of_value h),
    fun h => run_value (hw.take?_eq_some_iff.2 h)⟩
  error_iff {bytes e} := by
    by_cases hlen : bytes.length < width
    · rw [run_value_error (hw.eq_none hlen)]
      simp [hlen, eq_comm]
    · obtain ⟨a, ha⟩ := hw.exists_encode (bytes.take width) (by simp; omega)
      have htake : take? bytes = some (a, bytes.drop width) :=
        hw.take?_eq_some_iff.2 ⟨by rw [ha, List.take_append_drop], by rw [ha]; simp; omega⟩
      rw [run_value htake]
      simp [hlen]

theorem int_eq_ok_iff {i : Int32} : int.run bytes = .ok (i, rest) ↔ bytes = ofInt32 i ++ rest := by
  simp [int, (reads_value fixedWidth_int32 .int).ok_iff]

theorem int_eq_error_iff :
    int.run bytes = .error e ↔ bytes.length < 4 ∧ e = .malformed (.truncated .int) :=
  (reads_value fixedWidth_int32 .int).error_iff

theorem real_eq_ok_iff {x : Single} :
    real.run bytes = .ok (x, rest) ↔ bytes = x.toBytes ++ rest := by
  simp [real, (reads_value Single.fixedWidth .real).ok_iff]

theorem real_eq_error_iff :
    real.run bytes = .error e ↔ bytes.length < 4 ∧ e = .malformed (.truncated .real) :=
  (reads_value Single.fixedWidth .real).error_iff

theorem text_eq_ok_iff {s : String} :
    text.run bytes = .ok (s, rest) ↔
      bytes = StoredText.encode s ++ rest ∧ StoredText.fits s = true := by
  constructor
  · intro h
    exact ⟨consumes_text _ _ _ h, fits_of_text h⟩
  · rintro ⟨rfl, hs⟩
    rw [run_text, StoredText.kept_of_fits hs]

theorem text_eq_error_iff : text.run bytes = .error e ↔ StoredText.Refused bytes e := by
  rw [text, run_bind_eq_error_iff, (reads_value fixedWidth_uint16 .textLength).error_iff]
  constructor
  · rintro (⟨hlen, rfl⟩ | ⟨length, content, hlength, h⟩)
    · exact .length hlen
    · obtain ⟨rfl, -⟩ := (reads_value fixedWidth_uint16 .textLength).ok_iff.1 hlength
      rw [run_bind_eq_error_iff, (reads_value (fixedWidth_bytes _) .text).error_iff] at h
      obtain ⟨hcontent, rfl⟩ | ⟨_, _, -, h⟩ := h
      · exact .content hcontent
      · cases h
  · rintro (hlen | hcontent)
    · exact .inl ⟨hlen, rfl⟩
    · refine .inr ⟨_, _, (reads_value fixedWidth_uint16 .textLength).ok_iff.2 ⟨rfl, rfl⟩, ?_⟩
      rw [run_bind_eq_error_iff, (reads_value (fixedWidth_bytes _) .text).error_iff]
      exact .inl ⟨hcontent, rfl⟩

section Count

variable {encode : α → List UInt8} {P : α → Prop} {Refused : List UInt8 → ChunkError → Prop}
variable {n : ℕ}

theorem Reads.count_eq_ok_iff (h : d.Reads encode P Refused) {as : List α} :
    (count n d).run bytes = .ok (as, rest) ↔
      as.length = n ∧ (∀ a ∈ as, P a) ∧ bytes = as.flatMap encode ++ rest := by
  induction n generalizing bytes as with
  | zero =>
      rw [count, run_pure_eq_ok_iff]
      constructor
      · rintro ⟨rfl, rfl⟩
        exact ⟨rfl, by simp, rfl⟩
      · rintro ⟨hlen, -, rfl⟩
        obtain rfl := List.length_eq_zero_iff.1 hlen
        exact ⟨rfl, rfl⟩
  | succ n ih =>
      rw [count, run_bind_eq_ok_iff]
      constructor
      · rintro ⟨first, mid, hfirst, hrest⟩
        obtain ⟨others, mid', hothers, hpure⟩ := run_bind_eq_ok_iff.1 hrest
        obtain ⟨rfl, rfl⟩ := run_pure_eq_ok_iff.1 hpure
        obtain ⟨rfl, hP⟩ := h.ok_iff.1 hfirst
        obtain ⟨rfl, hall, rfl⟩ := ih.1 hothers
        exact ⟨rfl, List.forall_mem_cons.2 ⟨hP, hall⟩, by rw [List.flatMap_cons, List.append_assoc]⟩
      · rintro ⟨hlen, hall, rfl⟩
        obtain ⟨first, others, rfl⟩ := List.exists_cons_of_length_eq_add_one hlen
        obtain ⟨hP, hall⟩ := List.forall_mem_cons.1 hall
        refine ⟨first, others.flatMap encode ++ rest, h.ok_iff.2 ⟨?_, hP⟩, ?_⟩
        · rw [List.flatMap_cons, List.append_assoc]
        · exact run_bind_eq_ok_iff.2 ⟨others, rest, ih.2 ⟨Nat.succ.inj hlen, hall, rfl⟩, rfl⟩

/-- A sequence is refused for the first of its values that is. -/
theorem Reads.count_eq_error_iff (h : d.Reads encode P Refused) :
    (count n d).run bytes = .error e ↔
      ∃ (found : List α) (rest : List UInt8), found.length < n ∧ (∀ a ∈ found, P a) ∧
        bytes = found.flatMap encode ++ rest ∧ Refused rest e := by
  induction n generalizing bytes with
  | zero => exact iff_of_false nofun (by simp)
  | succ n ih =>
      rw [count, run_bind_eq_error_iff]
      constructor
      · rintro (hfirst | ⟨first, mid, hfirst, hrest⟩)
        · exact ⟨[], bytes, Nat.succ_pos n, by simp, rfl, h.error_iff.1 hfirst⟩
        · obtain hothers | ⟨_, _, -, hpure⟩ := run_bind_eq_error_iff.1 hrest
          · obtain ⟨rfl, hP⟩ := h.ok_iff.1 hfirst
            obtain ⟨found, rest, hlen, hall, rfl, hrefused⟩ := ih.1 hothers
            exact ⟨first :: found, rest, Nat.succ_lt_succ hlen, List.forall_mem_cons.2 ⟨hP, hall⟩,
              by rw [List.flatMap_cons, List.append_assoc], hrefused⟩
          · cases hpure
      · rintro ⟨found, rest, hlen, hall, rfl, hrefused⟩
        cases found with
        | nil => exact .inl (h.error_iff.2 hrefused)
        | cons first found =>
            obtain ⟨hP, hall⟩ := List.forall_mem_cons.1 hall
            refine .inr ⟨first, found.flatMap encode ++ rest, h.ok_iff.2 ⟨?_, hP⟩, ?_⟩
            · rw [List.flatMap_cons, List.append_assoc]
            · exact run_bind_eq_error_iff.2
                (.inl (ih.2 ⟨found, rest, Nat.lt_of_succ_lt_succ hlen, hall, rfl, hrefused⟩))

end Count

end SliceDecoder

open SliceDecoder

/-! ## Parameters -/

/-- The values of a coordinate are refused for the first real number that is missing. -/
theorem Parameter.refused_coord {f : Single → Single → Single → Parameter}
    (h : (do
      let x ← SliceDecoder.real
      let y ← SliceDecoder.real
      let z ← SliceDecoder.real
      return f x y z : SliceDecoder Parameter).run bytes = .error e) :
    Refused (ofInt32 ParameterKind.coord3d.code ++ bytes) e := by
  obtain hx | ⟨x, _, hx, h₁⟩ := run_bind_eq_error_iff.1 h
  · obtain ⟨hlen, rfl⟩ := real_eq_error_iff.1 hx
    exact .coord [] (Nat.zero_lt_succ _) hlen
  obtain rfl := real_eq_ok_iff.1 hx
  obtain hy | ⟨y, _, hy, h₂⟩ := run_bind_eq_error_iff.1 h₁
  · obtain ⟨hlen, rfl⟩ := real_eq_error_iff.1 hy
    simpa using Refused.coord [x] (by simp) hlen
  obtain rfl := real_eq_ok_iff.1 hy
  obtain hz | ⟨z, _, -, h₃⟩ := run_bind_eq_error_iff.1 h₂
  · obtain ⟨hlen, rfl⟩ := real_eq_error_iff.1 hz
    simpa using Refused.coord [x, y] (by simp) hlen
  · cases h₃

theorem Parameter.refused_of_decode (h : decode.run bytes = .error e) : Refused bytes e := by
  obtain hcode | ⟨code, _, hcode, h₁⟩ := run_bind_eq_error_iff.1 h
  · obtain ⟨hlen, rfl⟩ := int_eq_error_iff.1 hcode
    exact .code hlen
  obtain rfl := int_eq_ok_iff.1 hcode
  cases hkind : ParameterKind.ofCode? code with
  | none =>
      rw [hkind] at h₁
      obtain rfl := run_throw_eq_error_iff.1 h₁
      exact .kind hkind
  | some kind =>
      obtain rfl := ParameterKind.code_of_ofCode? hkind
      simp only [hkind] at h₁
      split at h₁
      · rename_i hcoord
        exact hcoord ▸ refused_coord h₁
      · rename_i hcoord
        obtain hint | ⟨int, _, hint, h₂⟩ := run_bind_eq_error_iff.1 h₁
        · obtain ⟨hlen, rfl⟩ := int_eq_error_iff.1 hint
          exact .int hcoord hlen
        obtain rfl := int_eq_ok_iff.1 hint
        rw [← List.append_assoc]
        obtain hreal | ⟨real, _, hreal, h₃⟩ := run_bind_eq_error_iff.1 h₂
        · obtain ⟨hlen, rfl⟩ := real_eq_error_iff.1 hreal
          exact .real hcoord hlen
        obtain rfl := real_eq_ok_iff.1 hreal
        rw [← List.append_assoc]
        obtain htext | ⟨_, _, -, h₄⟩ := run_bind_eq_error_iff.1 h₃
        · exact .text hcoord (text_eq_error_iff.1 htext)
        · cases h₄

/-- Behind the code of a kind the decoder goes on with its values. -/
theorem Parameter.run_decode_code (kind : ParameterKind) (rest : List UInt8) :
    decode.run (ofInt32 kind.code ++ rest) =
      (if kind = .coord3d then do
        let x ← SliceDecoder.real
        let y ← SliceDecoder.real
        let z ← SliceDecoder.real
        return { ofKind .coord3d with coord := ⟨x, y, z⟩ }
      else do
        let int ← SliceDecoder.int
        let real ← SliceDecoder.real
        let text ← SliceDecoder.text
        return { ofKind kind with int, real, text } : SliceDecoder Parameter).run rest := by
  rw [decode, run_bind_ok _ (run_int _ _), ParameterKind.ofCode?_code]

theorem Parameter.decode_of_refused (h : Refused bytes e) : decode.run bytes = .error e := by
  cases h with
  | code hlen => exact run_bind_error _ (int_eq_error_iff.2 ⟨hlen, rfl⟩)
  | kind hkind =>
      rw [decode, run_bind_ok _ (run_int _ _), hkind]
      rfl
  | coord taken htaken hlen =>
      have hreal := real_eq_error_iff.2 ⟨hlen, rfl⟩
      rw [List.append_assoc, run_decode_code, if_pos rfl]
      match taken, htaken with
      | [], _ => exact run_bind_error _ hreal
      | [x], _ =>
          rw [List.flatMap_singleton, run_bind_ok _ (run_real _ _)]
          exact run_bind_error _ hreal
      | [x, y], _ =>
          rw [List.flatMap_cons, List.flatMap_singleton, List.append_assoc,
            run_bind_ok _ (run_real _ _), run_bind_ok _ (run_real _ _)]
          exact run_bind_error _ hreal
  | int hcoord hlen =>
      rw [run_decode_code, if_neg hcoord]
      exact run_bind_error _ (int_eq_error_iff.2 ⟨hlen, rfl⟩)
  | real hcoord hlen =>
      rw [List.append_assoc, run_decode_code, if_neg hcoord, run_bind_ok _ (run_int _ _)]
      exact run_bind_error _ (real_eq_error_iff.2 ⟨hlen, rfl⟩)
  | text hcoord htext =>
      rw [List.append_assoc, List.append_assoc, run_decode_code, if_neg hcoord,
        run_bind_ok _ (run_int _ _), run_bind_ok _ (run_real _ _)]
      exact run_bind_error _ (text_eq_error_iff.2 htext)

theorem Parameter.reads_decode : decode.Reads Parameter.bytes WellFormed Refused where
  ok_iff {bytes p rest} := by
    constructor
    · intro h
      exact ⟨consumes_decode _ _ _ h, kept_eq_iff.1 (kept_of_decode h)⟩
    · rintro ⟨rfl, hp⟩
      rw [run_decode, kept_eq_iff.2 hp]
  error_iff := ⟨refused_of_decode, decode_of_refused⟩

/-! ## Conditions -/

namespace Condition

variable {registry : Registry} {version : UInt16}

theorem decodeType_eq_ok_iff {type : Int32} :
    (decodeType registry version).run bytes = .ok (type, rest) ↔
      ∃ tag name, StoredText.fits name = true ∧ bytes = typeBytes version tag name ++ rest ∧
        type = typeNamed registry version tag name := by
  unfold typeBytes typeNamed
  rw [decodeType, run_bind_eq_ok_iff]
  by_cases hv : 4 ≤ version
  · simp only [if_pos hv]
    constructor
    · rintro ⟨tag, mid, htag, h⟩
      obtain ⟨name, rest', hname, hpure⟩ := run_bind_eq_ok_iff.1 h
      obtain ⟨rfl, rfl⟩ := run_pure_eq_ok_iff.1 hpure
      obtain rfl := int_eq_ok_iff.1 htag
      obtain ⟨rfl, hfits⟩ := text_eq_ok_iff.1 hname
      exact ⟨tag, name, hfits, (List.append_assoc _ _ _).symm, rfl⟩
    · rintro ⟨tag, name, hfits, rfl, rfl⟩
      rw [List.append_assoc]
      exact ⟨tag, _, run_int _ _, run_bind_eq_ok_iff.2
        ⟨name, rest, text_eq_ok_iff.2 ⟨rfl, hfits⟩, rfl⟩⟩
  · simp only [if_neg hv, List.append_nil]
    constructor
    · rintro ⟨tag, mid, htag, hpure⟩
      obtain ⟨rfl, rfl⟩ := run_pure_eq_ok_iff.1 hpure
      exact ⟨tag, "", StoredText.fits_empty, int_eq_ok_iff.1 htag, rfl⟩
    · rintro ⟨_, name, -, rfl, rfl⟩
      exact ⟨_, rest, run_int _ _, rfl⟩

theorem decodeType_eq_error_iff :
    (decodeType registry version).run bytes = .error e ↔
      bytes.length < 4 ∧ e = .malformed (.truncated .int) ∨
      4 ≤ version ∧ ∃ tag rest, bytes = ofInt32 tag ++ rest ∧ StoredText.Refused rest e := by
  rw [decodeType, run_bind_eq_error_iff, int_eq_error_iff]
  refine or_congr_right ?_
  constructor
  · rintro ⟨tag, rest, htag, h⟩
    split at h
    · rename_i hv
      obtain hname | ⟨_, _, -, hpure⟩ := run_bind_eq_error_iff.1 h
      · exact ⟨hv, tag, rest, int_eq_ok_iff.1 htag, text_eq_error_iff.1 hname⟩
      · cases hpure
    · cases h
  · rintro ⟨hv, tag, rest, rfl, hname⟩
    refine ⟨tag, rest, run_int _ _, ?_⟩
    rw [if_pos hv]
    exact run_bind_error _ (text_eq_error_iff.2 hname)

theorem decodeParams_eq_ok_iff {found : List Parameter} :
    decodeParams.run bytes = .ok (found, rest) ↔
      found.length ≤ 12 ∧ (∀ p ∈ found, p.WellFormed) ∧
        bytes = ofInt32 (Int32.ofNat found.length) ++ found.flatMap Parameter.bytes ++ rest := by
  constructor
  · intro h
    obtain ⟨count, mid, hcount, h⟩ := run_bind_eq_ok_iff.1 h
    split at h
    · rename_i hrange
      obtain ⟨hlen, hall, rfl⟩ := Parameter.reads_decode.count_eq_ok_iff.1 h
      obtain rfl := int_eq_ok_iff.1 hcount
      have hmax : (maxParameters : Int) = 12 := rfl
      have hof : Int32.ofNat found.length = count := by
        rw [hlen, ← Int32.toInt_inj, Int32.toInt_ofNat_of_lt (by omega)]
        omega
      exact ⟨by omega, hall, by rw [hof, List.append_assoc]⟩
    · cases h
  · rintro ⟨hlen, hall, rfl⟩
    have hkept : found.map Parameter.kept = found :=
      (List.map_congr_left fun p hp => Parameter.kept_eq_iff.2 (hall p hp)).trans (List.map_id _)
    rw [run_decodeParams hlen, hkept]

theorem decodeParams_eq_error_iff :
    decodeParams.run bytes = .error e ↔
      bytes.length < 4 ∧ e = .malformed (.truncated .int) ∨
      ∃ count mid, bytes = ofInt32 count ++ mid ∧
        (¬ (0 ≤ count.toInt ∧ count.toInt ≤ 12) ∧ e = .malformed (.parameterCount count) ∨
          count.toInt ≤ 12 ∧ ∃ (found : List Parameter) (rest : List UInt8),
            found.length < count.toInt ∧ (∀ p ∈ found, p.WellFormed) ∧
            mid = found.flatMap Parameter.bytes ++ rest ∧ Parameter.Refused rest e) := by
  rw [decodeParams, run_bind_eq_error_iff, int_eq_error_iff]
  refine or_congr_right ?_
  have hmax : (maxParameters : Int) = 12 := rfl
  simp only [hmax, int_eq_ok_iff]
  refine exists_congr fun count => exists_congr fun mid => and_congr_right fun _ => ?_
  by_cases hrange : 0 ≤ count.toInt ∧ count.toInt ≤ 12
  · rw [if_pos hrange, Parameter.reads_decode.count_eq_error_iff]
    simp only [hrange, and_self, not_true_eq_false, false_and, false_or, true_and, Int.lt_toNat]
  · rw [if_neg hrange, run_throw_eq_error_iff]
    constructor
    · rintro rfl
      exact .inl ⟨hrange, rfl⟩
    · rintro (⟨-, rfl⟩ | ⟨hmost, found, rest, hlen, -⟩)
      · rfl
      · exact absurd ⟨by omega, hmost⟩ hrange

theorem hasWarnings_ofFound (type : Int32) (shape : List ParameterKind) (found : List Parameter) :
    (ofFound type shape found).hasWarnings = true ↔
      ∃ (slot : ℕ) (p : Parameter) (kind : ParameterKind),
        found[slot]? = some p ∧ shape[slot]? = some kind ∧ p.kind ≠ kind :=
  hasWarnings_ofFound_iff (c := ⟨type, found, false, 0, 0⟩)

/-- Behind a type that can be used, the parameters decide. -/
theorem run_decode_of_template {tag : Int32} {name : String} {t : Template}
    (hfits : StoredText.fits name = true)
    (ht : registry.template? (typeNamed registry version tag name) = some t)
    (hshape : t.shape.length ≤ 12) (rest : List UInt8) :
    (decode registry version).run (typeBytes version tag name ++ rest) = (do
      let found ← decodeParams
      return ofFound (typeNamed registry version tag name) t.shape found).run rest := by
  rw [decode, run_bind_ok _ (decodeType_eq_ok_iff.2 ⟨tag, name, hfits, rfl, rfl⟩)]
  simp only [ht, if_neg (Nat.not_lt.2 hshape : ¬ t.shape.length > maxParameters)]

theorem held_of_decode {c : Condition} (h : (decode registry version).run bytes = .ok (c, rest)) :
    Held registry version bytes c := by
  obtain ⟨type, mid, htype, h₁⟩ := run_bind_eq_ok_iff.1 h
  obtain ⟨tag, name, hfits, rfl, rfl⟩ := decodeType_eq_ok_iff.1 htype
  cases ht : registry.template? (typeNamed registry version tag name) with
  | none =>
      rw [ht] at h₁
      cases h₁
  | some t =>
      simp only [ht] at h₁
      split at h₁
      · cases h₁
      · rename_i hshape
        obtain ⟨found, rest', hfound, hpure⟩ := run_bind_eq_ok_iff.1 h₁
        obtain ⟨rfl, rfl⟩ := run_pure_eq_ok_iff.1 hpure
        obtain ⟨hlen, hall, rfl⟩ := decodeParams_eq_ok_iff.1 hfound
        exact ⟨tag, name, t, found, rest', hfits, hlen, hall, by simp only [List.append_assoc], ht,
          Nat.le_of_not_lt hshape, rfl, rfl, hasWarnings_ofFound _ _ _, rfl, rfl⟩

theorem decode_of_held {c : Condition} (h : Held registry version bytes c) :
    ∃ rest, (decode registry version).run bytes = .ok (c, rest) := by
  obtain ⟨tag, name, t, found, rest, hfits, hlen, hall, rfl, ht, hshape, htype, hparams, hwarn,
    hcustom, hreserved⟩ := h
  have hc : ofFound (typeNamed registry version tag name) t.shape found = c := by
    have hflag : (ofFound (typeNamed registry version tag name) t.shape found).hasWarnings =
        c.hasWarnings := Bool.eq_iff_iff.2 ((hasWarnings_ofFound _ _ _).trans hwarn.symm)
    obtain ⟨type, params, hasWarnings, customData, reserved⟩ := c
    simp only at htype hparams hflag hcustom hreserved
    rw [htype, hparams, ← hflag, hcustom, hreserved]
    rfl
  rw [List.append_assoc, List.append_assoc, run_decode_of_template hfits ht hshape]
  refine ⟨rest, run_bind_eq_ok_iff.2 ⟨found, rest, decodeParams_eq_ok_iff.2 ⟨hlen, hall, ?_⟩, ?_⟩⟩
  · rw [List.append_assoc]
  · rw [hc]
    rfl

theorem refused_of_decode (h : (decode registry version).run bytes = .error e) :
    Refused registry version bytes e := by
  -- Part by part: this one is refused, or it has been read and the bytes behind it decide.
  obtain htype | ⟨type, mid, htype, h₁⟩ := run_bind_eq_error_iff.1 h
  · obtain ⟨hlen, rfl⟩ | ⟨hv, tag, rest, rfl, hname⟩ := decodeType_eq_error_iff.1 htype
    · exact .tag hlen
    · exact .name hv hname
  obtain ⟨tag, name, hfits, rfl, rfl⟩ := decodeType_eq_ok_iff.1 htype
  cases ht : registry.template? (typeNamed registry version tag name) with
  | none =>
      rw [ht] at h₁
      obtain rfl := run_throw_eq_error_iff.1 h₁
      exact .unknown hfits ht
  | some t =>
      simp only [ht] at h₁
      split at h₁
      · rename_i hshape
        obtain rfl := run_throw_eq_error_iff.1 h₁
        exact .oversized hfits ht hshape
      · rename_i hshape
        have husable : Usable registry (typeNamed registry version tag name) :=
          ⟨t, ht, Nat.le_of_not_lt hshape⟩
        obtain hparams | ⟨_, _, -, hpure⟩ := run_bind_eq_error_iff.1 h₁
        · obtain ⟨hlen, rfl⟩ | ⟨count, mid, rfl, ⟨hrange, rfl⟩ | ⟨hmost, found, rest, hlen, hall,
            rfl, hrefused⟩⟩ := decodeParams_eq_error_iff.1 hparams
          · exact .count hfits husable hlen
          · rw [← List.append_assoc]
            exact .range hfits husable hrange
          · rw [← List.append_assoc, ← List.append_assoc]
            exact .parameter hfits husable hmost hlen hall hrefused
        · cases hpure

theorem decode_of_refused (h : Refused registry version bytes e) :
    (decode registry version).run bytes = .error e := by
  cases h with
  | tag hlen => exact run_bind_error _ (decodeType_eq_error_iff.2 (.inl ⟨hlen, rfl⟩))
  | name hv hname =>
      exact run_bind_error _ (decodeType_eq_error_iff.2 (.inr ⟨hv, _, _, rfl, hname⟩))
  | unknown hfits ht =>
      rw [decode, run_bind_ok _ (decodeType_eq_ok_iff.2 ⟨_, _, hfits, rfl, rfl⟩), ht]
      rfl
  | @oversized tag name t rest hfits ht hshape =>
      rw [decode, run_bind_ok _ (decodeType_eq_ok_iff.2 ⟨_, _, hfits, rfl, rfl⟩)]
      have hlong : t.shape.length > maxParameters := hshape
      simp only [ht, hlong, ↓reduceIte]
      rfl
  | count hfits husable hlen =>
      obtain ⟨t, ht, hshape⟩ := husable
      rw [run_decode_of_template hfits ht hshape]
      exact run_bind_error _ (decodeParams_eq_error_iff.2 (.inl ⟨hlen, rfl⟩))
  | range hfits husable hrange =>
      obtain ⟨t, ht, hshape⟩ := husable
      rw [List.append_assoc, run_decode_of_template hfits ht hshape]
      exact run_bind_error _
        (decodeParams_eq_error_iff.2 (.inr ⟨_, _, rfl, .inl ⟨hrange, rfl⟩⟩))
  | parameter hfits husable hmost hlen hall hrefused =>
      obtain ⟨t, ht, hshape⟩ := husable
      rw [List.append_assoc, List.append_assoc, run_decode_of_template hfits ht hshape]
      exact run_bind_error _ (decodeParams_eq_error_iff.2
        (.inr ⟨_, _, rfl, .inr ⟨hmost, _, _, hlen, hall, rfl, hrefused⟩⟩))

/-- Reading a condition from the innermost open chunk of a reader answers the condition that the
bytes of the chunk stand for, or the reason why they are refused. -/
theorem read_iff (registry : Registry) (version : UInt16) (parsers : κ → Parser κ τ)
    (r : Reader κ) :
    (∀ c, (Program.run parsers (read registry version).run r).1 = .ok c ↔
        Held registry version r.unread c) ∧
      ∀ e, (Program.run parsers (read registry version).run r).1 = .error e ↔
        Refused registry version r.unread e := by
  have hread := read_follows (κ := κ) (τ := τ) registry version
  cases hd : (decode registry version).run r.unread with
  | ok out =>
      obtain ⟨c, rest⟩ := out
      rw [hread.ok hd]
      refine ⟨fun c' => ⟨?_, fun h => ?_⟩, fun e => iff_of_false nofun fun h => ?_⟩
      · rintro ⟨⟩
        exact held_of_decode hd
      · obtain ⟨rest', hd'⟩ := decode_of_held h
        cases hd.symm.trans hd'
        rfl
      · cases hd.symm.trans (decode_of_refused h)
  | error e =>
      obtain ⟨rest, hrun⟩ : ∃ rest, Program.run parsers (read registry version).run r =
          (.error e, { r with unread := rest }) := hread.error hd
      rw [hrun]
      refine ⟨fun c => iff_of_false nofun fun h => ?_, fun e' => ⟨?_, fun h => ?_⟩⟩
      · obtain ⟨rest', hd'⟩ := decode_of_held h
        cases hd.symm.trans hd'
      · rintro ⟨⟩
        exact refused_of_decode hd
      · cases hd.symm.trans (decode_of_refused h)
        rfl

end Condition

end TriggerScript
