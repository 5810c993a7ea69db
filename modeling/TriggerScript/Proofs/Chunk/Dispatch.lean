import TriggerScript.Chunk.Program
import TriggerScript.Proofs.Chunk.Slice

/-!
# Programs and dispatch against slices

A program that only reads values finds what a decoder finds in the slice of the innermost open chunk.
Dispatch over the chunks ahead finds what decoding that slice chunk by chunk finds, if the parsers do
so for single chunks: opening, closing and registering do not show.
-/

namespace TriggerScript

open LittleEndian

variable {κ τ α β : Type}

/-! ## Programs -/

theorem Program.bind_done (p : Program κ τ α) : p.bind .done = p := by
  induction p with
  | done a => rfl
  | call c next ih => exact congrArg (Program.call c) (funext ih)

theorem Program.bind_assoc {γ : Type} (p : Program κ τ α) (f : α → Program κ τ β)
    (g : β → Program κ τ γ) : (p.bind f).bind g = p.bind fun a => (f a).bind g := by
  induction p with
  | done a => rfl
  | call c next ih => exact congrArg (Program.call c) (funext ih)

instance : LawfulMonad (Program κ τ) :=
  LawfulMonad.mk' _ Program.bind_done (fun _ _ => rfl) Program.bind_assoc

theorem Program.run_ofCall (parsers : κ → Parser κ τ) (c : Call κ τ) (r : Reader κ) :
    (Program.ofCall c).run parsers r = c.answer parsers r :=
  Program.run_call parsers c .done r

theorem Program.run_ofCall_bind (parsers : κ → Parser κ τ) (c : Call κ τ)
    (f : c.Answer → Program κ τ β) (r : Reader κ) :
    (Program.ofCall c >>= f).run parsers r =
      (f (c.answer parsers r).1).run parsers (c.answer parsers r).2 :=
  Program.run_call parsers c f r

theorem Reading.run_bind (parsers : κ → Parser κ τ) (p : Reading κ τ α) (f : α → Reading κ τ β)
    (r : Reader κ) :
    Program.run parsers (p >>= f).run r =
      match Program.run parsers p.run r with
      | (.ok a, r) => Program.run parsers (f a).run r
      | (.error e, r) => (.error e, r) := by
  rw [ExceptT.run_bind]
  refine (Program.run_bind parsers p.run _ r).trans ?_
  generalize Program.run parsers p.run r = out
  obtain ⟨a | e, r⟩ := out <;> rfl

/-! ## Reading values -/

/-- `p` finds in the innermost open chunk what `d` decodes, and changes nothing else of a reader. -/
def Reading.Follows (p : Reading κ τ α) (d : SliceDecoder α) : Prop :=
  ∀ (parsers : κ → Parser κ τ) (r : Reader κ),
    match d.run r.unread with
    | .ok (a, rest) => Program.run parsers p.run r = (.ok a, { r with unread := rest })
    | .error e => ∃ rest, Program.run parsers p.run r = (.error e, { r with unread := rest })

namespace Reading.Follows

variable {p : Reading κ τ α} {d : SliceDecoder α}

theorem ok {parsers : κ → Parser κ τ} {r : Reader κ} {a : α} {rest : List UInt8} (h : p.Follows d)
    (hd : d.run r.unread = .ok (a, rest)) :
    Program.run parsers p.run r = (.ok a, { r with unread := rest }) := by
  have := h parsers r
  rwa [hd] at this

theorem error {parsers : κ → Parser κ τ} {r : Reader κ} {e : ChunkError} (h : p.Follows d)
    (hd : d.run r.unread = .error e) :
    ∃ rest, Program.run parsers p.run r = (.error e, { r with unread := rest }) := by
  have := h parsers r
  rwa [hd] at this

theorem pure (a : α) : (Pure.pure a : Reading κ τ α).Follows (Pure.pure a) := by
  intro parsers r
  rfl

theorem throw (e : ChunkError) :
    (throwThe ChunkError e : Reading κ τ α).Follows (throwThe ChunkError e) := by
  intro parsers r
  exact ⟨r.unread, rfl⟩

theorem bind {f : α → Reading κ τ β} {g : α → SliceDecoder β} (hp : p.Follows d)
    (hf : ∀ a, (f a).Follows (g a)) : (p >>= f).Follows (d >>= g) := by
  intro parsers r
  rw [Reading.run_bind]
  cases hd : d.run r.unread with
  | error e =>
      obtain ⟨rest, h⟩ := hp.error hd
      rw [SliceDecoder.run_bind_error g hd, h]
      exact ⟨rest, rfl⟩
  | ok out =>
      rw [SliceDecoder.run_bind_ok g hd, hp.ok hd]
      exact hf out.1 parsers { r with unread := out.2 }

theorem map (f : α → β) (hp : p.Follows d) : (f <$> p).Follows (f <$> d) := by
  rw [map_eq_pure_bind, map_eq_pure_bind]
  exact hp.bind fun a => pure (f a)

theorem ite {c : Prop} [Decidable c] {p' : Reading κ τ α} {d' : SliceDecoder α} (hp : p.Follows d)
    (hp' : p'.Follows d') : (if c then p else p').Follows (if c then d else d') := by
  split
  · exact hp
  · exact hp'

theorem readWith {take? : List UInt8 → Option (α × List UInt8)} {field : Field}
    (h : ∀ (parsers : κ → Parser κ τ) r, Program.run parsers p.run r = r.readWith take? field) :
    p.Follows (SliceDecoder.value take? field) := by
  intro parsers r
  rw [h, Reader.readWith]
  cases ht : take? r.unread with
  | none =>
      rw [SliceDecoder.run_value_error ht]
      exact ⟨r.unread, rfl⟩
  | some out => rw [SliceDecoder.run_value ht]

theorem byte : (Reading.byte : Reading κ τ UInt8).Follows SliceDecoder.byte :=
  readWith fun parsers => Program.run_ofCall parsers .readByte

theorem int : (Reading.int : Reading κ τ Int32).Follows SliceDecoder.int :=
  readWith fun parsers => Program.run_ofCall parsers .readInt

theorem real : (Reading.real : Reading κ τ Single).Follows SliceDecoder.real :=
  readWith fun parsers => Program.run_ofCall parsers .readReal

theorem text : (Reading.text : Reading κ τ String).Follows SliceDecoder.text := by
  intro parsers r
  have hr : Program.run parsers Reading.text.run r = r.readText := Program.run_ofCall parsers .readText r
  rw [hr, SliceDecoder.text, Reader.readText, Reader.readWith]
  cases hl : takeUInt16? r.unread with
  | none =>
      rw [SliceDecoder.run_bind_error _ (SliceDecoder.run_value_error hl)]
      exact ⟨r.unread, rfl⟩
  | some out =>
      obtain ⟨length, rest⟩ := out
      rw [SliceDecoder.run_bind_ok _ (SliceDecoder.run_value hl)]
      simp only [Reader.readWith]
      cases ht : takeBytes? length.toNat rest with
      | none =>
          -- The length has been read although the characters are missing.
          rw [SliceDecoder.run_bind_error _ (SliceDecoder.run_value_error ht)]
          exact ⟨rest, rfl⟩
      | some out =>
          rw [SliceDecoder.run_bind_ok _ (SliceDecoder.run_value ht)]
          rfl

theorem count (n : Nat) (hp : p.Follows d) : (Reading.count n p).Follows (SliceDecoder.count n d) := by
  induction n with
  | zero => exact pure []
  | succ n ih => exact hp.bind fun a => ih.bind fun as => pure (a :: as)

end Reading.Follows

/-! ## Tables of parsers -/

namespace ParserTable

theorem find?_nil (l p : String) : find? ([] : ParserTable κ) l p = none := rfl

theorem find?_insert (table : ParserTable κ) (label parent : String) (k : κ) (l p : String) :
    (table.insert label parent k).find? l p =
      if l = label ∧ p = parent then some k else table.find? l p := by
  have hfilter : (l, p) ≠ (label, parent) →
      List.lookup (l, p) (table.filter fun entry => entry.1 != (label, parent)) =
        List.lookup (l, p) table := by
    intro hne
    induction table with
    | nil => rfl
    | cons entry table ih =>
        obtain ⟨key, k'⟩ := entry
        by_cases hkey : key = (label, parent)
        · subst hkey
          simp [List.lookup_cons, beq_eq_false_iff_ne.2 hne, ih]
        · simp [List.lookup_cons, hkey, ih]
  by_cases h : l = label ∧ p = parent
  · obtain ⟨rfl, rfl⟩ := h
    simp [insert, find?]
  · have hne : (l, p) ≠ (label, parent) := fun heq => h (Prod.mk.inj heq)
    simp only [insert, find?, List.lookup_cons, beq_eq_false_iff_ne.2 hne, hfilter hne, if_neg h]

end ParserTable

/-! ## Opening a file -/

theorem takeMagic?_eq (bytes : List UInt8) :
    takeBytes? magic.length bytes = some (magic, bytes.drop magic.length) ↔
      magic.isPrefixOf bytes = true := by
  rw [takeBytes?_eq_some_iff, List.isPrefixOf_iff_prefix]
  constructor
  · rintro ⟨h, -⟩
    exact ⟨_, h.symm⟩
  · rintro ⟨rest, rfl⟩
    simp

theorem Reader.ofBytes_eq (bytes : List UInt8) :
    (Reader.ofBytes bytes : Except ChunkError (Reader κ)) =
      if magic.isPrefixOf bytes then
        match LabelTable.take? (bytes.drop magic.length) with
        | some (labels, unread) => .ok ⟨labels, [], unread, []⟩
        | none => .error (.malformed .labelTable)
      else .error .badMagic := by
  by_cases hp : magic.isPrefixOf bytes = true
  · rw [ofBytes, (takeMagic?_eq bytes).2 hp, if_pos hp]
    exact if_pos rfl
  · rw [ofBytes, if_neg hp]
    cases ht : takeBytes? magic.length bytes with
    | none => rfl
    | some out =>
        obtain ⟨front, rest⟩ := out
        obtain ⟨rfl, -⟩ := takeBytes?_eq_some_iff.1 ht
        refine if_neg ?_
        rintro rfl
        exact hp (List.isPrefixOf_iff_prefix.2 ⟨rest, rfl⟩)

theorem Reader.eq_of_ofBytes {bytes : List UInt8} {r : Reader κ} (h : ofBytes bytes = .ok r) :
    ∃ labels unread, r = ⟨labels, [], unread, []⟩ := by
  rw [ofBytes_eq] at h
  split at h
  · split at h
    · cases h
      exact ⟨_, _, rfl⟩
    · cases h
  · cases h

/-! ## Opening a chunk -/

def Chunk.info (chunk : Chunk) (parent : String) : ChunkInfo :=
  ⟨chunk.label, parent, chunk.version, chunk.body.length⟩

namespace Reader

def enter (r : Reader κ) (chunk : Chunk) (rest : List UInt8) : Reader κ :=
  { r with unread := chunk.body, chunks := ⟨chunk.label, rest⟩ :: r.chunks }

variable {r : Reader κ} {chunk : Chunk} {rest : List UInt8} {e : ChunkError}

theorem openChunk_of_takeChunk (h : takeChunk r.labels r.unread = .ok (chunk, rest)) :
    r.openChunk = (.ok (chunk.info r.enclosing), r.enter chunk rest) := by
  obtain ⟨id, size, tail, hh, hl, hs, ht, hlen⟩ := takeChunk_eq_ok_iff.1 h
  have hb := takeBytes?_eq_some_iff.2 ⟨ht, hlen⟩
  simp only [openChunk, readWith, hh, hl, hb, if_neg (Int.not_lt.2 hs), enclosing, Chunk.info, hlen,
    enter]

theorem openChunk_of_refused (h : takeChunk r.labels r.unread = .error e) :
    ∃ unread, r.openChunk = (.error e, { r with unread }) := by
  unfold takeChunk at h
  split at h
  · rename_i hh
    cases h
    exact ⟨r.unread, by simp only [openChunk, readWith, hh]⟩
  · rename_i id version size tail hh
    -- The header has been read, whatever is wrong with it.
    refine ⟨tail, ?_⟩
    split at h
    · rename_i hl
      cases h
      simp only [openChunk, readWith, hh, hl]
    · rename_i label hl
      split at h
      · rename_i hs
        cases h
        simp only [openChunk, readWith, hh, hl, if_pos hs]
      · rename_i hs
        split at h
        · rename_i hb
          cases h
          simp only [openChunk, readWith, hh, hl, if_neg hs, hb]
        · cases h

/-! ## One chunk of a dispatch -/

variable {parsers : κ → Parser κ τ} {target target' : τ} {k : κ}

theorem parse_of_nil (h : r.unread = []) : r.parse parsers target = ((.ok (), target), r) := by
  rw [parse_eq, if_pos (by simp [atEnd, h])]

theorem parse_of_refused (hb : r.unread ≠ []) (h : takeChunk r.labels r.unread = .error e) :
    ∃ unread, r.parse parsers target = ((.error e, target), { r with unread }) := by
  obtain ⟨unread, ho⟩ := openChunk_of_refused h
  rw [parse_eq, if_neg (by simpa [atEnd] using hb), ho]
  exact ⟨unread, rfl⟩

theorem parse_of_takeChunk (h : takeChunk r.labels r.unread = .ok (chunk, rest)) :
    r.parse parsers target =
      match r.parsers.find? chunk.label r.enclosing with
      | none => { r with unread := rest }.parse parsers target
      | some k =>
        match (parsers k (chunk.info r.enclosing) target).run parsers (r.enter chunk rest) with
        | ((.error e, target), r) => ((.error e, target), r)
        | ((.ok (), target), r) => r.closeChunk.parse parsers target := by
  have hb : r.unread ≠ [] := ne_nil_of_takeChunk h
  rw [parse_eq, if_neg (by simpa [atEnd] using hb), openChunk_of_takeChunk h]
  rfl

/-- A reader somewhere in the chunk `parent`. -/
structure Scope (P : ParserTable κ → Prop) (labels : LabelTable) (parent : String) (r : Reader κ) :
    Prop where
  labels : r.labels = labels
  enclosing : r.enclosing = parent
  parsers : P r.parsers

/-- `r'` stands in the same chunks as `r`, and its parsers satisfy `P`. -/
structure Returns (P : ParserTable κ → Prop) (r r' : Reader κ) : Prop where
  labels : r'.labels = r.labels
  chunks : r'.chunks = r.chunks
  parsers : P r'.parsers

variable {P : ParserTable κ → Prop} {labels : LabelTable} {label parent : String} {r₁ r₂ : Reader κ}

theorem Scope.enter (h : r.Scope P labels parent) : (r.enter chunk rest).Scope P labels chunk.label :=
  ⟨h.labels, rfl, h.parsers⟩

theorem Scope.returns (h : r.Scope P labels parent) (unread : List UInt8) :
    r.Returns P { r with unread } :=
  ⟨rfl, rfl, h.parsers⟩

theorem Returns.trans (h : r.Returns P r₁) (h' : r₁.Returns P r₂) : r.Returns P r₂ :=
  ⟨h'.labels.trans h.labels, h'.chunks.trans h.chunks, h'.parsers⟩

theorem Returns.scope (h : r.Returns P r₁) (hr : r.Scope P labels parent) :
    r₁.Scope P labels parent := by
  refine ⟨h.labels.trans hr.labels, ?_, h.parsers⟩
  rw [← hr.enclosing]
  simp only [Reader.enclosing, h.chunks]

/-- Closing a chunk goes back to the bytes after it, whatever has been read of it. -/
theorem Returns.closeChunk (h : (r.enter chunk rest).Returns P r₁) :
    r.Returns P r₁.closeChunk ∧ r₁.closeChunk.unread = rest := by
  have hclose : r₁.closeChunk = { r₁ with unread := rest, chunks := r.chunks } := by
    simp only [Reader.closeChunk, h.chunks, Reader.enter]
  rw [hclose]
  exact ⟨⟨h.labels, rfl, h.parsers⟩, rfl⟩

end Reader

/-! ## Dispatch -/

/-- In a chunk of `label`, the parser `k` adds to its target what `decode` finds in the content, and
nothing when that fails. The target is made by `fill` of what has been found. -/
def Parser.Adds (parsers : κ → Parser κ τ) (P : ParserTable κ → Prop) (labels : LabelTable)
    (label : String) (k : κ) (decode : UInt16 → List UInt8 → Except ChunkError α)
    (fill : List α → τ) : Prop :=
  ∀ (info : ChunkInfo) (found : List α) (r : Reader κ), info.label = label →
    r.Scope P labels label →
      (∀ a, decode info.version r.unread = .ok a → ∃ r',
        (parsers k info (fill found)).run parsers r = ((.ok (), fill (found ++ [a])), r') ∧
          r.Returns P r') ∧
      (∀ e, decode info.version r.unread = .error e → ∃ r',
        (parsers k info (fill found)).run parsers r = ((.error e, fill found), r'))

namespace Reader

variable {parsers : κ → Parser κ τ} {P : ParserTable κ → Prop} {labels : LabelTable}
variable {label parent : String} {k : κ} {decode : UInt16 → List UInt8 → Except ChunkError α}
variable {fill : List α → τ} {r : Reader κ}

section OneChunk

variable {chunk : Chunk} {rest : List UInt8} {found : List α} {target : τ}
variable (hk : ∀ table, P table → ∀ l, table.find? l parent = if l = label then some k else none)
variable (hr : r.Scope P labels parent) (ht : takeChunk r.labels r.unread = .ok (chunk, rest))

include hk hr ht

theorem parse_of_found (hadds : Parser.Adds parsers P labels label k decode fill) {a : α}
    (hl : chunk.label = label) (hd : decode chunk.version chunk.body = .ok a) :
    ∃ r', r.parse parsers (fill found) = r'.parse parsers (fill (found ++ [a])) ∧
      r.Returns P r' ∧ r'.unread = rest := by
  obtain ⟨r₁, hrun, hr₁⟩ :=
    (hadds (chunk.info parent) found (r.enter chunk rest) hl (hl ▸ hr.enter)).1 a hd
  refine ⟨r₁.closeChunk, ?_, hr₁.closeChunk⟩
  rw [parse_of_takeChunk ht, hr.enclosing, hk _ hr.parsers, if_pos hl]
  simp only [hrun]

theorem parse_of_failed (hadds : Parser.Adds parsers P labels label k decode fill) {e : ChunkError}
    (hl : chunk.label = label) (hd : decode chunk.version chunk.body = .error e) :
    ∃ r', r.parse parsers (fill found) = ((.error e, fill found), r') := by
  obtain ⟨r₁, hrun⟩ :=
    (hadds (chunk.info parent) found (r.enter chunk rest) hl (hl ▸ hr.enter)).2 e hd
  refine ⟨r₁, ?_⟩
  rw [parse_of_takeChunk ht, hr.enclosing, hk _ hr.parsers, if_pos hl]
  simp only [hrun]

theorem parse_of_skipped (hl : chunk.label ≠ label) :
    r.parse parsers target = { r with unread := rest }.parse parsers target := by
  rw [parse_of_takeChunk ht, hr.enclosing, hk _ hr.parsers, if_neg hl]

end OneChunk

/-- Dispatch in a scope where only the chunks of `label` have a parser is decoding by chunks. -/
theorem parse_eq_decodeChunks
    (hk : ∀ table, P table → ∀ l, table.find? l parent = if l = label then some k else none)
    (hadds : Parser.Adds parsers P labels label k decode fill) (found : List α)
    (hr : r.Scope P labels parent) :
    ∃ r', r.parse parsers (fill found) =
        (((decodeChunks labels label decode r.unread).2,
          fill (found ++ (decodeChunks labels label decode r.unread).1)), r') ∧
      ((decodeChunks labels label decode r.unread).2 = .ok () →
        r.Returns P r' ∧ r'.unread = []) := by
  -- The induction is on the bytes left in the scope: each chunk leaves fewer of them.
  induction hn : r.unread.length using Nat.strongRecOn generalizing r found with
  | _ n ih =>
    subst hn
    have hlabels := hr.labels
    by_cases hb : r.unread = []
    · rw [parse_of_nil hb, hb, decodeChunks_nil, List.append_nil]
      exact ⟨r, rfl, fun _ => ⟨hr.returns r.unread, hb⟩⟩
    subst hlabels
    cases ht : takeChunk r.labels r.unread with
    | error e =>
        obtain ⟨unread, hparse⟩ := parse_of_refused hb ht
        rw [hparse, decodeChunks_of_refused hb ht, List.append_nil]
        exact ⟨{ r with unread }, rfl, nofun⟩
    | ok out =>
        obtain ⟨chunk, rest⟩ := out
        have hlen := length_of_takeChunk ht
        by_cases hl : chunk.label = label
        · cases hd : decode chunk.version chunk.body with
          | error e =>
              obtain ⟨r₁, hparse⟩ := parse_of_failed hk hr ht hadds hl hd
              rw [hparse, decodeChunks_of_error ht hl hd, List.append_nil]
              exact ⟨r₁, rfl, nofun⟩
          | ok a =>
              obtain ⟨r₁, hstep, hr₁, hrest⟩ := parse_of_found hk hr ht hadds hl hd
              obtain ⟨r', hparse, hok⟩ :=
                ih r₁.unread.length (by rw [hrest]; omega) (found ++ [a]) (hr₁.scope hr) rfl
              rw [hrest, List.append_assoc] at hparse
              rw [hrest] at hok
              rw [hstep, decodeChunks_of_ok ht hl hd]
              exact ⟨r', hparse, fun h => ⟨hr₁.trans (hok h).1, (hok h).2⟩⟩
        · rw [parse_of_skipped hk hr ht hl, decodeChunks_of_other ht hl]
          have hr₁ := hr.returns rest
          obtain ⟨r', hparse, hok⟩ := ih rest.length (by omega) found (hr₁.scope hr) rfl
          exact ⟨r', hparse, fun h => ⟨hr₁.trans (hok h).1, (hok h).2⟩⟩

theorem parse_of_decodeAllChunks
    (hk : ∀ table, P table → ∀ l, table.find? l parent = if l = label then some k else none)
    (hadds : Parser.Adds parsers P labels label k decode fill) (hr : r.Scope P labels parent)
    {target : τ} (htarget : target = fill []) :
    (∀ as, decodeAllChunks labels label decode r.unread = .ok as → ∃ r',
      r.parse parsers target = ((.ok (), fill as), r') ∧ r.Returns P r') ∧
    (∀ e, decodeAllChunks labels label decode r.unread = .error e → ∃ target' r',
      r.parse parsers target = ((.error e, target'), r')) := by
  obtain ⟨r', hparse, hok⟩ := parse_eq_decodeChunks hk hadds [] hr
  rw [List.nil_append, ← htarget] at hparse
  constructor
  · intro as h
    rw [decodeAllChunks_eq_ok_iff] at h
    rw [h] at hparse hok
    exact ⟨r', hparse, (hok rfl).1⟩
  · intro e h
    rw [decodeAllChunks_eq_error_iff] at h
    rw [h] at hparse
    exact ⟨_, r', hparse⟩

end Reader

end TriggerScript
