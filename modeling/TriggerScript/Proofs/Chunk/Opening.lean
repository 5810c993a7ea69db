import TriggerScript.Proofs.Chunk.Cursor

/-!
# Opening a file

A file can be opened exactly when it begins with a whole table: the magic, a count and as many
entries, none when the count is negative. The count of a file can be anything. Entries are read one
by one, each takes five bytes at least, and reading ends with the first that is not all there, so
the size of the file bounds the work and not its count.
-/

namespace TriggerScript

open LittleEndian

/-! ## Entries -/

/-- An entry of a table, with a name that one byte can tell the length of. -/
structure LabelItem where
  name : List UInt8
  id : UInt32
  length_le : name.length ≤ 255

namespace LabelItem

def label (item : LabelItem) : String := Latin1.decode item.name

def entry (item : LabelItem) : UInt32 × String := (item.id, item.label)

def bytes (item : LabelItem) : List UInt8 :=
  [UInt8.ofNat item.name.length] ++ (item.name ++ ofUInt32 item.id)

theorem toNat_length (item : LabelItem) :
    (UInt8.ofNat item.name.length).toNat = item.name.length := by
  have := item.length_le
  rw [UInt8.toNat_ofNat']
  omega

end LabelItem

namespace LabelTable

variable {bytes rest : List UInt8} {table : LabelTable} {entry : UInt32 × String}

theorem takeItem?_bytes (item : LabelItem) (rest : List UInt8) :
    takeItem? (item.bytes ++ rest) = some (item.entry, rest) := by
  simp only [takeItem?, LabelItem.bytes, List.append_assoc, takeByte?_append, Option.bind_eq_bind,
    Option.bind_some, takeBytes?_append _ item.toNat_length.symm, takeUInt32?_append]
  rfl

theorem takeItem?_eq_some_iff :
    takeItem? bytes = some (entry, rest) ↔
      ∃ item : LabelItem, item.entry = entry ∧ bytes = item.bytes ++ rest := by
  constructor
  · intro h
    simp only [takeItem?, Option.bind_eq_bind, Option.bind_eq_some_iff, Prod.exists] at h
    obtain ⟨length, r₁, hlength, name, r₂, hname, id, r₃, hid, h⟩ := h
    cases h
    obtain ⟨rfl, hlen⟩ := takeBytes?_eq_some_iff.1 hname
    have hle : name.length ≤ 255 := by
      have := length.toNat_lt
      omega
    refine ⟨⟨name, id, hle⟩, rfl, ?_⟩
    rw [takeByte?_eq_some_iff.1 hlength, takeUInt32?_eq_some_iff.1 hid, LabelItem.bytes, hlen,
      UInt8.ofNat_toNat, List.append_assoc, List.append_assoc]
  · rintro ⟨item, rfl, rfl⟩
    exact takeItem?_bytes item rest

end LabelTable

/-! ## Reading entries one by one -/

/-- A moment in the reading of a table: how many entries are due, those that have been read, the
last one first, and the bytes ahead. -/
structure TableScan where
  due : Nat
  read : LabelTable
  ahead : List UInt8

namespace TableScan

open LabelTable

/-- From one moment to a later one. Each step reads an entry that is due and all there. -/
inductive Leads : TableScan → TableScan → Prop
  | stay (s : TableScan) : Leads s s
  | item {due : Nat} {read : LabelTable} {ahead rest : List UInt8} {entry : UInt32 × String}
      {s : TableScan} : takeItem? ahead = some (entry, rest) → Leads ⟨due, entry :: read, rest⟩ s →
      Leads ⟨due + 1, read, ahead⟩ s

/-- An entry is due and is not all there. -/
def Stuck (s : TableScan) : Prop := s.due ≠ 0 ∧ takeItem? s.ahead = none

variable {s s' : TableScan} {due : Nat} {read read' : LabelTable} {ahead rest : List UInt8}

/-- What a run keeps: an entry that has been read has taken five bytes at least. -/
theorem Leads.five_mul_read_le (h : Leads s s') :
    5 * s'.read.length + s'.ahead.length ≤ 5 * s.read.length + s.ahead.length := by
  induction h with
  | stay s => exact Nat.le_refl _
  | item hitem _ ih =>
      have hlen := length_of_takeItem? hitem
      rw [List.length_cons] at ih
      refine Nat.le_trans ih ?_
      simp only
      omega

/-- The entries that are read on the way are at the front of the bytes, one after the other. -/
theorem leads_iff :
    Leads ⟨due, read, ahead⟩ s ↔ ∃ items : List LabelItem, items.length + s.due = due ∧
      (items.map LabelItem.entry).reverse ++ read = s.read ∧
      ahead = items.flatMap LabelItem.bytes ++ s.ahead := by
  constructor
  · intro h
    generalize hstart : (⟨due, read, ahead⟩ : TableScan) = start at h
    induction h generalizing due read ahead with
    | stay s =>
        subst hstart
        exact ⟨[], by simp, rfl, rfl⟩
    | item hitem _ ih =>
        cases hstart
        obtain ⟨item, rfl, rfl⟩ := takeItem?_eq_some_iff.1 hitem
        obtain ⟨items, hdue, hread, rfl⟩ := ih rfl
        refine ⟨item :: items, ?_, ?_, ?_⟩
        · rw [List.length_cons]
          omega
        · rw [← hread, List.map_cons, List.reverse_cons, List.append_assoc, List.singleton_append]
        · rw [List.flatMap_cons, List.append_assoc]
  · rintro ⟨items, rfl, hread, rfl⟩
    induction items generalizing read with
    | nil =>
        cases s
        cases hread
        simpa using Leads.stay _
    | cons item items ih =>
        have hstep : (items.map LabelItem.entry).reverse ++ item.entry :: read = s.read := by
          rw [← hread, List.map_cons, List.reverse_cons, List.append_assoc, List.singleton_append]
        rw [List.flatMap_cons, List.append_assoc, List.length_cons, Nat.add_right_comm]
        exact .item (takeItem?_bytes item _) (ih hstep)

/-! ## The end of reading -/

/-- Entries are taken when reading comes to a moment at which none is due. -/
theorem takeEntries?_eq_some_iff :
    takeEntries? due read ahead = some (read', rest) ↔
      Leads ⟨due, read, ahead⟩ ⟨0, read', rest⟩ := by
  induction due generalizing read ahead with
  | zero =>
      rw [takeEntries?]
      constructor
      · intro h
        cases h
        exact .stay _
      · intro h
        cases h
        rfl
  | succ due ih =>
      rw [takeEntries?]
      split
      · rename_i entry mid hitem
        rw [ih]
        constructor
        · exact .item hitem
        · intro h
          cases h with
          | item hitem' hrest =>
              cases hitem.symm.trans hitem'
              exact hrest
      · rename_i hitem
        constructor
        · intro h
          cases h
        · intro h
          cases h with
          | item hitem' _ => cases hitem.symm.trans hitem'

/-- Entries are not taken when reading comes to a moment at which it is stuck. -/
theorem takeEntries?_eq_none_iff :
    takeEntries? due read ahead = none ↔ ∃ s, Leads ⟨due, read, ahead⟩ s ∧ s.Stuck := by
  induction due generalizing read ahead with
  | zero =>
      refine ⟨nofun, ?_⟩
      rintro ⟨s, h, hstuck⟩
      cases h
      exact absurd rfl hstuck.1
  | succ due ih =>
      rw [takeEntries?]
      split
      · rename_i entry mid hitem
        rw [ih]
        constructor
        · rintro ⟨s, h, hstuck⟩
          exact ⟨s, .item hitem h, hstuck⟩
        · rintro ⟨s, h, hstuck⟩
          cases h with
          | stay => cases hitem.symm.trans hstuck.2
          | item hitem' hrest =>
              cases hitem.symm.trans hitem'
              exact ⟨s, hrest, hstuck⟩
      · rename_i hitem
        exact ⟨fun _ => ⟨_, .stay _, Nat.succ_ne_zero due, hitem⟩, fun _ => rfl⟩

end TableScan

/-! ## Labels -/

/-- The last entry with an identifier has this label. -/
def LastLabel (items : List LabelItem) (id : UInt32) (label : String) : Prop :=
  ∃ before item after, items = before ++ item :: after ∧ item.id = id ∧ item.label = label ∧
    ∀ later ∈ after, later.id ≠ id

namespace LabelTable

variable {items : List LabelItem} {id : UInt32}

theorem label?_eq_some_iff {label : String} :
    label? (items.map LabelItem.entry).reverse id = some label ↔ LastLabel items id label := by
  rw [label?, List.lookup_eq_some_iff]
  constructor
  · rintro ⟨front, back, hsplit, hfront⟩
    have hmap : items.map LabelItem.entry = back.reverse ++ (id, label) :: front.reverse := by
      rw [← List.reverse_reverse (items.map LabelItem.entry), hsplit, List.reverse_append,
        List.reverse_cons, List.append_assoc, List.singleton_append]
    obtain ⟨before, tail, rfl, -, htail⟩ := List.map_eq_append_iff.1 hmap
    obtain ⟨item, after, rfl, hentry, hafter⟩ := List.map_eq_cons_iff.1 htail
    cases hentry
    refine ⟨before, item, after, rfl, rfl, rfl, fun later hlater => ?_⟩
    have hmem : later.entry ∈ front := by
      rw [← List.mem_reverse, ← hafter]
      exact List.mem_map_of_mem hlater
    exact (bne_iff_ne.1 (hfront _ hmem)).symm
  · rintro ⟨before, item, after, rfl, rfl, rfl, hlater⟩
    refine ⟨(after.map LabelItem.entry).reverse, (before.map LabelItem.entry).reverse, ?_, ?_⟩
    · rw [List.map_append, List.map_cons, List.reverse_append, List.reverse_cons,
        List.append_assoc, List.singleton_append]
      rfl
    · intro entry hentry
      obtain ⟨later, hmem, rfl⟩ := List.mem_map.1 (List.mem_reverse.1 hentry)
      exact bne_iff_ne.2 (hlater later hmem).symm

theorem label?_eq_none_iff :
    label? (items.map LabelItem.entry).reverse id = none ↔ ∀ item ∈ items, item.id ≠ id := by
  rw [label?, List.lookup_eq_none_iff]
  simp only [List.mem_reverse, List.forall_mem_map, bne_iff_ne]
  exact forall₂_congr fun item _ => ne_comm

end LabelTable

/-! ## Files -/

/-- A file that begins with a whole table: these entries are in it, and this comes after it. -/
inductive BeginsWithTable : List UInt8 → List LabelItem → List UInt8 → Prop
  | intro (count : Int32) {items : List LabelItem} {rest : List UInt8} :
      (items.length : Int) = max count.toInt 0 →
      BeginsWithTable (magic ++ (ofInt32 count ++ (items.flatMap LabelItem.bytes ++ rest))) items rest

/-- The moments in the reading of the table of a file. -/
inductive Opening : List UInt8 → TableScan → Prop
  | intro (count : Int32) {ahead : List UInt8} {s : TableScan} :
      TableScan.Leads ⟨count.toInt.toNat, [], ahead⟩ s →
      Opening (magic ++ (ofInt32 count ++ ahead)) s

variable {κ : Type} {bytes rest : List UInt8} {items : List LabelItem} {s : TableScan}

theorem length_magic : magic.length = 4 := rfl

theorem Opening.length_read_le (h : Opening bytes s) : s.read.length ≤ (bytes.length - 8) / 5 := by
  obtain ⟨count, hleads⟩ := h
  have hkept := hleads.five_mul_read_le
  simp only [List.length_nil, List.length_append, length_ofInt32, length_magic] at hkept ⊢
  omega

theorem BeginsWithTable.opening (h : BeginsWithTable bytes items rest) :
    Opening bytes ⟨0, (items.map LabelItem.entry).reverse, rest⟩ := by
  obtain ⟨count, hcount⟩ := h
  have hdue : items.length + 0 = count.toInt.toNat := by omega
  exact .intro count (TableScan.leads_iff.2 ⟨items, hdue, List.append_nil _, rfl⟩)

theorem Opening.beginsWithTable (h : Opening bytes s) (hdue : s.due = 0) :
    ∃ items, BeginsWithTable bytes items s.ahead := by
  obtain ⟨count, hleads⟩ := h
  obtain ⟨items, hcount, -, rfl⟩ := TableScan.leads_iff.1 hleads
  exact ⟨items, .intro count (by omega)⟩

/-- With the magic in front, the count is missing, or reading comes to an end one way or the
other. -/
theorem opening_cases (h : magic <+: bytes) :
    bytes.length < 8 ∨ (∃ s, Opening bytes s ∧ s.due = 0) ∨ ∃ s, Opening bytes s ∧ s.Stuck := by
  obtain ⟨tail, rfl⟩ := h
  refine (Nat.lt_or_ge _ _).imp_right fun hlen => ?_
  have htail : 4 ≤ tail.length := by
    rw [List.length_append, length_magic] at hlen
    omega
  obtain ⟨count, ahead, rfl⟩ := fixedWidth_int32.exists_append htail
  cases ht : LabelTable.takeEntries? count.toInt.toNat [] ahead with
  | none =>
      obtain ⟨s, hleads, hstuck⟩ := TableScan.takeEntries?_eq_none_iff.1 ht
      exact .inr ⟨s, .intro count hleads, hstuck⟩
  | some out => exact .inl ⟨_, .intro count (TableScan.takeEntries?_eq_some_iff.1 ht), rfl⟩

namespace LabelTable

theorem take?_append_int (count : Int32) (ahead : List UInt8) :
    take? (ofInt32 count ++ ahead) = takeEntries? count.toInt.toNat [] ahead := by
  rw [take?, takeInt32?_append]
  rfl

theorem take?_of_short (h : bytes.length < 4) : take? bytes = none := by
  rw [take?, fixedWidth_int32.eq_none h]
  rfl

end LabelTable

namespace Reader

theorem ofBytes_without_magic (h : ¬ magic <+: bytes) :
    (ofBytes bytes : Except ChunkError (Reader κ)) = .error .badMagic := by
  rw [ofBytes_eq, if_neg (by rwa [List.isPrefixOf_iff_prefix])]

theorem ofBytes_of_table {tail unread : List UInt8} {labels : LabelTable}
    (h : LabelTable.take? tail = some (labels, unread)) :
    ofBytes (magic ++ tail) = .ok (⟨labels, [], unread, []⟩ : Reader κ) := by
  rw [ofBytes_eq, if_pos (List.isPrefixOf_iff_prefix.2 (List.prefix_append _ _)),
    List.drop_left, h]

theorem ofBytes_of_no_table {tail : List UInt8} (h : LabelTable.take? tail = none) :
    (ofBytes (magic ++ tail) : Except ChunkError (Reader κ)) = .error (.malformed .labelTable) := by
  rw [ofBytes_eq, if_pos (List.isPrefixOf_iff_prefix.2 (List.prefix_append _ _)),
    List.drop_left, h]

theorem ofBytes_of_short (h : magic <+: bytes) (hlen : bytes.length < 8) :
    (ofBytes bytes : Except ChunkError (Reader κ)) = .error (.malformed .labelTable) := by
  obtain ⟨tail, rfl⟩ := h
  rw [List.length_append, length_magic] at hlen
  exact ofBytes_of_no_table (LabelTable.take?_of_short (by omega))

theorem ofBytes_of_stuck (h : Opening bytes s) (hstuck : s.Stuck) :
    (ofBytes bytes : Except ChunkError (Reader κ)) = .error (.malformed .labelTable) := by
  obtain ⟨count, hleads⟩ := h
  apply ofBytes_of_no_table
  rw [LabelTable.take?_append_int, TableScan.takeEntries?_eq_none_iff]
  exact ⟨s, hleads, hstuck⟩

theorem ofBytes_of_opening (h : Opening bytes s) (hdue : s.due = 0) :
    ofBytes bytes = .ok (⟨s.read, [], s.ahead, []⟩ : Reader κ) := by
  obtain ⟨count, hleads⟩ := h
  obtain ⟨_, read, ahead⟩ := s
  cases hdue
  apply ofBytes_of_table
  rw [LabelTable.take?_append_int, TableScan.takeEntries?_eq_some_iff]
  exact hleads

theorem ofBytes_eq_error_iff {e : ChunkError} :
    (ofBytes bytes : Except ChunkError (Reader κ)) = .error e ↔
      ¬ magic <+: bytes ∧ e = .badMagic ∨
      magic <+: bytes ∧ (bytes.length < 8 ∨ ∃ s, Opening bytes s ∧ s.Stuck) ∧
        e = .malformed .labelTable := by
  constructor
  · intro h
    by_cases hmagic : magic <+: bytes
    · right
      obtain hlen | ⟨s, hs, hdue⟩ | ⟨s, hs, hstuck⟩ := opening_cases hmagic
      · cases (ofBytes_of_short hmagic hlen).symm.trans h
        exact ⟨hmagic, .inl hlen, rfl⟩
      · cases (ofBytes_of_opening hs hdue).symm.trans h
      · cases (ofBytes_of_stuck hs hstuck).symm.trans h
        exact ⟨hmagic, .inr ⟨s, hs, hstuck⟩, rfl⟩
    · cases (ofBytes_without_magic hmagic).symm.trans h
      exact .inl ⟨hmagic, rfl⟩
  · rintro (⟨hmagic, rfl⟩ | ⟨hmagic, hlen | ⟨s, hs, hstuck⟩, rfl⟩)
    · exact ofBytes_without_magic hmagic
    · exact ofBytes_of_short hmagic hlen
    · exact ofBytes_of_stuck hs hstuck

end Reader

/-- What is opened of a file that begins with a table, by a reader and by a cursor: both are at the
first byte after the table, and each identifier has the label of its last entry. -/
structure OpenedAt (items : List LabelItem) (rest : List UInt8) (r : Reader κ) (start : Cursor κ) :
    Prop where
  unread : r.unread = rest
  chunks : r.chunks = []
  mirrored : start.reader = r
  position : start.position = 8 + (items.flatMap LabelItem.bytes).length
  known : ∀ id label, r.labels.label? id = some label ↔ LastLabel items id label
  unknown : ∀ id, r.labels.label? id = none ↔ ∀ item ∈ items, item.id ≠ id

theorem BeginsWithTable.length_eq (h : BeginsWithTable bytes items rest) :
    bytes.length = 8 + (items.flatMap LabelItem.bytes).length + rest.length := by
  obtain ⟨count, -⟩ := h
  simp only [List.length_append, length_ofInt32, length_magic]
  omega

theorem BeginsWithTable.opened (h : BeginsWithTable bytes items rest) :
    ∃ (r : Reader κ) (start : Cursor κ), Reader.ofBytes bytes = .ok r ∧
      Cursor.ofBytes bytes = .ok start ∧ OpenedAt items rest r start := by
  have hr : Reader.ofBytes bytes =
      .ok (⟨(items.map LabelItem.entry).reverse, [], rest, []⟩ : Reader κ) :=
    Reader.ofBytes_of_opening h.opening rfl
  obtain ⟨start, hstart, hreader, rfl, hsound⟩ := Cursor.ofBytes_of_reader hr
  refine ⟨_, start, hr, hstart, rfl, rfl, hreader, ?_, fun _ _ => LabelTable.label?_eq_some_iff,
    fun _ => LabelTable.label?_eq_none_iff⟩
  -- a sound cursor is as far from the end of the file as its reader has bytes left
  have hleft := hsound.remaining_reader
  have hlen := h.length_eq
  have hin := Nat.le_trans hsound.inScope hsound.scopeEnd_le
  rw [hreader, Reader.remaining, List.flatMap_nil, List.length_nil] at hleft
  simp only at hleft
  omega

/-- A file is opened exactly when it begins with a whole table. Without the magic it is no chunk
file, and in all other cases the count is missing or an entry that is due is not all there. Whatever
the count, no more entries are read than have room in the file. -/
theorem ofBytes_accepts_tables (bytes : List UInt8) :
    ((∃ r : Reader κ, Reader.ofBytes bytes = .ok r) ↔
        ∃ items rest, BeginsWithTable bytes items rest) ∧
    (∀ items rest, BeginsWithTable bytes items rest →
      ∃ (r : Reader κ) (start : Cursor κ), Reader.ofBytes bytes = .ok r ∧
        Cursor.ofBytes bytes = .ok start ∧ OpenedAt items rest r start) ∧
    (∀ e, (Reader.ofBytes bytes : Except ChunkError (Reader κ)) = .error e ↔
      ¬ magic <+: bytes ∧ e = .badMagic ∨
      magic <+: bytes ∧ (bytes.length < 8 ∨ ∃ s, Opening bytes s ∧ s.Stuck) ∧
        e = .malformed .labelTable) ∧
    ∀ s, Opening bytes s → s.read.length ≤ (bytes.length - 8) / 5 := by
  refine ⟨⟨?_, ?_⟩, fun _ _ h => h.opened, fun _ => Reader.ofBytes_eq_error_iff,
    fun _ h => h.length_read_le⟩
  · rintro ⟨r, hr⟩
    have hok (e : ChunkError) :
        (Reader.ofBytes bytes : Except ChunkError (Reader κ)) ≠ .error e := by
      rw [hr]
      exact nofun
    by_cases hmagic : magic <+: bytes
    · obtain hlen | ⟨s, hs, hdue⟩ | ⟨s, hs, hstuck⟩ := opening_cases hmagic
      · exact absurd (Reader.ofBytes_of_short hmagic hlen) (hok _)
      · obtain ⟨items, h⟩ := hs.beginsWithTable hdue
        exact ⟨items, _, h⟩
      · exact absurd (Reader.ofBytes_of_stuck hs hstuck) (hok _)
    · exact absurd (Reader.ofBytes_without_magic hmagic) (hok _)
  · rintro ⟨items, rest, h⟩
    exact ⟨_, Reader.ofBytes_of_opening h.opening rfl⟩

/-- Two entries with one identifier. -/
def relabelled : List LabelItem := [⟨[65], 7, by decide⟩, ⟨[66], 7, by decide⟩]

/-- The later entry has the label. When its last byte is missing, the file cannot be opened. -/
theorem relabelled_opened :
    BeginsWithTable (magic ++ (ofInt32 2 ++ [1, 65, 7, 0, 0, 0, 1, 66, 7, 0, 0, 0])) relabelled [] ∧
      (∃ r : Reader Unit,
        Reader.ofBytes (magic ++ (ofInt32 2 ++ [1, 65, 7, 0, 0, 0, 1, 66, 7, 0, 0, 0])) = .ok r ∧
          r.labels.label? 7 = some "B") ∧
      (Reader.ofBytes (magic ++ (ofInt32 2 ++ [1, 65, 7, 0, 0, 0, 1, 66, 7, 0, 0])) :
        Except ChunkError (Reader Unit)) = .error (.malformed .labelTable) := by
  have h : BeginsWithTable
      (magic ++ (ofInt32 2 ++ (relabelled.flatMap LabelItem.bytes ++ []))) relabelled [] :=
    .intro 2 rfl
  have hlast : LastLabel relabelled 7 "B" :=
    ⟨[⟨[65], 7, by decide⟩], ⟨[66], 7, by decide⟩, [], rfl, rfl, rfl, nofun⟩
  have hfirst : TableScan.Leads ⟨2, [], [1, 65, 7, 0, 0, 0, 1, 66, 7, 0, 0]⟩
      ⟨1, [(7, "A")], [1, 66, 7, 0, 0]⟩ := .item rfl (.stay _)
  refine ⟨h, ?_, ((ofBytes_accepts_tables _).2.2.1 _).2 (.inr ⟨List.prefix_append _ _, ?_, rfl⟩)⟩
  · obtain ⟨r, start, hr, -, hopened⟩ := (ofBytes_accepts_tables _).2.1 _ _ h
    exact ⟨r, hr, (hopened.known 7 "B").2 hlast⟩
  · exact .inr ⟨_, .intro 2 hfirst, nofun, rfl⟩

end TriggerScript
