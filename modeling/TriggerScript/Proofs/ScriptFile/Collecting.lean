import Mathlib.Data.List.Forall2
import TriggerScript.ScriptFile.Save
import TriggerScript.Proofs.Chunk.LabelTable
import TriggerScript.Proofs.ScriptFile.Loading

/-!
# Collecting the elements of a file

Scripts, clauses and conditions can each be collected from the top-level chunks of a file into a
target that holds some already. Parsing adds one element for each chunk before the first failure,
fully decoded, and leaves everything else in the target alone, whether it fails or not. So files that
are parsed into one target one after the other add their elements in this order.
-/

namespace TriggerScript

/-! ## Clauses at the top level -/

namespace ParserTable

/-- At the top level exactly clauses have a parser, and inside them only that of conditions can be
registered. -/
structure ClausesAtTop (table : ParserTable ParserName) : Prop where
  clause : ∀ l, table.find? l "" = if l = clauseLabel then some .clause else none
  onlyCondition : ∀ l, l ≠ conditionLabel → table.find? l clauseLabel = none

structure InTopClause (table : ParserTable ParserName) : Prop extends ClausesAtTop table where
  condition : table.find? conditionLabel clauseLabel = some .condition

variable {table : ParserTable ParserName}

theorem find?_insert_nil (label : String) (k : ParserName) (l : String) :
    (insert [] label "" k).find? l "" = if l = label then some k else none := by
  simp [find?_insert, find?_nil]

theorem clausesAtTop_insert_nil : ClausesAtTop (insert [] clauseLabel "" .clause) where
  clause := find?_insert_nil clauseLabel .clause
  onlyCondition l _ := by simp [find?_insert, find?_nil, clauseLabel]

theorem ClausesAtTop.insert (h : ClausesAtTop table) :
    InTopClause (table.insert conditionLabel clauseLabel .condition) where
  clause l := by simpa [find?_insert, clauseLabel] using h.clause l
  onlyCondition l hl := by simpa [find?_insert, hl] using h.onlyCondition l hl
  condition := by simp [find?_insert]

theorem InTopClause.find? (h : InTopClause table) (l : String) :
    table.find? l clauseLabel = if l = conditionLabel then some .condition else none := by
  split
  · rename_i hl
    exact hl ▸ h.condition
  · rename_i hl
    exact h.onlyCondition l hl

end ParserTable

/-! ## Collections -/

/-- Elements that are collected from the top-level chunks of a label: the parser of these chunks, how
their content is decoded, and the target that holds given elements. -/
structure Collection (α : Type) where
  label : String
  parser : ParserName
  decode : Registry → LabelTable → UInt16 → List UInt8 → Except ChunkError α
  target : List α → Target

namespace Collection

def scripts : Collection Script where
  label := scriptLabel
  parser := .script
  decode registry labels _ := decodeScript registry labels
  target := .scripts

/-- The clauses of a script whose other fields are those of `s`. -/
def clausesOf (s : Script) : Collection Clause where
  label := clauseLabel
  parser := .clause
  decode registry labels _ := decodeClause registry labels
  target found := .script { s with trigger := ⟨found⟩ }

def conditions : Collection Condition where
  label := conditionLabel
  parser := .condition
  decode registry _ := decodeCondition registry
  target found := .clause ⟨found⟩

/-- The collections that script files have parsers for. -/
inductive Standard : {α : Type} → Collection α → Prop
  | scripts : Standard scripts
  | clausesOf (s : Script) : Standard (clausesOf s)
  | conditions : Standard conditions

variable {α : Type} {c : Collection α} {registry : Registry} {bytes : List UInt8}

/-- Once its parser is registered, and whatever further parsers are registered while it runs, a
standard collection is parsed as it is decoded. -/
theorem Standard.adds (hc : c.Standard) (registry : Registry) (labels : LabelTable) :
    ∃ P : ParserTable ParserName → Prop, P (ParserTable.insert [] c.label "" c.parser) ∧
      (∀ table, P table → ∀ l, table.find? l "" = if l = c.label then some c.parser else none) ∧
      Parser.Adds (scriptParsers registry) P labels c.label c.parser (c.decode registry labels)
        c.target := by
  cases hc with
  | scripts =>
      exact ⟨ParserTable.AtTop, ParserTable.atTop_insert_nil, fun _ h => h.script,
        parseScript_adds registry labels⟩
  | clausesOf s =>
      exact ⟨ParserTable.ClausesAtTop, ParserTable.clausesAtTop_insert_nil, fun _ h => h.clause,
        parseClause_adds registry labels s (fun _ => ParserTable.ClausesAtTop.insert)
          (fun _ h => h.toClausesAtTop) fun _ => ParserTable.InTopClause.find?⟩
  | conditions =>
      exact ⟨fun table => ∀ l, table.find? l "" = if l = conditionLabel then some .condition else none,
        ParserTable.find?_insert_nil conditionLabel .condition, fun _ h => h,
        parseCondition_adds registry labels _⟩

/-! ## Parsing into a target -/

/-- Opens a file, registers the parser of the collection at the top level and parses into a target:
what has come of it, and the target as it is left. -/
def parse (c : Collection α) (registry : Registry) (target : Target) (bytes : List UInt8) :
    Except ChunkError (Except ChunkError Unit × Target) := do
  let r ← Reader.ofBytes bytes
  return ((r.register c.label "" c.parser).parse (scriptParsers registry) target).1

theorem parse_of_ofBytes (hc : c.Standard) {r : Reader ParserName}
    (hopen : Reader.ofBytes bytes = .ok r) (old : List α) :
    c.parse registry (c.target old) bytes =
      .ok ((decodeChunks r.labels c.label (c.decode registry r.labels) r.unread).2,
        c.target (old ++ (decodeChunks r.labels c.label (c.decode registry r.labels) r.unread).1)) := by
  obtain ⟨labels, unread, rfl⟩ := Reader.eq_of_ofBytes hopen
  obtain ⟨P, hstart, hfind, hadds⟩ := hc.adds registry labels
  obtain ⟨r', hrun, -⟩ := Reader.parse_eq_decodeChunks hfind hadds old
    (r := ⟨labels, ParserTable.insert [] c.label "" c.parser, unread, []⟩) ⟨rfl, rfl, hstart⟩
  rw [parse, hopen]
  exact congrArg (fun out => Except.ok out.1) hrun

theorem parse_of_stopsAt (hc : c.Standard) {r : Reader ParserName}
    (hopen : Reader.ofBytes bytes = .ok r) (old : List α) {before : List Chunk} {rest : List UInt8}
    {found : List α} {result : Except ChunkError Unit}
    (hahead : ChunksAhead r.labels before r.unread rest)
    (hheld : Holding c.label (c.decode registry r.labels) before found)
    (hstop : StopsAt r.labels c.label (c.decode registry r.labels) rest result) :
    c.parse registry (c.target old) bytes = .ok (result, c.target (old ++ found)) := by
  rw [parse_of_ofBytes hc hopen, decodeChunks_eq_iff.2 ⟨before, rest, hahead, hheld, hstop⟩]

/-- Opens a file and adds all of its elements to a target, or fails. -/
def collect (c : Collection α) (registry : Registry) (target : Target) (bytes : List UInt8) :
    Except ChunkError Target := do
  match ← c.parse registry target bytes with
  | (.ok (), target) => return target
  | (.error e, _) => throw e

/-- A file that can be opened, and all of its chunks, of which those of the label hold the given
elements. -/
def Has (c : Collection α) (registry : Registry) (bytes : List UInt8) (found : List α) : Prop :=
  ∃ (r : Reader ParserName) (chunks : List Chunk), Reader.ofBytes bytes = .ok r ∧
    ChunksAhead r.labels chunks r.unread [] ∧ Holding c.label (c.decode registry r.labels) chunks found

theorem has_iff {r : Reader ParserName} (hopen : Reader.ofBytes bytes = .ok r) {found : List α} :
    c.Has registry bytes found ↔
      decodeChunks r.labels c.label (c.decode registry r.labels) r.unread = (found, .ok ()) := by
  rw [decodeChunks_eq_iff]
  constructor
  · rintro ⟨r', chunks, hopen', hahead, hheld⟩
    cases hopen.symm.trans hopen'
    exact ⟨chunks, [], hahead, hheld, rfl⟩
  · rintro ⟨chunks, rest, hahead, hheld, hstop⟩
    obtain rfl : rest = [] := hstop
    exact ⟨r, chunks, hopen, hahead, hheld⟩

theorem collect_eq_ok_iff (hc : c.Standard) {old : List α} {target : Target} :
    c.collect registry (c.target old) bytes = .ok target ↔
      ∃ found, c.Has registry bytes found ∧ target = c.target (old ++ found) := by
  cases hopen : (Reader.ofBytes bytes : Except ChunkError (Reader ParserName)) with
  | error e =>
      have hparse : c.parse registry (c.target old) bytes = .error e := by
        rw [parse, hopen]
        rfl
      rw [collect, hparse]
      constructor
      · intro h
        cases h
      · rintro ⟨found, ⟨r, -, hopen', -⟩, -⟩
        cases hopen.symm.trans hopen'
  | ok r =>
      simp only [collect, parse_of_ofBytes hc hopen, has_iff hopen, except_ok_bind]
      rcases decodeChunks r.labels c.label (c.decode registry r.labels) r.unread with
        ⟨found, e | ⟨⟩⟩
      · simp [throw, throwThe, MonadExceptOf.throw]
      · simp [pure, Except.pure, eq_comm]

theorem foldlM_collect_eq_ok_iff (hc : c.Standard) {files : List (List UInt8)} {old : List α}
    {target : Target} :
    files.foldlM (c.collect registry) (c.target old) = .ok target ↔
      ∃ founds, List.Forall₂ (c.Has registry) files founds ∧
        target = c.target (old ++ founds.flatten) := by
  induction files generalizing old with
  | nil =>
      simp [pure, Except.pure, eq_comm]
  | cons bytes files ih =>
      rw [List.foldlM_cons, except_bind_eq_ok_iff]
      constructor
      · rintro ⟨_, hfirst, hrest⟩
        obtain ⟨found, hfound, rfl⟩ := (collect_eq_ok_iff hc).1 hfirst
        obtain ⟨founds, hfounds, rfl⟩ := ih.1 hrest
        exact ⟨found :: founds, .cons hfound hfounds, by simp⟩
      · rintro ⟨_, hall, rfl⟩
        cases hall with
        | cons hfound hfounds =>
            refine ⟨_, (collect_eq_ok_iff hc).2 ⟨_, hfound, rfl⟩, ih.2 ⟨_, hfounds, ?_⟩⟩
            simp

/-- Parsing leaves nothing behind of a chunk that fails. Of a file that can be opened, the target
gains one element for each chunk of the label before the first failure, decoded from its content,
and keeps all else; without a failure these are all chunks of the label. Files parsed into one
target, none of which fails, add their elements in the order of the files. -/
theorem parse_adds_before_failure (hc : c.Standard) (registry : Registry) :
    (∀ bytes (r : Reader ParserName) old, Reader.ofBytes bytes = .ok r →
      ∃ result found before rest,
        c.parse registry (c.target old) bytes = .ok (result, c.target (old ++ found)) ∧
        ChunksAhead r.labels before r.unread rest ∧
        Holding c.label (c.decode registry r.labels) before found ∧
        StopsAt r.labels c.label (c.decode registry r.labels) rest result) ∧
    ∀ (files : List (List UInt8)) old target,
      files.foldlM (c.collect registry) (c.target old) = .ok target ↔
        ∃ founds, List.Forall₂ (c.Has registry) files founds ∧
          target = c.target (old ++ founds.flatten) := by
  refine ⟨fun bytes r old hopen => ?_, fun files old target => foldlM_collect_eq_ok_iff hc⟩
  have hfound : decodeChunks r.labels c.label (c.decode registry r.labels) r.unread = (_, _) := rfl
  obtain ⟨before, rest, hahead, hheld, hstop⟩ := decodeChunks_eq_iff.1 hfound
  exact ⟨_, _, before, rest, parse_of_stopsAt hc hopen old hahead hheld hstop, hahead, hheld, hstop⟩

end Collection

namespace Collection.Gathered

def registry : Registry := .ofList [⟨3, "T", [.int]⟩]

def condition (n : Int32) : Condition := ⟨3, [.ofInt .int n], false, 0, 0⟩

/-- A condition after a chunk that is skipped. -/
def file : List UInt8 :=
  writeFile (chunkEvents "Note" 1 [.int 7] ++ (condition 5).events registry)

/-- A condition of an unknown type between two others. -/
def broken : List UInt8 :=
  writeFile ((condition 5).events registry
    ++ { condition 6 with type := 9 }.events registry ++ (condition 7).events registry)

theorem has_file : conditions.Has registry file [condition 5] :=
  ⟨_, [⟨"Note", 1, _⟩, ⟨conditionLabel, 4, _⟩], ofBytes_writeFile (by decide),
    .cons rfl (.cons rfl (.nil [])), rfl⟩

/-- Two files are collected one after the other. Of the broken one only the first condition is. -/
theorem collected_before_failure :
    [file, file].foldlM (conditions.collect registry) (.clause ⟨[condition 4]⟩) =
        .ok (.clause ⟨[condition 4, condition 5, condition 5]⟩) ∧
      conditions.parse registry (.clause ⟨[condition 4]⟩) broken =
        .ok (.error (.unknownConditionType 9), .clause ⟨[condition 4, condition 5]⟩) := by
  obtain ⟨hbefore, hfiles⟩ := parse_adds_before_failure .conditions registry
  refine ⟨(hfiles [file, file] [condition 4] _).2
    ⟨[[condition 5], [condition 5]], .cons has_file (.cons has_file .nil), rfl⟩, ?_⟩
  have hopen : Reader.ofBytes broken = .ok (_ : Reader ParserName) := ofBytes_writeFile (by decide)
  obtain ⟨result, found, before, rest, hparse, hahead, hheld, hstop⟩ :=
    hbefore broken _ [condition 4] hopen
  have hend : (found, result) = ([condition 5], .error (.unknownConditionType 9)) := by
    rw [← decodeChunks_eq_iff.2 ⟨before, rest, hahead, hheld, hstop⟩]
    refine decodeChunks_eq_iff.2 ⟨_, _, .cons rfl (.nil _), (?_ : Holding _ _ _ [condition 5]),
      nofun, .inr ⟨_, _, rfl, rfl, rfl⟩⟩
    exact rfl
  cases hend
  exact hparse

end Collection.Gathered

end TriggerScript
