import TriggerScript.Proofs.Chunk.Scopes
import TriggerScript.Proofs.ScriptFile.Failures

/-!
# The scopes of script files

The parsers of scripts, clauses and conditions read, register and parse, but leave opening and
closing chunks to the dispatch that calls them. Whatever labels they are registered for, and
wherever in a file they are called, parsing comes back to the scope that it was called in.
-/

namespace TriggerScript

/-- A parser of scripts, clauses or conditions. That of a trace takes any steps that it is given. -/
def ParserName.FillsScripts (k : ParserName) : Prop := k ≠ .trace

/-! ## The parsers -/

section KeepsScope

variable (registry : Registry)

theorem keepsScope_of_refused {k : ParserName} {info : ChunkInfo} {target : Target}
    {c : Cursor ParserName} {allowed : ParserName → Prop} (h : target.kind ≠ k.targetKind)
    (htable : c.Knows allowed) :
    ∃ m, Moment.Reads (scriptParsers registry) ⟨scriptParsers registry k info target, c⟩ m ∧
      m.todo.Ending ∧ m.cursor.spans = c.spans ∧ m.cursor.Knows allowed := by
  rw [scriptParsers_of_kind_ne info h]
  exact ⟨_, .refl _, trivial, rfl, htable⟩

theorem parseCondition_keepsScope (allowed : ParserName → Prop) :
    Parser.KeepsScope (scriptParsers registry) allowed .condition := by
  intro info target c h htable
  cases target with
  | clause clause =>
      have hquiet : (Condition.read registry info.version : Reading ParserName Target _).Quiet :=
        Condition.quiet_read info.version
      obtain ⟨result, c', hreads, hspans, hparsers⟩ :=
        (Condition.read_follows registry info.version).reads hquiet (scriptParsers registry) h
      refine ⟨_, hreads.andThen _, ?_, hspans, htable.of_eq hparsers⟩
      cases result <;> trivial
  | _ => exact keepsScope_of_refused registry nofun htable

theorem parseClause_keepsScope :
    Parser.KeepsScope (scriptParsers registry) ParserName.FillsScripts .clause := by
  intro info target c h htable
  cases target with
  | script script =>
      have hk : ParserName.condition.FillsScripts := nofun
      refine ⟨_, .call rfl (.refl _), fun result target => ?_, rfl, htable.register hk _ _⟩
      cases result <;> exact ⟨_, rfl⟩
  | _ => exact keepsScope_of_refused registry nofun htable

theorem parseScript_keepsScope :
    Parser.KeepsScope (scriptParsers registry) ParserName.FillsScripts .script := by
  intro info target c h htable
  cases target with
  | scripts found =>
      obtain ⟨result, c', hreads, hspans, hparsers⟩ :=
        Script.readHeader_follows.reads Script.quiet_readHeader (scriptParsers registry) h
      have htable' : c'.Knows ParserName.FillsScripts := htable.of_eq hparsers
      have hk : ParserName.clause.FillsScripts := nofun
      cases result with
      | error e => exact ⟨_, hreads.andThen _, trivial, hspans, htable'⟩
      | ok header =>
          refine ⟨_, (hreads.andThen _).trans (.call rfl (.refl _)), fun result target => ?_, hspans,
            htable'.register hk _ _⟩
          cases result <;> exact ⟨_, rfl⟩
  | _ => exact keepsScope_of_refused registry nofun htable

theorem scriptParsers_keepScope {k : ParserName} (hk : k.FillsScripts) :
    Parser.KeepsScope (scriptParsers registry) ParserName.FillsScripts k := by
  cases k with
  | script => exact parseScript_keepsScope registry
  | clause => exact parseClause_keepsScope registry
  | condition => exact parseCondition_keepsScope registry _
  | trace => exact absurd rfl hk

end KeepsScope

/-! ## Cursors that calls lead to -/

namespace Cursor

/-- Where the calls on the reader of a file lead, with the parsers of scripts, clauses and conditions
registered for any labels. These are the calls that dispatch and the parsers make as well. -/
inductive Reachable : Cursor ParserName → Prop
  | opened {file : List UInt8} {r : Reader ParserName} {start : Cursor ParserName}
      (hr : Reader.ofBytes file = .ok r) (hstart : ofBytes file = .ok start) : Reachable start
  | openChunk {c : Cursor ParserName} (h : Reachable c) : Reachable c.openChunk.2
  | closeChunk {c : Cursor ParserName} (h : Reachable c) : Reachable c.closeChunk
  | readByte {c : Cursor ParserName} (h : Reachable c) : Reachable c.readByte.2
  | readInt {c : Cursor ParserName} (h : Reachable c) : Reachable c.readInt.2
  | readReal {c : Cursor ParserName} (h : Reachable c) : Reachable c.readReal.2
  | readText {c : Cursor ParserName} (h : Reachable c) : Reachable c.readText.2
  | register {c : Cursor ParserName} {k : ParserName} (h : Reachable c) (hk : k.FillsScripts)
      (label parent : String) : Reachable (c.register label parent k)
  | parse {c c' : Cursor ParserName} {registry : Registry} {target : Target}
      {out : Except ChunkError Unit × Target} (h : Reachable c)
      (hparse : Moment.Reaches (scriptParsers registry) ⟨Moment.dispatch target, c⟩
        ⟨.done out, c'⟩) : Reachable c'

variable {c : Cursor ParserName}

/-- The invariant: calls keep a cursor sound, and register only parsers that keep to their scope. -/
theorem Reachable.sound_and_knows (h : c.Reachable) :
    c.Sound ∧ c.Knows ParserName.FillsScripts := by
  induction h with
  | @opened file r start hr hstart =>
      obtain ⟨_, hstart', rfl, -, hsound⟩ := ofBytes_of_reader hr
      cases hstart'.symm.trans hstart
      obtain ⟨labels, unread, hreader⟩ := Reader.eq_of_ofBytes hr
      have hparsers : start.parsers = [] := congrArg Reader.parsers hreader
      refine ⟨hsound, fun entry hentry => ?_⟩
      rw [hparsers] at hentry
      cases hentry
  | openChunk h ih => exact ⟨ih.1.openChunk.advances.sound, ih.2.of_eq (openChunk_parsers _)⟩
  | closeChunk h ih => exact ⟨ih.1.closeChunk.advances.sound, ih.2.of_eq (closeChunk_parsers _)⟩
  | readByte h ih =>
      exact ⟨ih.1.readByte.advances.sound, ih.2.of_eq (moves_readWith _ _ _ _).parsers⟩
  | readInt h ih =>
      exact ⟨ih.1.readInt.advances.sound, ih.2.of_eq (moves_readWith _ _ _ _).parsers⟩
  | readReal h ih =>
      exact ⟨ih.1.readReal.advances.sound, ih.2.of_eq (moves_readWith _ _ _ _).parsers⟩
  | readText h ih => exact ⟨ih.1.readText.advances.sound, ih.2.of_eq (moves_readText _).parsers⟩
  | register h hk label parent ih =>
      exact ⟨(ih.1.register label parent _).advances.sound, ih.2.register hk label parent⟩
  | @parse c c' registry target out h hparse ih =>
      obtain ⟨out', c'', hparse', htable, -⟩ :=
        Moment.restores (fun k => scriptParsers_keepScope registry) ih.1 ih.2 target
      obtain ⟨-, rfl⟩ := hparse.done_unique hparse'
      exact ⟨(hparse.leads ih.1).advances.sound, htable⟩

/-- Parsing from wherever calls may lead, for any registry and any target, comes to an end, which is
that of parsing with the reader. When it succeeds, the same chunks are open as before, and the
position is the end of the innermost one, or of the file. When it fails, the chunks that were being
parsed are open inside those that were open before. -/
theorem Reachable.parse_restores_scope {here : Cursor ParserName} (h : here.Reachable)
    (registry : Registry) (target : Target) :
    ∃ out there, here.reader.parse (scriptParsers registry) target = (out, there.reader) ∧
      Moment.Reaches (scriptParsers registry) ⟨Moment.dispatch target, here⟩ ⟨.done out, there⟩ ∧
      here.Restored (scriptParsers registry) target out there := by
  obtain ⟨hsound, htable⟩ := h.sound_and_knows
  obtain ⟨out, there, hparse, -, hrestored⟩ :=
    Moment.restores (fun k => scriptParsers_keepScope registry) hsound htable target
  have houtcome := (hparse.leads hsound).outcome
  exact ⟨out, there, houtcome.symm, hparse, hrestored⟩

/-- At the first clause of a script, with a parser for clauses. -/
def atClause : Cursor ParserName where
  file := orphan
  labels := [(3, "Condition"), (2, "OrCondition"), (1, "Script")]
  parsers := [(("OrCondition", "Script"), .clause)]
  position := 66
  spans := [⟨"Script", 90⟩]

/-- The clause is parsed, and fails in its condition. -/
theorem atClause_chain : ∃ there : Cursor ParserName, atClause.Reachable ∧
    atClause.reader.parse (scriptParsers .empty) (.script (.named "A")) =
      ((.error (.unknownConditionType 5), .script (.named "A")), there.reader) ∧
    there.spans = [⟨"Condition", 90⟩, ⟨"OrCondition", 90⟩] ++ atClause.spans := by
  have hr : Reader.ofBytes orphan = .ok (⟨atClause.labels, [], orphan.drop 49, []⟩ :
      Reader ParserName) := rfl
  have hstart : ofBytes orphan =
      .ok (⟨orphan, atClause.labels, [], 49, []⟩ : Cursor ParserName) := rfl
  have hk : ParserName.clause.FillsScripts := nofun
  have hopened : Reachable { atClause with parsers := [], position := 59 } :=
    (Reachable.opened hr hstart).openChunk
  have hread : Reachable { atClause with parsers := [], position := 66 } :=
    hopened.readText.readText.readByte.readByte.readByte
  have hhere : atClause.Reachable := hread.register hk clauseLabel "Script"
  obtain ⟨out, there, hparse, hreaches, -⟩ :=
    hhere.parse_restores_scope .empty (.script (.named "A"))
  have hdone : Moment.Reaches (scriptParsers .empty)
      ⟨Moment.dispatch (.script (.named "A")), atClause⟩
      ⟨.done (.error (.unknownConditionType 5), .script (.named "A")),
        { atClause with
          parsers := [(("Condition", "OrCondition"), .condition), (("OrCondition", "Script"), .clause)]
          position := 90
          spans := [⟨"Condition", 90⟩, ⟨"OrCondition", 90⟩, ⟨"Script", 90⟩] }⟩ := ⟨4, rfl⟩
  obtain ⟨rfl, rfl⟩ := hreaches.done_unique hdone
  exact ⟨_, hhere, hparse, rfl⟩

end Cursor

end TriggerScript
