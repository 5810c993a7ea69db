import TriggerScript.Proofs.Chunk.Content
import TriggerScript.Proofs.Chunk.Dispatch

/-!
# Dispatch as a walk

Parsers that record the chunk they are given and parse the chunks inside it make dispatch a walk
over the chunks of a file. It meets, in the order of their headers, the chunks that have a parser and
are inside chunks that all have one: skipping a chunk skips what is inside it, and a parser that
comes to the end of its chunk goes back to the chunk after it.
-/

namespace TriggerScript

variable {κ : Type}

/-! ## Chunks in their order -/

/-- The label of the innermost of some chunks around one another, empty when there is none. -/
def innermost : List String → String
  | [] => ""
  | label :: _ => label

/-- A chunk somewhere in a content, with the labels of the chunks around it, the innermost first. -/
structure Node where
  label : String
  version : UInt16
  size : Nat
  around : List String
  deriving DecidableEq

namespace Node

def parent (n : Node) : String := innermost n.around

def info (n : Node) : ChunkInfo := ⟨n.label, n.parent, n.version, n.size⟩

end Node

/-- The chunks of a content that is inside chunks with the given labels, each before those inside
it. -/
def Content.preorder (around : List String) : Content → List Node
  | nil => []
  | data _ rest => rest.preorder around
  | chunk label version inside rest =>
    ⟨label, version, inside.size, around⟩ ::
      (inside.preorder (label :: around) ++ rest.preorder around)

/-! ## Chunks that are reached -/

/-- A way to look up parsers by a label and the label of the chunk around it. -/
abbrev ParserLookup (κ : Type) := String → String → Option κ

/-- Each of some chunks around one another has a parser. The labels are given from the inside. -/
def ParserLookup.reaches (lookup : ParserLookup κ) : List String → Bool
  | [] => true
  | label :: around => (lookup label (innermost around)).isSome && lookup.reaches around

/-- The chunks that have a parser and are inside chunks that all have one, each with its parser. -/
def ParserLookup.dispatched (lookup : ParserLookup κ) (nodes : List Node) : List (κ × ChunkInfo) :=
  (nodes.filter fun n => lookup.reaches (n.label :: n.around)).filterMap fun n =>
    (lookup n.label n.parent).map fun k => (k, n.info)

structure Registration (κ : Type) where
  label : String
  parent : String
  parser : κ

/-- The parser that has been registered last for a label inside another. -/
def lastRegistered (registrations : List (Registration κ)) : ParserLookup κ := fun label parent =>
  (registrations.reverse.find? fun g => g.label = label ∧ g.parent = parent).map (·.parser)

def Reader.registerAll (r : Reader κ) (registrations : List (Registration κ)) : Reader κ :=
  registrations.foldl (fun r g => r.register g.label g.parent g.parser) r

/-- Parsers that record the chunk that they are given, and parse the chunks inside it. -/
def recording : κ → Parser κ (List (κ × ChunkInfo)) := fun k info log =>
  Program.ofCall (.parse (log ++ [(k, info)]))

/-! ## The walk -/

namespace ParserLookup

variable {lookup : ParserLookup κ} {around : List String}

/-- The walk over the chunks of a content that is inside a chunk of a label. -/
def walk (lookup : ParserLookup κ) (parent : String) : Content → List (κ × ChunkInfo)
  | .nil => []
  | .data _ rest => lookup.walk parent rest
  | .chunk label version inside rest =>
    (match lookup label parent with
      | none => []
      | some k => (k, ⟨label, parent, version, inside.size⟩) :: lookup.walk label inside) ++
    lookup.walk parent rest

theorem dispatched_append (nodes nodes' : List Node) :
    lookup.dispatched (nodes ++ nodes') = lookup.dispatched nodes ++ lookup.dispatched nodes' := by
  simp [dispatched]

theorem dispatched_cons (n : Node) (nodes : List Node) :
    lookup.dispatched (n :: nodes) =
      (if lookup.reaches n.around then
        ((lookup n.label n.parent).map fun k => (k, n.info)).toList else []) ++
      lookup.dispatched nodes := by
  have hreaches : lookup.reaches (n.label :: n.around) =
      ((lookup n.label n.parent).isSome && lookup.reaches n.around) := rfl
  cases hk : lookup n.label n.parent <;> cases hn : lookup.reaches n.around <;>
    simp [dispatched, hreaches, hk, hn]

/-- Nothing is reached inside a chunk that is not. -/
theorem dispatched_preorder_eq_nil (h : lookup.reaches around = false) (c : Content) :
    lookup.dispatched (c.preorder around) = [] := by
  induction c generalizing around with
  | nil => rfl
  | data bytes rest ih => exact ih h
  | chunk label version inside rest ihInside ihRest =>
      have hinside : lookup.reaches (label :: around) = false := by simp [reaches, h]
      rw [Content.preorder, dispatched_cons, dispatched_append, ihInside hinside, ihRest h]
      simp [h]

/-- The walk meets the chunks that are reached, in their order. -/
theorem walk_eq_dispatched (h : lookup.reaches around = true) (c : Content) :
    lookup.walk (innermost around) c = lookup.dispatched (c.preorder around) := by
  induction c generalizing around with
  | nil => rfl
  | data bytes rest ih => exact ih h
  | chunk label version inside rest ihInside ihRest =>
      rw [Content.preorder, dispatched_cons, dispatched_append, walk, ihRest h, ← List.append_assoc]
      congr 1
      cases hk : lookup label (innermost around) with
      | none =>
          have hinside : lookup.reaches (label :: around) = false := by simp [reaches, hk]
          rw [dispatched_preorder_eq_nil hinside]
          simp [Node.parent, hk]
      | some k =>
          have hinside : lookup.reaches (label :: around) = true := by simp [reaches, hk, h]
          have hwalk : lookup.walk label inside = _ := ihInside hinside
          simp [← hwalk, Node.parent, Node.info, hk, h]

end ParserLookup

namespace Reader

variable {r : Reader κ} {id : String → UInt32}

theorem run_recording (k : κ) (info : ChunkInfo) (log : List (κ × ChunkInfo)) (r : Reader κ) :
    (recording k info log).run recording r = r.parse recording (log ++ [(k, info)]) :=
  Program.run_ofCall _ (.parse _) r

/-- Parsing walks over the chunks ahead, up to the end of the innermost open chunk. -/
theorem parse_recording {c : Content} (honly : c.OnlyChunks)
    (hlabels : c.Each fun label _ _ => keptLabel label = label) (hr : c.Legible r.labels id)
    (hunread : r.unread = c.bytes id) (log : List (κ × ChunkInfo)) :
    r.parse recording log =
      ((.ok (), log ++ ParserLookup.walk r.parsers.find? r.enclosing c),
        { r with unread := [] }) := by
  induction c generalizing r log with
  | nil =>
      have hnil : r.unread = [] := hunread
      have hr : { r with unread := [] } = r := by rw [← hnil]
      rw [parse_of_nil hnil, hr, ParserLookup.walk, List.append_nil]
  | data bytes rest ih => exact honly.elim
  | chunk label version inside rest ihInside ihRest =>
      obtain ⟨honlyInside, honlyRest⟩ := honly
      obtain ⟨hlabel, hlabelsInside, hlabelsRest⟩ := hlabels
      have htake : takeChunk r.labels r.unread =
          .ok (⟨label, version, inside.bytes id⟩, rest.bytes id) := by
        have htake := hr.takeChunk
        rwa [← hunread, hlabel] at htake
      -- What comes after the chunk is parsed in the same way, whether it has a parser or not.
      have hrest (log : List (κ × ChunkInfo)) :
          { r with unread := rest.bytes id }.parse recording log =
            ((.ok (), log ++ ParserLookup.walk r.parsers.find? r.enclosing rest),
              { r with unread := [] }) :=
        ihRest (r := { r with unread := rest.bytes id }) honlyRest hlabelsRest hr.rest rfl log
      rw [parse_of_takeChunk htake, ParserLookup.walk]
      cases hk : r.parsers.find? label r.enclosing with
      | none => exact hrest log
      | some k =>
          have hinside (log : List (κ × ChunkInfo)) :=
            ihInside (r := r.enter ⟨label, version, inside.bytes id⟩ (rest.bytes id)) honlyInside
              hlabelsInside hr.inside rfl log
          simp only [run_recording, hinside]
          refine (hrest _).trans ?_
          simp only [Chunk.info, Content.length_bytes, List.append_assoc, List.cons_append,
            List.nil_append]
          rfl

/-! ## Registrations -/

theorem lastRegistered_cons (g : Registration κ) (registrations : List (Registration κ))
    (label parent : String) :
    lastRegistered (g :: registrations) label parent =
      (lastRegistered registrations label parent).or
        (if label = g.label ∧ parent = g.parent then some g.parser else none) := by
  rw [lastRegistered, List.reverse_cons, List.find?_append, Option.map_or, lastRegistered]
  congr 1
  by_cases hg : label = g.label ∧ parent = g.parent
  · obtain ⟨rfl, rfl⟩ := hg
    simp
  · have hg' : ¬ (g.label = label ∧ g.parent = parent) := fun h => hg ⟨h.1.symm, h.2.symm⟩
    simp [hg, hg']

theorem registerAll_eq (r : Reader κ) (registrations : List (Registration κ)) :
    r.registerAll registrations = { r with parsers := (r.registerAll registrations).parsers } := by
  induction registrations generalizing r with
  | nil => rfl
  | cons g rest ih => exact ih (r.register g.label g.parent g.parser)

theorem find?_registerAll (r : Reader κ) (registrations : List (Registration κ))
    (label parent : String) :
    (r.registerAll registrations).parsers.find? label parent =
      (lastRegistered registrations label parent).or (r.parsers.find? label parent) := by
  induction registrations generalizing r with
  | nil => rfl
  | cons g rest ih =>
      rw [lastRegistered_cons, Option.or_assoc]
      refine (ih (r.register g.label g.parent g.parser)).trans ?_
      rw [register, ParserTable.find?_insert]
      split <;> simp

end Reader

/-- Chunks that hold only chunks, with labels that a file keeps as they are and sizes that it can
state. -/
structure Forest where
  content : Content
  onlyChunks : content.OnlyChunks
  labels : content.Each fun label _ _ =>
    label.toList.all (fun c => c.toNat < 128) = true ∧ label.length ≤ 255
  storable : content.Storable

/-- Parsing the chunks of a file with parsers that record and parse succeeds, and records the chunks
that have a parser and are inside chunks that all have one: in the order of their headers, each with
what its header says and with the parser registered last. All of the file has been read then. -/
theorem parse_records_preorder (forest : Forest) (registrations : List (Registration κ)) :
    ∃ r r' : Reader κ, Reader.ofBytes (writeFile forest.content.events) = .ok r ∧
      (r.registerAll registrations).parse recording [] =
        ((.ok (), (lastRegistered registrations).dispatched (forest.content.preorder [])), r') ∧
      r'.chunks = [] ∧ r'.unread = [] := by
  obtain ⟨labels, id, hlegible, hopen⟩ := forest.storable.ofBytes_writeFile (κ := κ)
  let start : Reader κ := ⟨labels, [], forest.content.bytes id, []⟩
  have hr := start.registerAll_eq registrations
  have hlookup :
      (start.registerAll registrations).parsers.find? = lastRegistered registrations := by
    funext label parent
    rw [Reader.find?_registerAll, ParserTable.find?_nil, Option.or_none]
  have hlabels : forest.content.Each fun label _ _ => keptLabel label = label :=
    forest.labels.mono fun label _ _ h => keptLabel_of_ascii (by simpa using h.1) h.2
  have hparse := Reader.parse_recording (r := start.registerAll registrations) forest.onlyChunks
    hlabels (by rw [hr]; exact hlegible) (by rw [hr]) []
  have henclosing : (start.registerAll registrations).enclosing = innermost [] := by rw [hr]; rfl
  rw [hlookup, henclosing, ParserLookup.walk_eq_dispatched rfl] at hparse
  exact ⟨start, _, hopen, hparse, by rw [hr], rfl⟩

namespace Shelf

/-- A chunk without a label is around a chunk that has no parser there, and the second chunk at the
top level has none. -/
def content : Content :=
  .chunk "A" 1 (.chunk "" 2 (.chunk "B" 3 .nil .nil) (.chunk "B" 4 .nil .nil)) <|
    .chunk "B" 5 (.chunk "A" 6 .nil .nil) <| .chunk "A" 7 .nil .nil

def forest : Forest where
  content := content
  onlyChunks := by decide
  labels := by decide
  storable := Content.storable_of_size_le (by decide +kernel)

def registrations : List (Registration Nat) :=
  [⟨"A", "", 0⟩, ⟨"", "A", 1⟩, ⟨"B", "A", 2⟩, ⟨"A", "B", 3⟩, ⟨"A", "", 4⟩]

theorem recorded :
    ∃ r r' : Reader Nat, Reader.ofBytes (writeFile content.events) = .ok r ∧
      (r.registerAll registrations).parse recording [] =
        ((.ok (), [(4, ⟨"A", "", 1, 30⟩), (1, ⟨"", "A", 2, 10⟩), (2, ⟨"B", "A", 4, 0⟩),
          (4, ⟨"A", "", 7, 0⟩)]), r') ∧
      r'.chunks = [] ∧ r'.unread = [] :=
  parse_records_preorder forest registrations

end Shelf

end TriggerScript
