import TriggerScript.Proofs.ScriptFile.Reload

/-!
# Saving what was loaded

What is loaded is settled: storing changes none of its texts and parameters, and each condition has
the shape of its type. Settled scripts come back as they are, so that a file that is loaded, saved
and loaded again gives the same scripts.
-/

namespace TriggerScript

variable {registry : Registry} {bytes rest : List UInt8}

/-! ## Settled scripts -/

/-- A condition that is what is found when its own parameters are found. -/
structure Condition.Settled (registry : Registry) (c : Condition) : Prop where
  kept : ∀ p ∈ c.params, p.kept = p
  filled : ∃ t, registry.template? c.type = some t ∧ t.shape.length ≤ maxParameters ∧
    c = ofFound c.type t.shape c.params

def Clause.Settled (registry : Registry) (c : Clause) : Prop :=
  ∀ condition ∈ c.conditions, condition.Settled registry

structure Script.Settled (registry : Registry) (s : Script) : Prop where
  name : StoredText.fits s.name = true
  comment : StoredText.fits s.comment = true
  clauses : ∀ clause ∈ s.trigger.clauses, clause.Settled registry

/-! ## What is loaded is settled -/

theorem Parameter.kept_ofKind (kind : ParameterKind) : (ofKind kind).kept = ofKind kind := by
  unfold kept
  split
  · rename_i hkind
    cases hkind
    rfl
  · simp [ofKind, StoredText.kept_empty]

theorem Parameter.kept_of_decode {p : Parameter} (h : decode.run bytes = .ok (p, rest)) :
    p.kept = p := by
  obtain ⟨code, _, -, h⟩ := SliceDecoder.run_bind_eq_ok_iff.1 h
  cases hcode : ParameterKind.ofCode? code with
  | none => simp [hcode] at h; cases h
  | some kind =>
      simp only [hcode] at h
      split at h
      · obtain ⟨x, _, -, h⟩ := SliceDecoder.run_bind_eq_ok_iff.1 h
        obtain ⟨y, _, -, h⟩ := SliceDecoder.run_bind_eq_ok_iff.1 h
        obtain ⟨z, _, -, h⟩ := SliceDecoder.run_bind_eq_ok_iff.1 h
        obtain ⟨rfl, -⟩ := SliceDecoder.run_pure_eq_ok_iff.1 h
        rfl
      · rename_i hkind
        obtain ⟨int, _, -, h⟩ := SliceDecoder.run_bind_eq_ok_iff.1 h
        obtain ⟨real, _, -, h⟩ := SliceDecoder.run_bind_eq_ok_iff.1 h
        obtain ⟨text, _, htext, h⟩ := SliceDecoder.run_bind_eq_ok_iff.1 h
        obtain ⟨rfl, -⟩ := SliceDecoder.run_pure_eq_ok_iff.1 h
        have hfits := StoredText.kept_of_fits (SliceDecoder.fits_of_text htext)
        simp [kept, ofKind, hkind, hfits]

namespace Condition

theorem length_ofFound_params (type : Int32) (shape : List ParameterKind) (found : List Parameter) :
    (ofFound type shape found).params.length = shape.length := by
  simp only [ofFound, List.length_append, List.length_take, List.length_map, List.length_drop]
  omega

theorem any_mismatch_filled (shape : List ParameterKind) (found : List Parameter) :
    (((found.take shape.length ++ (shape.drop found.length).map Parameter.ofKind).zip shape).any
        fun (p, kind) => p.kind ≠ kind) =
      (found.zip shape).any fun (p, kind) => p.kind ≠ kind := by
  induction shape generalizing found with
  | nil => simp
  | cons kind shape ih =>
      cases found with
      | nil => simpa [Parameter.ofKind] using ih []
      | cons p found =>
          simp only [List.length_cons, List.take_succ_cons, List.drop_succ_cons, List.cons_append,
            List.zip_cons_cons, List.any_cons, ih found]

theorem ofFound_params (type : Int32) (shape : List ParameterKind) (found : List Parameter) :
    ofFound type shape (ofFound type shape found).params = ofFound type shape found := by
  have hlen := length_ofFound_params type shape found
  rw [ofFound, List.take_of_length_le (Nat.le_of_eq hlen),
    List.drop_of_length_le (Nat.le_of_eq hlen.symm), List.map_nil,
    List.append_nil]
  simp only [ofFound, any_mismatch_filled]

theorem kept_of_ofFound {type : Int32} {shape : List ParameterKind} {found : List Parameter}
    (h : ∀ p ∈ found, p.kept = p) : ∀ p ∈ (ofFound type shape found).params, p.kept = p := by
  intro p hp
  obtain hp | hp := List.mem_append.1 hp
  · exact h p (List.mem_of_mem_take hp)
  · obtain ⟨kind, -, rfl⟩ := List.mem_map.1 hp
    exact Parameter.kept_ofKind kind

theorem kept_of_decodeParams {found : List Parameter}
    (h : decodeParams.run bytes = .ok (found, rest)) : ∀ p ∈ found, p.kept = p := by
  obtain ⟨count, _, -, h⟩ := SliceDecoder.run_bind_eq_ok_iff.1 h
  split at h
  · exact SliceDecoder.forall_of_count (fun _ _ _ => Parameter.kept_of_decode) h
  · cases h

theorem settled_of_decode {version : UInt16} {c : Condition}
    (h : (decode registry version).run bytes = .ok (c, rest)) : c.Settled registry := by
  obtain ⟨type, _, -, h⟩ := SliceDecoder.run_bind_eq_ok_iff.1 h
  cases ht : registry.template? type with
  | none => simp [ht] at h; cases h
  | some t =>
      simp only [ht] at h
      split at h
      · cases h
      · rename_i hs
        obtain ⟨found, _, hfound, h⟩ := SliceDecoder.run_bind_eq_ok_iff.1 h
        obtain ⟨rfl, -⟩ := SliceDecoder.run_pure_eq_ok_iff.1 h
        exact ⟨kept_of_ofFound (kept_of_decodeParams hfound),
          t, ht, Nat.le_of_not_lt hs, (ofFound_params type t.shape found).symm⟩

end Condition

theorem Clause.settled_of_decode {labels : LabelTable} {c : Clause}
    (h : decodeClause registry labels bytes = .ok c) : c.Settled registry := by
  obtain ⟨conditions, hfound, h⟩ := except_bind_eq_ok_iff.1 h
  cases h
  refine forall_of_decodeAllChunks (fun version body condition h => ?_) hfound
  obtain ⟨rest, h⟩ := decodeCondition_eq_ok_iff.1 h
  exact Condition.settled_of_decode h

theorem Script.settled_of_decode {labels : LabelTable} {s : Script}
    (h : decodeScript registry labels bytes = .ok s) : s.Settled registry := by
  obtain ⟨⟨header, rest⟩, hheader, h⟩ := except_bind_eq_ok_iff.1 h
  obtain ⟨clauses, hfound, h⟩ := except_bind_eq_ok_iff.1 h
  cases h
  obtain ⟨hname, hcomment, -⟩ := decodeHeader_eq_ok hheader
  exact ⟨hname, hcomment, forall_of_decodeAllChunks (fun _ _ _ => Clause.settled_of_decode) hfound⟩

theorem settled_of_loadScripts {scripts : List Script}
    (h : loadScripts registry bytes = .ok scripts) : ∀ s ∈ scripts, s.Settled registry := by
  cases hopen : (Reader.ofBytes bytes : Except ChunkError (Reader ParserName)) with
  | error e =>
      rw [loadScripts_of_error hopen] at h
      cases h
  | ok r =>
      obtain ⟨labels, body, rfl⟩ := Reader.eq_of_ofBytes hopen
      rw [loadScripts_of_ok hopen] at h
      exact forall_of_decodeAllChunks (fun _ _ _ => Script.settled_of_decode) h

/-! ## Settled scripts come back -/

def Registry.NamesFit (registry : Registry) : Prop :=
  ∀ tag t, registry.template? tag = some t → StoredText.fits t.name = true

theorem Registry.namesFit_ofList {templates : List Template}
    (h : ∀ t ∈ templates, StoredText.fits t.name = true) : (ofList templates).NamesFit :=
  fun _ t ht => h t (List.mem_of_find?_eq_some ht)

namespace Condition.Settled

variable {c : Condition}

theorem length_params (h : c.Settled registry) : c.params.length ≤ maxParameters := by
  obtain ⟨t, -, hshape, hc⟩ := h.filled
  rw [hc, length_ofFound_params]
  exact hshape

theorem reloaded (h : c.Settled registry) (hnames : registry.NamesFit) :
    c.reloaded registry registry = .ok c := by
  obtain ⟨t, ht, hshape, hc⟩ := h.filled
  have hname : registry.typeName? c.type = some t.name := by rw [Registry.typeName?, ht]; rfl
  have htype : typeMeant registry c.type (StoredText.kept (registry.savedName c.type)) = c.type := by
    rw [Registry.savedName, hname, Option.getD_some, StoredText.kept_of_fits (hnames _ _ ht),
      typeMeant, if_pos hname]
  have hparams : c.params.map Parameter.kept = c.params :=
    (List.map_congr_left h.kept).trans (List.map_id' _)
  simp only [Condition.reloaded, htype, ht, hparams, if_neg (Nat.not_lt.2 hshape)]
  rw [← hc]

end Condition.Settled

theorem Clause.Settled.reloaded {c : Clause} (h : c.Settled registry)
    (hnames : registry.NamesFit) : c.reloaded registry registry = .ok c := by
  rw [Clause.reloaded, mapM_id_of_forall fun condition hc => (h condition hc).reloaded hnames]
  rfl

theorem Script.Settled.reloaded {s : Script} (h : s.Settled registry)
    (hnames : registry.NamesFit) : s.reloaded registry registry = .ok s := by
  rw [Script.reloaded, mapM_id_of_forall fun clause hc => (h.clauses clause hc).reloaded hnames,
    StoredText.kept_of_fits h.name, StoredText.kept_of_fits h.comment]
  rfl

theorem Script.Settled.inBounds {s : Script} (h : s.Settled registry) : s.InBounds :=
  fun clause hclause condition hcondition =>
    (h.clauses clause hclause condition hcondition).length_params

/-- Loading is stable: scripts that were loaded come back as they are when they are saved and loaded
again, and saving what comes back gives the same file. -/
theorem loadScripts_saveScripts_of_loaded {scripts : List Script} (hnames : registry.NamesFit)
    (h : loadScripts registry bytes = .ok scripts)
    (hs : ∀ s ∈ scripts, s.bodySize registry ≤ 2147483647) :
    loadScripts registry (saveScripts registry scripts) = .ok scripts ∧
      (loadScripts registry (saveScripts registry scripts)).map (saveScripts registry) =
        .ok (saveScripts registry scripts) := by
  have hsettled := settled_of_loadScripts h
  obtain ⟨labels, body, hopen, hfound⟩ :=
    ofBytes_saveScripts registry registry (fun s hmem => (hsettled s hmem).inBounds) hs
  have hload : loadScripts registry (saveScripts registry scripts) = .ok scripts := by
    rw [loadScripts_of_ok hopen, hfound]
    exact mapM_id_of_forall fun s hmem => (hsettled s hmem).reloaded hnames
  exact ⟨hload, by rw [hload]; rfl⟩

theorem Renumbered.loadScripts_saved_again :
    loadScripts newer (saveScripts newer found) = .ok found := by
  obtain ⟨labels, body, hopen, hfound⟩ :=
    ofBytes_saveScripts older newer (by decide : ∀ s ∈ scripts, s.InBounds) (by decide +kernel)
  have hload : loadScripts newer (saveScripts older scripts) = .ok found := by
    rw [loadScripts_of_ok hopen, hfound]
    rfl
  have hnames : newer.NamesFit := Registry.namesFit_ofList (by decide)
  exact (loadScripts_saveScripts_of_loaded hnames hload (by decide +kernel)).1

end TriggerScript
