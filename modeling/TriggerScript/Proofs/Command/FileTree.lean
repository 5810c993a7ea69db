import TriggerScript.Command.FileTree
import TriggerScript.Proofs.Results

/-!
# What a write changes

A path leads to a place in a directory that is there, through whatever links. A file that is put
into such a place makes no directory and takes none away, so all paths still lead where they led,
and all other files stay as they are. What has been written can be read, unless the system refuses
that.
-/

namespace TriggerScript.FileTree

variable {t t' : FileTree} {place target last : List String} {content : List UInt8} {path : String}
variable {jump jump' : List String → List String → Except IoFailure (List String)}

/-! ## Directories -/

theorem isDirectory_iff :
    t.isDirectory place = true ↔
      (∃ below ∈ t.working :: t.directories, place <+: below) ∨
        ∃ p ∈ t.files.map (·.1) ++ t.links.map (·.1), place <+: p ∧ place.length < p.length := by
  simp only [isDirectory, Bool.or_eq_true, List.any_eq_true, List.isPrefixOf_iff_prefix,
    Bool.and_eq_true, decide_eq_true_eq]

theorem isDirectory_of_below {below : List String} (h : t.isDirectory below = true)
    (habove : place <+: below) : t.isDirectory place = true := by
  rw [isDirectory_iff] at h ⊢
  obtain ⟨further, hmem, hbelow⟩ | ⟨p, hmem, hbelow, hlt⟩ := h
  · exact .inl ⟨further, hmem, habove.trans hbelow⟩
  · exact .inr ⟨p, hmem, habove.trans hbelow, Nat.lt_of_le_of_lt habove.length_le hlt⟩

theorem isDirectory_working (t : FileTree) : t.isDirectory t.working = true :=
  isDirectory_iff.2 (.inl ⟨t.working, List.mem_cons_self, List.prefix_refl _⟩)

theorem isDirectory_root (t : FileTree) : t.isDirectory [] = true :=
  isDirectory_of_below t.isDirectory_working List.nil_prefix

theorem isDirectory_start {directory : List String} (h : t.isDirectory directory = true) :
    t.isDirectory (start directory path) = true := by
  rw [start]
  split
  · exact t.isDirectory_root
  · exact h

/-! ## Where paths lead -/

/-- The parts of a path lead to a place in a directory, if what links stand for does. -/
theorem isDirectory_dropLast_of_followParts {parts : List String}
    (hjump : ∀ place parts, t.isDirectory place.dropLast = true → jump place parts = .ok last →
      t.isDirectory last.dropLast = true)
    (hplace : t.isDirectory place.dropLast = true)
    (h : t.followParts jump place parts = .ok last) : t.isDirectory last.dropLast = true := by
  -- each part of the path keeps that the place it leads to is in a directory
  fun_induction t.followParts jump place parts with
  | case1 =>
      cases h
      exact hplace
  | case2 => cases h
  | case3 => cases h
  | case4 place part rest hdir hallowed hskip ih => exact ih hplace h
  | case5 place rest hdir hallowed hskip ih =>
      exact ih (isDirectory_of_below hplace (List.dropLast_prefix _)) h
  | case6 => cases h
  | case7 place part rest hdir hallowed hskip hup hlong path hlink =>
      refine hjump _ _ (isDirectory_of_below ?_ (List.dropLast_prefix _)) h
      exact isDirectory_start (by simpa using hdir)
  | case8 place part rest hdir hallowed hskip hup hlong hlink ih =>
      refine ih ?_ h
      rw [List.dropLast_concat]
      simpa using hdir

theorem isDirectory_dropLast_of_follow {links : Nat} {parts : List String}
    (hplace : t.isDirectory place.dropLast = true) (h : t.follow links place parts = .ok last) :
    t.isDirectory last.dropLast = true := by
  induction links generalizing place parts with
  | zero =>
      refine isDirectory_dropLast_of_followParts (fun _ _ _ hlink => ?_) hplace h
      cases hlink
  | succ links ih => exact isDirectory_dropLast_of_followParts (fun _ _ => ih) hplace h

theorem locate_eq_ok_iff {parts : List String} :
    t.locate path parts = .ok place ↔ path.utf8ByteSize ≤ maxPath ∧ path.isEmpty = false ∧
      t.follow maxLinks (start t.working path) parts = .ok place := by
  simp only [locate, ite_error_eq_ok_iff, Nat.not_lt, Bool.not_eq_true]

theorem place_eq_follow {directory : List String} (hlen : path.utf8ByteSize ≤ maxPath)
    (hne : path.isEmpty = false) (hstart : start t.working path = directory) :
    t.place path = t.follow maxLinks directory (parts path) := by
  rw [place, locate, if_neg (Nat.not_lt.2 hlen), if_neg (Bool.not_eq_true _ ▸ hne), hstart]

/-- A path leads to a place in a directory. -/
theorem isDirectory_dropLast_of_place (h : t.place path = .ok place) :
    t.isDirectory place.dropLast = true := by
  obtain ⟨-, -, h⟩ := locate_eq_ok_iff.1 h
  refine isDirectory_dropLast_of_follow (isDirectory_of_below ?_ (List.dropLast_prefix _)) h
  exact isDirectory_start t.isDirectory_working

/-- Paths lead where they led: the directories and links are the same, and so is what is refused. -/
structure SamePaths (t t' : FileTree) : Prop where
  directories : ∀ place, t'.isDirectory place = t.isDirectory place
  links : t'.links = t.links
  working : t'.working = t.working
  refuses : t'.refuses = t.refuses

namespace SamePaths

variable (h : t.SamePaths t')

include h

theorem followParts {parts : List String}
    (hjump : ∀ place parts, jump place parts = .ok last → jump' place parts = .ok last)
    (hfollow : t.followParts jump place parts = .ok last) :
    t'.followParts jump' place parts = .ok last := by
  fun_induction t.followParts jump place parts with
  | case1 => exact hfollow
  | case2 => cases hfollow
  | case3 => cases hfollow
  | case4 place part rest hdir hallowed hskip ih =>
      rw [FileTree.followParts, h.directories, if_neg hdir, h.refuses, hallowed]
      simp only [if_pos hskip]
      exact ih hfollow
  | case5 place rest hdir hallowed hskip ih =>
      rw [FileTree.followParts, h.directories, if_neg hdir, h.refuses, hallowed]
      simp only [if_neg hskip, if_pos]
      exact ih hfollow
  | case6 => cases hfollow
  | case7 place part rest hdir hallowed hskip hup hlong path hlink =>
      rw [FileTree.followParts, h.directories, if_neg hdir, h.refuses, hallowed]
      simp only [if_neg hskip, if_neg hup, if_neg hlong, h.links, hlink]
      exact hjump _ _ hfollow
  | case8 place part rest hdir hallowed hskip hup hlong hlink ih =>
      rw [FileTree.followParts, h.directories, if_neg hdir, h.refuses, hallowed]
      simp only [if_neg hskip, if_neg hup, if_neg hlong, h.links, hlink]
      exact ih hfollow

theorem follow {links : Nat} {parts : List String}
    (hfollow : t.follow links place parts = .ok last) :
    t'.follow links place parts = .ok last := by
  induction links generalizing place parts with
  | zero =>
      refine h.followParts (fun _ _ hlink => ?_) hfollow
      cases hlink
  | succ links ih => exact h.followParts (fun _ _ => ih) hfollow

theorem place_eq_ok (hplace : t.place path = .ok place) : t'.place path = .ok place := by
  obtain ⟨hlen, hne, hfollow⟩ := locate_eq_ok_iff.1 hplace
  refine locate_eq_ok_iff.2 ⟨hlen, hne, ?_⟩
  rw [h.working]
  exact h.follow hfollow

end SamePaths

/-! ## Putting a file -/

theorem lookup_overwritten (content : List UInt8) (target place : List String)
    (files : List (List String × List UInt8)) :
    (files.map fun (p, old) => (p, if p = target then content else old)).lookup place =
      (files.lookup place).map fun old => if place = target then content else old := by
  induction files with
  | nil => rfl
  | cons file files ih =>
      obtain ⟨p, old⟩ := file
      rw [List.map_cons, List.lookup_cons, List.lookup_cons, ih]
      by_cases hp : place = p
      · subst hp
        simp
      · rw [beq_false_of_ne hp]

theorem file?_put (t : FileTree) (target : List String) (content : List UInt8)
    (place : List String) :
    (t.put target content).file? place =
      if place = target then some content else t.file? place := by
  by_cases hthere : (t.file? target).isSome = true
  · rw [file?, put, if_pos hthere, lookup_overwritten, ← file?]
    split
    · rename_i htarget
      obtain ⟨old, hold⟩ := Option.isSome_iff_exists.1 hthere
      rw [htarget, hold, Option.map_some]
    · exact Option.map_id'
  · rw [file?, put, if_neg hthere, List.lookup_append, ← file?]
    split
    · rename_i htarget
      rw [htarget, Option.not_isSome_iff_eq_none.1 hthere]
      simp
    · rename_i hne
      have hother : (place == target) = false := beq_false_of_ne hne
      simp [List.lookup_cons, hother]

theorem mem_places_put {p : List String} :
    p ∈ (t.put target content).files.map (·.1) ↔ p ∈ t.files.map (·.1) ∨ p = target := by
  unfold put
  split
  · rename_i hthere
    obtain ⟨file, hmem, htarget⟩ := List.lookup_isSome_iff.1 hthere
    have hmem : target ∈ t.files.map (·.1) :=
      List.mem_map.2 ⟨file, hmem, (beq_iff_eq.1 htarget).symm⟩
    rw [List.map_map]
    exact (or_iff_left_of_imp fun hp => hp ▸ hmem).symm
  · rw [List.map_append, List.mem_append, List.map_singleton, List.mem_singleton]

/-- A file that is put into a directory makes no directory, and takes none away. -/
theorem isDirectory_put (content : List UInt8) (h : t.isDirectory target.dropLast = true)
    (place : List String) : (t.put target content).isDirectory place = t.isDirectory place := by
  rw [Bool.eq_iff_iff]
  constructor
  · intro hput
    obtain hnamed | ⟨p, hmem, hbelow, hlt⟩ := isDirectory_iff.1 hput
    · exact isDirectory_iff.2 (.inl hnamed)
    · obtain hfile | hlink := List.mem_append.1 hmem
      · obtain hold | rfl := mem_places_put.1 hfile
        · exact isDirectory_iff.2 (.inr ⟨p, List.mem_append_left _ hold, hbelow, hlt⟩)
        · -- above the new file is the directory that it was put into
          have hlen : place.length ≤ p.dropLast.length := by
            rw [List.length_dropLast]
            exact Nat.le_sub_one_of_lt hlt
          exact isDirectory_of_below h
            (List.prefix_of_prefix_length_le hbelow (List.dropLast_prefix p) hlen)
      · exact isDirectory_iff.2 (.inr ⟨p, List.mem_append_right _ hlink, hbelow, hlt⟩)
  · intro hdir
    obtain hnamed | ⟨p, hmem, hbelow, hlt⟩ := isDirectory_iff.1 hdir
    · exact isDirectory_iff.2 (.inl hnamed)
    · have hkept : p ∈ (t.put target content).files.map (·.1) ∨ p ∈ t.links.map (·.1) :=
        (List.mem_append.1 hmem).imp_left fun hold => mem_places_put.2 (.inl hold)
      exact isDirectory_iff.2 (.inr ⟨p, List.mem_append.2 hkept, hbelow, hlt⟩)

theorem samePaths_put (content : List UInt8) (h : t.isDirectory target.dropLast = true) :
    t.SamePaths (t.put target content) where
  directories := isDirectory_put content h
  links := rfl
  working := rfl
  refuses := rfl

/-! ## Writing and reading -/

theorem withoutSlashes_of_not_endsWith (h : path.endsWith "/" = false) :
    withoutSlashes path = path := by
  rw [String.endsWith_eq_endsWith_toSlice, String.Slice.endsWith_string_eq_false_iff] at h
  have hlast : path.toList.reverse.dropWhile (· = '/') = path.toList.reverse := by
    cases hrev : path.toList.reverse with
    | nil => rfl
    | cons c rest =>
        have hc : c ≠ '/' := by
          rintro rfl
          apply h
          refine ⟨rest.reverse, ?_⟩
          have := congrArg List.reverse hrev
          simpa using this.symm
        simp [hc]
  rw [withoutSlashes, hlast, List.reverse_reverse, String.ofList_toList]

theorem write_eq_ok_iff :
    t.write path content = .ok t' ↔ ∃ place, t.place path = .ok place ∧
      t.isDirectory place = false ∧ path.endsWith "/" = false ∧ t.refuses .write place = none ∧
      t' = t.put place content := by
  simp only [write, except_bind_eq_ok_iff, ite_error_eq_ok_iff, Bool.or_eq_true, not_or,
    Bool.not_eq_true]
  constructor
  · rintro ⟨place, hplace, ⟨hdir, hslash⟩, h⟩
    rw [withoutSlashes_of_not_endsWith hslash] at hplace
    split at h
    · cases h
    · rename_i hallowed
      cases h
      exact ⟨place, hplace, hdir, hslash, hallowed, rfl⟩
  · rintro ⟨place, hplace, hdir, hslash, hallowed, rfl⟩
    rw [withoutSlashes_of_not_endsWith hslash]
    exact ⟨place, hplace, ⟨hdir, hslash⟩, by rw [hallowed]⟩

/-- A file that is there is read, unless that is refused. -/
theorem read_of_file (hplace : t.place path = .ok place) (hallowed : t.refuses .read place = none)
    (hfile : t.file? place = some content) : t.read path = .ok content := by
  rw [read, hplace, except_ok_bind, holds, hfile, hallowed]
  rfl

/-- A write at a path: the file there has the content, all other files are what they were, and all
paths lead where they led. -/
structure OnlyWritten (t t' : FileTree) (path : String) (content : List UInt8) : Prop where
  written : ∃ place, t.place path = .ok place ∧ t'.file? place = some content
  others : ∀ place, t.place path ≠ .ok place → t'.file? place = t.file? place
  paths : t.SamePaths t'

theorem onlyWritten_of_write (h : t.write path content = .ok t') :
    t.OnlyWritten t' path content := by
  obtain ⟨target, hplace, -, -, -, rfl⟩ := write_eq_ok_iff.1 h
  refine ⟨⟨target, hplace, ?_⟩, fun place hne => ?_,
    samePaths_put content (isDirectory_dropLast_of_place hplace)⟩
  · rw [file?_put, if_pos rfl]
  · rw [file?_put, if_neg]
    rintro rfl
    exact hne hplace

/-- The file that a path leads to may be read, if it is there. -/
def MayRead (t : FileTree) (path : String) : Prop :=
  ∀ place, t.place path = .ok place → t.refuses .read place = none

/-- What has been written can be read. -/
theorem OnlyWritten.read (h : t.OnlyWritten t' path content) (hread : t.MayRead path) :
    t'.read path = .ok content := by
  obtain ⟨place, hplace, hfile⟩ := h.written
  refine read_of_file (h.paths.place_eq_ok hplace) ?_ hfile
  rw [h.paths.refuses]
  exact hread place hplace

end TriggerScript.FileTree
