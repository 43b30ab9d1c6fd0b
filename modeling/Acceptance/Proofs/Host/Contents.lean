import Acceptance.Proofs.Host.Files

/-!
# What lies in a new directory

A temporary directory starts empty, and every file that is written into it is added to what lies
there.

* `Machine.Holds`: a directory holds certain files, and nothing else.

Results:
* `holds_makeTemporary`: a new temporary directory holds nothing.
* `Holds.writeFile`: a file that is written is held besides the others.
* `Holds.exists_iff`, `Holds.read`: what is found in a directory.
-/

namespace Acceptance.Host

open Acceptance.Path (Plain)

namespace FileTree

variable {t : FileTree} {here : Key} {name root : String}

/-- What exists under a plain name is what has its key. -/
theorem isSome_of_exists_join (h : Plain name) (hexists : t.exists here (Path.join root name) = true) :
    (t.get? (keyOf here (Path.join root name))).isSome := by
  obtain ⟨s, hs, hfree⟩ := locate_of_exists hexists
  have hunder := eq_under_of_locate_join h hs
  cases hget : t.get? (keyOf here (Path.join root name)) with
  | some e => rfl
  | none =>
    rw [Spot.under, hget] at hunder
    exact absurd hunder (hfree _)

end FileTree

namespace Machine

/-- A directory holds files by their names and octets, and nothing else. -/
structure Holds (m : Machine) (root : String) (files : List (String × List UInt8)) : Prop where
  /-- The directory is there. -/
  directory : m.files.get? (keyOf m.directory root) = some .directory
  /-- What lies in it are these files. -/
  entries (name : String) : m.files.get? (keyOf m.directory root ++ [name]) =
    (files.lookup name).map .file
  /-- Their names are parts of their own. -/
  plain : ∀ f ∈ files, Plain f.1
  /-- Their paths lead to them. -/
  reached : ∀ f ∈ files, ∃ s, m.files.locate m.directory (Path.join root f.1) = .ok s

variable {m m' : Machine} {root name : String} {files : List (String × List UInt8)}
  {octets : List UInt8}

/-! ## Looking -/

/-- Where the path of a file leads to. -/
theorem Holds.locate (h : m.Holds root files) (hfile : files.lookup name = some octets) :
    m.files.locate m.directory (Path.join root name) =
      .ok (.taken (keyOf m.directory (Path.join root name)) (.file octets)) := by
  obtain ⟨front, behind, hfiles, -⟩ := List.lookup_eq_some_iff.mp hfile
  have hmem : (name, octets) ∈ files := hfiles ▸ List.mem_append_right _ List.mem_cons_self
  have hname := h.plain _ hmem
  obtain ⟨s, hs⟩ := h.reached _ hmem
  rw [hs, FileTree.eq_under_of_locate_join hname hs, Spot.under, keyOf_join hname, h.entries, hfile]
  rfl

/-- **What is found in a directory** are the files that it holds. -/
theorem Holds.exists_iff (h : m.Holds root files) (hname : Plain name) :
    m.files.exists m.directory (Path.join root name) = true ↔ name ∈ files.map (·.1) := by
  have hlookup : name ∈ files.map (·.1) ↔ (files.lookup name).isSome := by
    simp only [List.mem_map, List.lookup_isSome_iff, beq_iff_eq, eq_comm (a := name)]
  rw [hlookup]
  constructor
  · intro hexists
    have hsome := FileTree.isSome_of_exists_join hname hexists
    rwa [keyOf_join hname, h.entries, Option.isSome_map] at hsome
  · intro hsome
    obtain ⟨octets, hfile⟩ := Option.isSome_iff_exists.mp hsome
    rw [FileTree.exists, FileTree.entryAt?, h.locate hfile]
    rfl

theorem Holds.read (h : m.Holds root files) (hfile : files.lookup name = some octets) :
    m.files.read m.directory (Path.join root name) = .ok octets := by
  rw [FileTree.read, h.locate hfile]
  rfl

/-! ## Changing -/

theorem run_writeFile_eq_ok {path : String} (h : (writeFile path octets).run m = (.ok (), m')) :
    ∃ t, m.files.write m.directory path octets = .ok t ∧ m' = { m with files := t } := by
  simp only [writeFile, Act.run, Act.of] at h
  cases hwrite : m.files.write m.directory path octets with
  | error c =>
    rw [hwrite] at h
    cases h
  | ok t =>
    rw [hwrite] at h
    cases h
    exact ⟨t, rfl, rfl⟩

/-- **A file that is written is held besides the others.** -/
theorem Holds.writeFile (h : m.Holds root files) (hname : Plain name)
    (hnew : files.lookup name = none)
    (hrun : (Machine.writeFile (Path.join root name) octets).run m = (.ok (), m')) :
    m'.directory = m.directory ∧ m'.Holds root (files ++ [(name, octets)]) := by
  obtain ⟨t, hwrite, rfl⟩ := run_writeFile_eq_ok hrun
  obtain ⟨s, hs, hput⟩ := bind_eq_ok_iff.mp hwrite
  have hkey := keyOf_join hname m.directory root
  have hunder := FileTree.eq_under_of_locate_join hname hs
  rw [Spot.under, hkey, h.entries, hnew, Option.map_none] at hunder
  subst hunder
  obtain rfl := Except.ok.inj hput
  have hne : keyOf m.directory root ++ [name] ≠ [] := by simp
  have hkeep (k : Key) (hk : m.files.get? k = some .directory) :
      (m.files.put (keyOf m.directory root ++ [name]) (.file octets)).get? k = some .directory := by
    rw [FileTree.get?_put hne, if_neg, hk]
    rintro rfl
    rw [h.entries, hnew] at hk
    cases hk
  have hplain : ∀ f ∈ files ++ [(name, octets)], Plain f.1 :=
    List.forall_mem_append.mpr ⟨h.plain, List.forall_mem_singleton.mpr hname⟩
  refine ⟨rfl, hkeep _ h.directory, fun name' => ?_, hplain, fun f hf => ?_⟩
  · show (FileTree.put _ _ _).get? (keyOf m.directory root ++ [name']) = _
    rw [FileTree.get?_put hne, List.lookup_append]
    by_cases hname' : name' = name
    · subst hname'
      simp [hnew]
    · have hlookup : List.lookup name' [(name, octets)] = none := by simp [hname']
      rw [if_neg (by simpa using hname'), h.entries, hlookup, Option.or_none]
  · obtain ⟨s, hs⟩ : ∃ s, m.files.locate m.directory (Path.join root f.1) = .ok s := by
      rcases List.mem_append.mp hf with hold | hlast
      · exact h.reached f hold
      · obtain rfl := List.mem_singleton.mp hlast
        exact ⟨_, hs⟩
    exact ⟨_, FileTree.locate_join_of_ok (hplain f hf) hs hkeep⟩

theorem io_of_run_writeFile {path : String} {e : Error}
    (h : (Machine.writeFile path octets).run m = (.error e, m')) : ∃ c, e = .io c := by
  simp only [Machine.writeFile, Act.run, Act.of] at h
  split at h
  · cases h
  · cases h
    exact ⟨_, rfl⟩

theorem io_of_run_makeTemporary {stem : String} {e : Error}
    (h : (makeTemporary stem).run m = (.error e, m')) : ∃ c, e = .io c := by
  simp only [makeTemporary, Act.run, Act.of] at h
  split at h
  · cases h
    exact ⟨_, rfl⟩
  · cases h

/-- The path of a temporary directory. -/
theorem run_makeTemporary_eq_ok {stem path : String}
    (h : (makeTemporary stem).run m = (.ok path, m')) :
    ∃ n t, path = Path.join m.temporary (stem ++ toString n) ∧
      m.files.makeDirectory m.directory path = .ok t ∧
      m' = { m with files := t, serial := n + 1 } := by
  simp only [makeTemporary, Act.run, Act.of] at h
  split at h
  · cases h
  · next t ht =>
    cases h
    exact ⟨_, t, rfl, ht, rfl⟩

/-- **A new temporary directory holds nothing.** There was nothing at its path before. -/
theorem holds_makeTemporary {stem path : String} (hground : m.files.Grounded)
    (hrun : (makeTemporary stem).run m = (.ok path, m')) :
    m.files.exists m.directory path = false ∧ m'.directory = m.directory ∧ m'.Holds path [] := by
  obtain ⟨n, t, -, hmake, rfl⟩ := run_makeTemporary_eq_ok hrun
  obtain ⟨s, hs, hput⟩ := bind_eq_ok_iff.mp hmake
  cases s with
  | root | taken k e => cases hput
  | free k =>
    obtain rfl := Except.ok.inj hput
    obtain rfl : k = keyOf m.directory path := FileTree.locate_key hs
    have hnone := FileTree.get?_of_follow_free (FileTree.follow_of_locate hs).2
    have hne : keyOf m.directory path ≠ [] := by
      intro hkey
      rw [hkey] at hnone
      cases hnone
    refine ⟨by rw [FileTree.exists, FileTree.entryAt?, hs]; rfl, rfl, ?_, fun name => ?_,
      List.forall_mem_nil _, List.forall_mem_nil _⟩
    · exact (FileTree.get?_put hne).trans (if_pos rfl)
    · refine (FileTree.get?_put hne).trans ?_
      rw [if_neg (by simp), hground.get?_below hnone (List.prefix_append _ _)]
      rfl

end Machine
end Acceptance.Host
