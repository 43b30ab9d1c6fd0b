import Acceptance.Host.Machine
import Acceptance.Proofs.Path

/-!
# Where paths lead

* `keyOf`: the key that a path leads to, told from its parts alone.
* `Spot.key`, `Spot.directory?`, `Spot.onward`: the key of what a path leads to, the directory if it is
  one, and what the pieces of a longer path lead to from there.
* `FileTree.Grounded`: whatever is there lies in directories that are there.

Results:
* `follow_append`: pieces are followed one after the other.
* `locate_key`: what a path leads to has the key that its parts tell.
* `locate_join_of_ok`: a path that ends with a plain name leads to what is under its key, also after
  other changes.
* `locate_join`: a plain name is looked up in the directory that the path before it leads to.
* `get?_makeDirectories`: making directories leaves every entry where it is.
* `removeIfPresent_join`: removing succeeds with nothing left, or it fails and changes nothing.
* `get?_removeIfPresent`: removing leaves alone whatever lies elsewhere.
* `get?_restored`: a directory that was made and is removed again leaves the files as they were.
-/

namespace Acceptance.Host

open Acceptance.Path (Plain)

/-! ## Keys -/

/-- Where a name leads from a directory. -/
def stride (here : Key) (name : String) : Key :=
  if name = "" ∨ name = "." then here else if name = ".." then here.dropLast else here ++ [name]

/-- Where names lead from a directory, one after the other. -/
def lead (here : Key) (names : List String) : Key := names.foldl stride here

/-- The directory that a path starts from. -/
def startOf (here : Key) (path : String) : Key := if Path.isAbsolute path then [] else here

/-- The key that a path leads to from a directory, told from its parts alone. -/
def keyOf (here : Key) (path : String) : Key := lead (startOf here path) (Path.parts path).2

theorem lead_append (here : Key) (names names' : List String) :
    lead here (names ++ names') = lead (lead here names) names' := List.foldl_append

theorem stride_stay {piece : List Char} (h : (piece.isEmpty || piece == ['.']) = true) (here : Key) :
    stride here (String.ofList piece) = here := by
  rcases Bool.or_eq_true_iff.mp h with hp | hp
  · rw [List.isEmpty_iff.mp hp]
    rfl
  · rw [beq_iff_eq.mp hp]
    rfl

theorem stride_up {piece : List Char} (h : (piece == ['.', '.']) = true) (here : Key) :
    stride here (String.ofList piece) = here.dropLast := by
  rw [beq_iff_eq.mp h]
  rfl

theorem stride_down {piece : List Char} (hstay : ¬(piece.isEmpty || piece == ['.']) = true)
    (hup : ¬(piece == ['.', '.']) = true) (here : Key) :
    stride here (String.ofList piece) = here ++ [String.ofList piece] := by
  have hne (q : List Char) (hq : piece ≠ q) : String.ofList piece ≠ String.ofList q :=
    fun h => hq (String.ofList_injective h)
  rw [Bool.or_eq_true_iff, not_or, List.isEmpty_iff, beq_iff_eq] at hstay
  rw [stride, if_neg (not_or.mpr ⟨hne [] hstay.1, hne ['.'] hstay.2⟩),
    if_neg (hne ['.', '.'] (by simpa using hup))]

theorem not_stay_of_plain {name : String} (h : Plain name) :
    ¬(name.toList.isEmpty || name.toList == ['.']) = true := by
  rw [Bool.or_eq_true_iff, List.isEmpty_iff, beq_iff_eq]
  exact not_or.mpr ⟨h.ne_empty, h.ne_point⟩

theorem not_up_of_plain {name : String} (h : Plain name) :
    ¬(name.toList == ['.', '.']) = true :=
  fun hup => h.ne_points (beq_iff_eq.mp hup)

theorem stride_plain {name : String} (h : Plain name) (here : Key) :
    stride here name = here ++ [name] := by
  have hdown := stride_down (not_stay_of_plain h) (not_up_of_plain h) here
  rwa [String.ofList_toList] at hdown

theorem stride_of_not_counts {absolute : Bool} {place : Nat} {piece : List Char}
    (h : ¬Path.counts absolute place piece = true) (here : Key) :
    stride here (String.ofList piece) = here := by
  refine stride_stay ?_ here
  simp only [Path.counts, Bool.and_eq_true, not_and, Bool.not_eq_true', Bool.or_eq_true,
    bne_iff_ne] at h
  cases hempty : piece.isEmpty
  · simpa using fun hpoint => h hempty (Or.inl hpoint)
  · rfl

/-- The pieces that do not count lead nowhere. -/
theorem lead_names (here : Key) (absolute : Bool) (ps : List (List Char)) :
    lead here (Path.names absolute ps) = lead here (ps.map String.ofList) := by
  suffices h : ∀ place, lead here (((ps.zipIdx place).filter fun x =>
      Path.counts absolute x.2 x.1).map fun x => String.ofList x.1) =
        lead here (ps.map String.ofList) from h 0
  induction ps generalizing here with
  | nil => exact fun _ => rfl
  | cons p ps ih =>
    intro place
    rw [List.zipIdx_cons, List.filter_cons]
    split
    · exact ih (stride here (String.ofList p)) (place + 1)
    · rename_i hp
      rw [ih, List.map_cons]
      exact congrArg (lead · _) (stride_of_not_counts hp here).symm

theorem keyOf_eq (here : Key) (path : String) :
    keyOf here path = lead (startOf here path) ((Path.pieces path.toList).map String.ofList) := by
  rw [keyOf, Path.parts_eq, lead_names]

theorem keyOf_congr {path path' : String} (h : Path.parts path = Path.parts path') (here : Key) :
    keyOf here path = keyOf here path' := by
  have habs : Path.isAbsolute path = Path.isAbsolute path' := congrArg Prod.fst h
  rw [keyOf, keyOf, startOf, startOf, h, habs]

/-- A plain name seen from a path leads one further than the path. -/
theorem keyOf_join {name : String} (h : Plain name) (here : Key) (root : String) :
    keyOf here (Path.join root name) = keyOf here root ++ [name] := by
  have hparts := Path.parts_join h root
  have habs : Path.isAbsolute (Path.join root name) = Path.isAbsolute root :=
    congrArg Prod.fst hparts
  rw [keyOf, keyOf, startOf, startOf, hparts, habs, lead_append]
  exact stride_plain h _

/-! ## Spots -/

namespace Spot

/-- The key of a spot. -/
def key : Spot → Key
  | root => []
  | taken k _ => k
  | free k => k

/-- The directory at a spot. -/
def directory? : Spot → Option Key
  | root => some []
  | taken k .directory => some k
  | _ => none

/-- What is under a key. -/
def under (t : FileTree) (k : Key) : Spot :=
  match t.get? k with
  | some e => taken k e
  | none => free k

/-- What further pieces lead to from a spot. -/
def onward (t : FileTree) (ps : List (List Char)) : Spot → Except Int Spot
  | root => t.follow [] ps
  | taken k .directory => t.follow k ps
  | taken k (.file octets) =>
    if ps.isEmpty then .ok (.taken k (.file octets)) else .error Errno.notDirectory
  | free k => if ps.all List.isEmpty then .ok (.free k) else .error Errno.absent

variable {s : Spot} {r : Key}

theorem key_of_directory (h : s.directory? = some r) : s.key = r := by
  cases s with
  | root => exact Option.some.inj h
  | free k => cases h
  | taken k e =>
    cases e with
    | directory => exact Option.some.inj h
    | file octets => cases h

theorem onward_of_directory (h : s.directory? = some r) (t : FileTree) (ps : List (List Char)) :
    s.onward t ps = t.follow r ps := by
  cases s with
  | root =>
    cases h
    rfl
  | free k => cases h
  | taken k e =>
    cases e with
    | directory =>
      cases h
      rfl
    | file octets => cases h

end Spot

namespace FileTree

variable {t : FileTree} {here : Key}

/-! ### Following one piece -/

variable {p : List Char} {ps : List (List Char)}

theorem follow_stay (h : (p.isEmpty || p == ['.']) = true) :
    t.follow here (p :: ps) = t.follow here ps := by
  rw [follow, if_pos h]

theorem follow_up (hstay : ¬(p.isEmpty || p == ['.']) = true) (h : (p == ['.', '.']) = true) :
    t.follow here (p :: ps) = t.follow here.dropLast ps := by
  rw [follow, if_neg hstay, if_pos h]

theorem follow_long (hstay : ¬(p.isEmpty || p == ['.']) = true) (hup : ¬(p == ['.', '.']) = true)
    (h : 255 < Text.Utf8.octetCount p) :
    t.follow here (p :: ps) = .error Errno.nameTooLong := by
  rw [follow, if_neg hstay, if_neg hup, if_pos h]

theorem follow_down (hstay : ¬(p.isEmpty || p == ['.']) = true) (hup : ¬(p == ['.', '.']) = true)
    (h : ¬255 < Text.Utf8.octetCount p) :
    t.follow here (p :: ps) = (Spot.under t (here ++ [String.ofList p])).onward t ps := by
  rw [follow, if_neg hstay, if_neg hup, if_neg h]
  simp only [Spot.under]
  cases t.get? (here ++ [String.ofList p]) with
  | none => rfl
  | some e => cases e <;> rfl

/-- A piece only moves on, or is refused, or is looked up. -/
theorem follow_cons (p : List Char) :
    (∀ (t : FileTree) (here : Key) (ps : List (List Char)),
        t.follow here (p :: ps) = t.follow (stride here (String.ofList p)) ps) ∨
      (∀ (t : FileTree) (here : Key) (ps : List (List Char)),
        t.follow here (p :: ps) = .error Errno.nameTooLong) ∨
      ∀ (t : FileTree) (here : Key) (ps : List (List Char)),
        t.follow here (p :: ps) = (Spot.under t (stride here (String.ofList p))).onward t ps := by
  by_cases hstay : (p.isEmpty || p == ['.']) = true
  · exact Or.inl fun t here ps => by rw [follow_stay hstay, stride_stay hstay]
  by_cases hup : (p == ['.', '.']) = true
  · exact Or.inl fun t here ps => by rw [follow_up hstay hup, stride_up hup]
  by_cases hlong : 255 < Text.Utf8.octetCount p
  · exact Or.inr (Or.inl fun t here ps => follow_long hstay hup hlong)
  · exact Or.inr (Or.inr fun t here ps => by
      rw [follow_down hstay hup hlong, stride_down hstay hup])

/-! ### Following them all -/

theorem lead_of_all_isEmpty (h : ps.all List.isEmpty = true) (here : Key) :
    lead here (ps.map String.ofList) = here := by
  induction ps with
  | nil => rfl
  | cons p ps ih =>
    rw [List.all_cons, Bool.and_eq_true] at h
    rw [List.isEmpty_iff.mp h.1]
    exact ih h.2

/-- Where further pieces lead from what is under a key: on from a directory, and nowhere else from a
file or a free name. -/
theorem onward_under {k : Key} {s : Spot} (h : (Spot.under t k).onward t ps = .ok s) :
    t.get? k = some .directory ∧ t.follow k ps = .ok s ∨
      s = Spot.under t k ∧ s.directory? = none ∧ ps.all List.isEmpty = true := by
  simp only [Spot.under] at h ⊢
  cases hget : t.get? k with
  | none =>
    simp only [hget, Spot.onward] at h
    split at h <;> cases h
    next hempty => exact Or.inr ⟨rfl, rfl, hempty⟩
  | some e =>
    cases e with
    | directory =>
      rw [hget] at h
      exact Or.inl ⟨rfl, h⟩
    | file octets =>
      simp only [hget, Spot.onward] at h
      split at h <;> cases h
      next hempty => exact Or.inr ⟨rfl, rfl, by rw [List.isEmpty_iff.mp hempty]; rfl⟩

theorem get?_of_under_free {k j : Key} (h : Spot.under t k = .free j) : t.get? j = none := by
  rw [Spot.under] at h
  cases hget : t.get? k with
  | none =>
    rw [hget] at h
    cases h
    exact hget
  | some e =>
    rw [hget] at h
    cases h

theorem key_under (t : FileTree) (k : Key) : (Spot.under t k).key = k := by
  simp only [Spot.under]
  cases t.get? k <;> rfl

/-- What some pieces lead to has the key that they tell. -/
theorem follow_key {s : Spot} (h : t.follow here ps = .ok s) :
    s.key = lead here (ps.map String.ofList) := by
  induction ps generalizing here with
  | nil =>
    cases h
    cases here <;> rfl
  | cons p ps ih =>
    rcases follow_cons p with hmove | hlong | hdown
    · rw [hmove] at h
      exact ih h
    · rw [hlong] at h
      cases h
    · rw [hdown] at h
      rcases onward_under h with ⟨-, hfollow⟩ | ⟨rfl, -, hempty⟩
      · exact ih hfollow
      · exact (key_under t _).trans (lead_of_all_isEmpty hempty _).symm

/-- Pieces are followed one after the other. -/
theorem follow_append (ps qs : List (List Char)) :
    t.follow here (ps ++ qs) = t.follow here ps >>= Spot.onward t qs := by
  induction ps generalizing here with
  | nil => cases here <;> rfl
  | cons p ps ih =>
    rw [List.cons_append]
    rcases follow_cons p with hmove | hlong | hdown
    · rw [hmove, hmove, ih]
    · rw [hlong, hlong]
      rfl
    · rw [hdown, hdown]
      -- Behind a file or a free name only the end of the path counts, in whichever part it is.
      simp only [Spot.under]
      cases t.get? (stride here (String.ofList p)) with
      | none =>
        simp only [Spot.onward, List.all_append]
        cases ps.all List.isEmpty <;> rfl
      | some e =>
        cases e with
        | directory => exact ih
        | file octets => cases ps <;> rfl

/-- What is free is not there. -/
theorem get?_of_follow_free {k : Key} (h : t.follow here ps = .ok (.free k)) : t.get? k = none := by
  induction ps generalizing here with
  | nil => cases here <;> cases h
  | cons p ps ih =>
    rcases follow_cons p with hmove | hlong | hdown
    · rw [hmove] at h
      exact ih h
    · rw [hlong] at h
      cases h
    · rw [hdown] at h
      rcases onward_under h with ⟨-, hfollow⟩ | ⟨hfree, -⟩
      · exact ih hfollow
      · exact get?_of_under_free hfree.symm

/-- Directories are found again in a tree that has all of them. -/
theorem follow_of_directories {t' : FileTree}
    (ht : ∀ k, t.get? k = some .directory → t'.get? k = some .directory) {s : Spot} {r : Key}
    (h : t.follow here ps = .ok s) (hr : s.directory? = some r) : t'.follow here ps = .ok s := by
  induction ps generalizing here with
  | nil => exact h
  | cons p ps ih =>
    rcases follow_cons p with hmove | hlong | hdown
    · rw [hmove] at h ⊢
      exact ih h
    · rw [hlong] at h
      cases h
    · rw [hdown] at h ⊢
      -- Only a directory on the way can lead to one at the end.
      rcases onward_under h with ⟨hk, hfollow⟩ | ⟨-, hnone, -⟩
      · rw [Spot.under, ht _ hk]
        exact ih hfollow
      · rw [hr] at hnone
        cases hnone

/-! ## Paths -/

variable {path : String}

/-- A path is followed, unless the whole of it is refused. -/
theorem locate_eq (here : Key) (hp : path ≠ "") :
    (∃ c, c ≠ IoCause.number Errno.absent ∧ ∀ t : FileTree, t.locate here path = .error c) ∨
      ∀ t : FileTree, t.locate here path =
        (t.follow (startOf here path) (Path.pieces path.toList)).mapError .number := by
  by_cases hnul : path.toList.contains '\x00' = true
  · exact Or.inl ⟨.nulInPath, nofun, fun t => by simp only [locate, if_pos hnul]⟩
  have hne : ¬path.toList.isEmpty = true := by simpa using hp
  by_cases hlong : 4096 ≤ Text.Utf8.octetCount path.toList
  · exact Or.inl ⟨.number Errno.nameTooLong, by decide,
      fun t => by simp only [locate, if_neg hnul, if_neg hne, if_pos hlong]⟩
  · exact Or.inr fun t => by simp only [locate, if_neg hnul, if_neg hne, if_neg hlong, startOf]

theorem follow_of_locate {s : Spot} (h : t.locate here path = .ok s) :
    path ≠ "" ∧ t.follow (startOf here path) (Path.pieces path.toList) = .ok s := by
  have hp : path ≠ "" := by
    rintro rfl
    cases h
  refine ⟨hp, ?_⟩
  rcases locate_eq here hp with ⟨c, -, hc⟩ | hf
  · rw [hc] at h
    cases h
  · rw [hf] at h
    cases hs : t.follow (startOf here path) (Path.pieces path.toList) with
    | error n =>
      rw [hs] at h
      cases h
    | ok s' =>
      rw [hs] at h
      exact congrArg Except.ok (Except.ok.inj h)

/-- **What a path leads to has the key that its parts tell.** -/
theorem locate_key {s : Spot} (h : t.locate here path = .ok s) : s.key = keyOf here path := by
  rw [keyOf_eq]
  exact follow_key (follow_of_locate h).2

theorem onward_under_nil (t : FileTree) (k : Key) (name : String) :
    (Spot.under t (k ++ [name])).onward t [] = .ok (Spot.under t (k ++ [name])) := by
  simp only [Spot.under]
  cases t.get? (k ++ [name]) with
  | none => rfl
  | some e =>
    cases e with
    | directory => cases k <;> rfl
    | file octets => rfl

theorem locate_of_exists (h : t.exists here path = true) :
    ∃ s, t.locate here path = .ok s ∧ ∀ k, s ≠ .free k := by
  simp only [FileTree.exists, entryAt?] at h
  cases hs : t.locate here path with
  | error c =>
    rw [hs] at h
    cases h
  | ok s =>
    rw [hs] at h
    refine ⟨s, rfl, ?_⟩
    rintro k rfl
    cases h

variable {name root : String}

/-- What stands before a plain name that is seen from a path leads where the path leads. -/
theorem follow_before (h : Plain name) (hroot : t.exists here root = true) :
    ∃ ps s, Path.pieces (Path.join root name).toList = ps ++ [name.toList] ∧
      t.follow (startOf here (Path.join root name)) ps = .ok s ∧ ∀ k, s ≠ .free k := by
  obtain ⟨s, hs, hfree⟩ := locate_of_exists hroot
  obtain ⟨hne, hf⟩ := follow_of_locate hs
  obtain ⟨habs, hpieces⟩ := Path.pieces_join h hne
  have hstart : startOf here (Path.join root name) = startOf here root := by
    rw [startOf, startOf, habs]
  rw [hstart]
  rcases hpieces with hp | ⟨ps, hps, hp⟩
  · exact ⟨_, s, hp, hf, hfree⟩
  · rw [hps, follow_append] at hf
    obtain ⟨s', hs', honward⟩ := bind_eq_ok_iff.mp hf
    refine ⟨ps, s', hp, hs', ?_⟩
    rintro k rfl
    exact hfree k (Except.ok.inj honward).symm

/-- From a directory, a plain name leads to what is under it, in every tree, unless it is too long. -/
theorem onward_directory (h : Plain name) {s : Spot} {r : Key} (hr : s.directory? = some r)
    (hshort : ¬255 < Text.Utf8.octetCount name.toList) (t : FileTree) :
    s.onward t [name.toList] = .ok (Spot.under t (r ++ [name])) := by
  rw [Spot.onward_of_directory hr, follow_down (not_stay_of_plain h) (not_up_of_plain h) hshort,
    String.ofList_toList, onward_under_nil]

/-- A plain name leads anywhere only from a directory, and only if it is not too long. -/
theorem directory?_of_onward (h : Plain name) {s s' : Spot}
    (hs : s.onward t [name.toList] = .ok s') :
    ∃ r, s.directory? = some r ∧ ¬255 < Text.Utf8.octetCount name.toList := by
  have hname : ¬name.toList.isEmpty = true := by simpa using h.ne_empty
  cases hr : s.directory? with
  | none =>
    cases s with
    | root => cases hr
    | free k => simp [Spot.onward, hname] at hs
    | taken k e =>
      cases e with
      | directory => cases hr
      | file octets => cases hs
  | some r =>
    refine ⟨r, rfl, fun hlong => ?_⟩
    rw [Spot.onward_of_directory hr, follow_long (not_stay_of_plain h) (not_up_of_plain h) hlong]
      at hs
    cases hs

/-- **A path that ends with a plain name and leads anywhere** leads to what is under its key, in every
tree that has the directories on the way. -/
theorem locate_join_of_ok (h : Plain name) {s : Spot}
    (hs : t.locate here (Path.join root name) = .ok s) {t' : FileTree}
    (ht' : ∀ k, t.get? k = some .directory → t'.get? k = some .directory) :
    t'.locate here (Path.join root name) =
      .ok (Spot.under t' (keyOf here (Path.join root name))) := by
  rcases locate_eq here (Path.join_ne_empty h root) with ⟨c, -, hrefused⟩ | hlocate
  · rw [hrefused t] at hs
    cases hs
  obtain ⟨ps, hpieces⟩ := Path.exists_pieces_join h root
  have hfollow := (follow_of_locate hs).2
  rw [hpieces, follow_append] at hfollow
  obtain ⟨s', hs', honward⟩ := bind_eq_ok_iff.mp hfollow
  obtain ⟨r, hr, hshort⟩ := directory?_of_onward h honward
  have hkey : keyOf here (Path.join root name) = r ++ [name] := by
    rw [keyOf_eq, hpieces, List.map_append, lead_append, ← follow_key hs',
      Spot.key_of_directory hr, List.map_singleton, String.ofList_toList]
    exact stride_plain h r
  rw [hlocate, hpieces, follow_append, follow_of_directories ht' hs' hr, hkey]
  exact congrArg (Except.mapError IoCause.number) (onward_directory h hr hshort t')

/-- **A path that ends with a plain name leads to what is under its key**, if it leads anywhere. -/
theorem eq_under_of_locate_join (h : Plain name) {s : Spot}
    (hs : t.locate here (Path.join root name) = .ok s) :
    s = Spot.under t (keyOf here (Path.join root name)) :=
  Except.ok.inj (hs.symm.trans (locate_join_of_ok h hs fun _ hk => hk))

/-- **A plain name is looked up in the directory that the path before it leads to**, in every tree that
has the directories on the way, as long as neither the name nor the path is refused. -/
theorem locate_join (h : Plain name) (hroot : t.exists here root = true) :
    (∃ c, c ≠ IoCause.number Errno.absent ∧ t.locate here (Path.join root name) = .error c) ∨
      ∀ t' : FileTree, (∀ k, t.get? k = some .directory → t'.get? k = some .directory) →
        t'.locate here (Path.join root name) =
          .ok (Spot.under t' (keyOf here (Path.join root name))) := by
  rcases locate_eq here (Path.join_ne_empty h root) with ⟨c, hc, hrefused⟩ | hlocate
  · exact Or.inl ⟨c, hc, hrefused t⟩
  obtain ⟨ps, s, hpieces, hs, hfree⟩ := follow_before h hroot
  have hfollow : t.locate here (Path.join root name) =
      (s.onward t [name.toList]).mapError .number := by
    rw [hlocate, hpieces, follow_append, hs]
    rfl
  cases hr : s.directory? with
  | none =>
    refine Or.inl ⟨.number Errno.notDirectory, by decide, hfollow.trans ?_⟩
    cases s with
    | root => cases hr
    | free k => exact absurd rfl (hfree k)
    | taken k e =>
      cases e with
      | directory => cases hr
      | file octets => rfl
  | some r =>
    by_cases hlong : 255 < Text.Utf8.octetCount name.toList
    · refine Or.inl ⟨.number Errno.nameTooLong, by decide, hfollow.trans ?_⟩
      rw [Spot.onward_of_directory hr, follow_long (not_stay_of_plain h) (not_up_of_plain h) hlong]
      rfl
    · rw [onward_directory h hr hlong] at hfollow
      exact Or.inr fun t' ht' => locate_join_of_ok h hfollow ht'

/-! ## Making directories -/

variable {k : Key} {e : Entry}

theorem get?_makeDirectory {t' : FileTree} (h : t.makeDirectory here path = .ok t')
    (hk : t.get? k = some e) : t'.get? k = some e := by
  obtain ⟨s, hs, h⟩ := bind_eq_ok_iff.mp h
  cases s with
  | root | taken j d => cases h
  | free j =>
    cases h
    have hfree := get?_of_follow_free (follow_of_locate hs).2
    have hj : j ≠ [] := by
      rintro rfl
      cases hfree
    have hkj : k ≠ j := by
      rintro rfl
      rw [hk] at hfree
      cases hfree
    rw [get?_put hj, if_neg hkj, hk]

theorem get?_makeDirectoriesFrom (fuel : Nat) (hk : t.get? k = some e) :
    (t.makeDirectoriesFrom here fuel path).2.get? k = some e := by
  induction fuel generalizing t path with
  | zero => exact hk
  | succ fuel ih =>
    have hsettle {t : FileTree} (c : IoCause) (hk : t.get? k = some e) :
        (if t.isDirectory here path = true then (Except.ok (), t)
          else (.error c, t)).2.get? k = some e := by
      split <;> exact hk
    rw [makeDirectoriesFrom]
    split
    · exact hk
    split
    · next hmake => exact get?_makeDirectory hmake hk
    · split
      · split
        · exact hk
        · next above _ =>
          have habove : (t.makeDirectoriesFrom here fuel above).2.get? k = some e := ih hk
          split
          · next hrest => rwa [hrest] at habove
          · next hrest =>
            rw [hrest] at habove
            split
            · next hmake => exact get?_makeDirectory hmake habove
            · exact hsettle _ habove
      · exact hsettle _ hk
    · exact hsettle _ hk

/-- **Making directories leaves every entry where it is.** -/
theorem get?_makeDirectories (hk : t.get? k = some e) :
    (t.makeDirectories here path).2.get? k = some e :=
  get?_makeDirectoriesFrom _ hk

theorem makeDirectories_of_free (h : t.locate here path = .ok (.free k)) :
    t.makeDirectories here path = (.ok (), t.put k .directory) := by
  have hne : ¬path.isEmpty = true := by simpa using (follow_of_locate h).1
  have hmake : t.makeDirectory here path = .ok (t.put k .directory) := by
    rw [makeDirectory, h]
    rfl
  rw [makeDirectories, makeDirectoriesFrom, if_neg hne, hmake]

theorem makeDirectories_of_error {c : IoCause} (hc : c ≠ .number Errno.absent)
    (h : t.locate here path = .error c) : t.makeDirectories here path = (.error c, t) := by
  have hne : ¬path.isEmpty = true := by
    rw [String.isEmpty_iff]
    rintro rfl
    exact hc (Except.error.inj h).symm
  have hmake : t.makeDirectory here path = .error c := by
    rw [makeDirectory, h]
    rfl
  have hdirectory : ¬t.isDirectory here path = true := by
    simp [isDirectory, entryAt?, h]
  rw [makeDirectories, makeDirectoriesFrom, if_neg hne, hmake]
  cases c with
  | number n =>
    have hn : n ≠ Errno.absent := fun hn => hc (congrArg IoCause.number hn)
    simp only [if_neg hn, if_neg hdirectory]
  | _ => simp only [if_neg hdirectory]

/-! ## Removing -/

theorem get?_dropBelow_of_not_below {j : Key} (h : ¬j <+: k) : (t.dropBelow j).get? k = t.get? k := by
  by_cases hk : k = []
  · subst hk
    rfl
  · rw [get?_dropBelow hk, if_neg fun hp => h (List.isPrefixOf_iff_prefix.mp hp)]

/-- What is removed is what the path leads to, with what lies below it. -/
theorem eq_of_removeAll {t' : FileTree} (h : t.removeAll here path = .ok t') :
    t' = t.dropBelow (keyOf here path) := by
  obtain ⟨s, hs, h⟩ := bind_eq_ok_iff.mp h
  have hkey := locate_key hs
  cases s with
  | root | free j => cases h
  | taken j d =>
    cases d with
    | file octets => cases h
    | directory =>
      cases h
      exact congrArg t.dropBelow hkey

/-- **After a removal nothing is there**, and what was removed was no file. -/
theorem not_exists_of_removeAll (h : Plain name) {t' : FileTree}
    (hremove : t.removeAll here (Path.join root name) = .ok t') :
    t.isFile here (Path.join root name) = false ∧
      t'.exists here (Path.join root name) = false := by
  constructor
  · obtain ⟨s, hs, hremove⟩ := bind_eq_ok_iff.mp hremove
    rw [isFile, entryAt?, hs]
    rcases s with _ | ⟨_, _ | _⟩ | _
    · rfl
    · rfl
    · cases hremove
    · rfl
  · obtain rfl := eq_of_removeAll hremove
    have hkey : keyOf here (Path.join root name) ≠ [] := by simp [keyOf_join h]
    refine Bool.eq_false_iff.mpr fun hexists => ?_
    obtain ⟨s, hs, hfree⟩ := locate_of_exists hexists
    have hunder := eq_under_of_locate_join h hs
    rw [Spot.under, get?_dropBelow hkey, if_pos (List.isPrefixOf_iff_prefix.mpr List.prefix_rfl)]
      at hunder
    exact hfree _ hunder

/-- Where nothing is removed there is nothing or a file, and nothing if that is the reason. -/
theorem exists_of_removeAll_error (h : Plain name) {c : IoCause}
    (hremove : t.removeAll here (Path.join root name) = .error c) :
    t.exists here (Path.join root name) = t.isFile here (Path.join root name) ∧
      (c = .number Errno.absent → t.isFile here (Path.join root name) = false) := by
  cases hs : t.locate here (Path.join root name) with
  | error c' => simp [FileTree.exists, isFile, entryAt?, hs]
  | ok s =>
    have hunder := eq_under_of_locate_join h hs
    rw [removeAll, hs] at hremove
    simp only [FileTree.exists, isFile, entryAt?, hs]
    cases hget : t.get? (keyOf here (Path.join root name)) with
    | none =>
      rw [hunder, Spot.under, hget]
      exact ⟨rfl, fun _ => rfl⟩
    | some e =>
      rw [Spot.under, hget] at hunder
      subst hunder
      cases e with
      | directory => cases hremove
      | file octets =>
        refine ⟨rfl, fun hc => ?_⟩
        cases hremove
        exact absurd hc (by decide)

theorem get?_of_not_exists (hk : t.locate here path = .ok (Spot.under t k))
    (h : t.exists here path = false) : t.get? k = none := by
  cases hget : t.get? k with
  | none => rfl
  | some e => simp [FileTree.exists, entryAt?, hk, Spot.under, hget] at h

theorem get?_of_removeAll_absent (hk : t.locate here path = .ok (Spot.under t k))
    (h : t.removeAll here path = .error (.number Errno.absent)) : t.get? k = none := by
  rw [removeAll, hk, Spot.under] at h
  cases hget : t.get? k with
  | none => rfl
  | some e =>
    rw [hget] at h
    cases e with
    | directory => cases h
    | file octets =>
      have hn : Errno.notDirectory = Errno.absent := IoCause.number.inj (Except.error.inj h)
      exact absurd hn (by decide)

/-! ## Trees that hang together -/

/-- Whatever is there lies in directories that are there. -/
def Grounded (t : FileTree) : Prop :=
  ∀ k name, (t.get? (k ++ [name])).isSome → t.get? k = some .directory

/-- It is enough to look at the entries. -/
theorem grounded_of_entries (h : ∀ x ∈ t.entries, t.get? x.1.dropLast = some .directory) :
    t.Grounded := by
  intro k name hsome
  have hlookup : (t.entries.lookup (k ++ [name])).isSome := by
    have hne : (k ++ [name]).isEmpty = false := by simp
    rwa [get?, hne] at hsome
  obtain ⟨x, hx, hkey⟩ := List.lookup_isSome_iff.mp hlookup
  have hk := h x hx
  rwa [← beq_iff_eq.mp hkey, List.dropLast_concat] at hk

/-- Nothing lies below what is not there. -/
theorem Grounded.get?_below (ht : t.Grounded) (hk : t.get? k = none) {j : Key} (hj : k <+: j) :
    t.get? j = none := by
  obtain ⟨names, rfl⟩ := hj
  induction names generalizing k with
  | nil => rwa [List.append_nil]
  | cons name names ih =>
    rw [List.append_cons]
    refine ih (Option.not_isSome_iff_eq_none.mp fun hsome => ?_)
    rw [ht k name hsome] at hk
    cases hk

end FileTree

/-! ## On a machine -/

namespace Machine

variable {path : String} {m m' : Machine} {r : Except Error Unit}

theorem run_makeDirectories (h : (makeDirectories path).run m = (r, m')) :
    r = (m.files.makeDirectories m.directory path).1.mapError .io ∧
      m' = { m with files := (m.files.makeDirectories m.directory path).2 } := by
  cases h
  exact ⟨rfl, rfl⟩

/-- Removing either removes what the path leads to or changes nothing; where nothing was removed and no
error is given, there was nothing. -/
theorem run_removeIfPresent (h : (removeIfPresent path).run m = (r, m')) :
    m' = { m with files := m.files.dropBelow (keyOf m.directory path) } ∨
      m' = m ∧
        (r = .ok () → m.files.removeAll m.directory path = .error (.number Errno.absent)) := by
  simp only [removeIfPresent, Act.run, Act.of] at h
  cases hremove : m.files.removeAll m.directory path with
  | ok t =>
    rw [hremove] at h
    cases h
    rw [FileTree.eq_of_removeAll hremove]
    exact Or.inl rfl
  | error c =>
    rw [hremove] at h
    refine Or.inr ?_
    cases c with
    | number n =>
      cases h
      refine ⟨rfl, fun hr => ?_⟩
      by_cases hn : n = Errno.absent
      · rw [hn]
      · rw [if_neg hn] at hr
        cases hr
    | _ =>
      cases h
      exact ⟨rfl, nofun⟩

theorem removeIfPresent_of_error {c : IoCause}
    (h : m.files.removeAll m.directory path = .error c) :
    (removeIfPresent path).run m =
      (if c = .number Errno.absent then .ok () else .error (.io c), m) := by
  simp only [removeIfPresent, Act.run, Act.of, h]
  cases c with
  | number n => simp only [IoCause.number.injEq]
  | _ => rfl

/-- **Removing succeeds with nothing left, or it fails and changes nothing.** It fails in the face of a
file, and of nothing else that is there. -/
theorem removeIfPresent_join {name root : String} (h : Plain name)
    (hrun : (removeIfPresent (Path.join root name)).run m = (r, m')) :
    r = .ok () ∧ m.files.isFile m.directory (Path.join root name) = false ∧
        m'.files.exists m'.directory (Path.join root name) = false ∨
      r ≠ .ok () ∧ m' = m ∧
        m.files.exists m.directory (Path.join root name) =
          m.files.isFile m.directory (Path.join root name) := by
  cases hremove : m.files.removeAll m.directory (Path.join root name) with
  | ok t =>
    simp only [removeIfPresent, Act.run, Act.of, hremove] at hrun
    cases hrun
    obtain ⟨hfile, hexists⟩ := FileTree.not_exists_of_removeAll h hremove
    exact Or.inl ⟨rfl, hfile, hexists⟩
  | error c =>
    obtain ⟨hexists, habsent⟩ := FileTree.exists_of_removeAll_error h hremove
    rw [removeIfPresent_of_error hremove] at hrun
    cases hrun
    by_cases hc : c = .number Errno.absent
    · exact Or.inl ⟨if_pos hc, habsent hc, hexists.trans (habsent hc)⟩
    · refine Or.inr ⟨?_, rfl, hexists⟩
      rw [if_neg hc]
      nofun

/-- **Removing leaves alone whatever lies elsewhere.** -/
theorem get?_removeIfPresent (h : (removeIfPresent path).run m = (r, m')) {k : Key}
    (hk : ¬keyOf m.directory path <+: k) : m'.files.get? k = m.files.get? k := by
  rcases run_removeIfPresent h with rfl | ⟨rfl, -⟩
  · exact FileTree.get?_dropBelow_of_not_below hk
  · rfl

variable {name root : String}

/-- **A directory that was made and is removed again leaves the files as they were**, whatever was done
in it meanwhile. -/
theorem get?_restored (h : Plain name) (hground : m.files.Grounded)
    (hroot : m.files.exists m.directory root = true)
    (hnew : m.files.exists m.directory (Path.join root name) = false) {m₁ m₂ : Machine}
    (hmake : (makeDirectories (Path.join root name)).run m = (.ok (), m₁)) {files : FileTree}
    (hfiles : files.Grounded)
    (hinside : ∀ k, ¬keyOf m.directory (Path.join root name) <+: k →
      files.get? k = m₁.files.get? k)
    (hremove : (removeIfPresent (Path.join root name)).run { m₁ with files } = (.ok (), m₂))
    (k : Key) : m₂.files.get? k = m.files.get? k := by
  obtain ⟨hok, rfl⟩ := run_makeDirectories hmake
  rcases FileTree.locate_join h hroot with ⟨c, hc, herror⟩ | hlocate
  · rw [FileTree.makeDirectories_of_error hc herror] at hok
    cases hok
  have hplace := hlocate m.files fun _ hk => hk
  have hfree := FileTree.get?_of_not_exists hplace hnew
  rw [Spot.under, hfree] at hplace
  have hkey : keyOf m.directory (Path.join root name) ≠ [] := by
    rw [keyOf_join h]
    simp
  have houtside (j : Key) (hj : ¬keyOf m.directory (Path.join root name) <+: j) :
      files.get? j = m.files.get? j := by
    have hne : j ≠ keyOf m.directory (Path.join root name) := by
      rintro rfl
      exact hj List.prefix_rfl
    rw [hinside j hj, FileTree.makeDirectories_of_free hplace, FileTree.get?_put hkey, if_neg hne]
  -- The way to the root does not lead through the new directory, since nothing was there before.
  have hdirectories (j : Key) (hj : m.files.get? j = some .directory) :
      files.get? j = some .directory := by
    rwa [houtside j fun hbelow => ?_]
    rw [hground.get?_below hfree hbelow] at hj
    cases hj
  by_cases hk : keyOf m.directory (Path.join root name) <+: k
  · rw [hground.get?_below hfree hk]
    rcases run_removeIfPresent hremove with rfl | ⟨rfl, habsent⟩
    · have hk' : k ≠ [] := by
        rintro rfl
        exact hkey (List.prefix_nil.mp hk)
      exact (FileTree.get?_dropBelow hk').trans (if_pos (List.isPrefixOf_iff_prefix.mpr hk))
    · exact hfiles.get?_below
        (FileTree.get?_of_removeAll_absent (hlocate files hdirectories) (habsent rfl)) hk
  · rw [get?_removeIfPresent hremove hk, houtside k hk]

end Machine
end Acceptance.Host
