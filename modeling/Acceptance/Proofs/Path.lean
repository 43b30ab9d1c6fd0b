import Acceptance.Path

/-!
# Parts of joined paths

* `Plain`: a name that is a part of its own.
* `names`: the parts that some pieces come to.

Results:
* `pieces_append`: a slash parts the pieces before it from those behind it.
* `pieces_join`, `exists_pieces_join`: the pieces of a plain name seen from a path.
* `parts_join`: its parts are those of the path, and the name.
* `parts_join_congr`: so that they do not depend on how the path is spelled.
-/

namespace Acceptance.Path

/-- A name that is a part of its own: it holds no slash, and leads neither to where it is nor up. -/
structure Plain (name : String) : Prop where
  ne_empty : name.toList ≠ []
  no_slash : '/' ∉ name.toList
  ne_point : name.toList ≠ ['.']
  ne_points : name.toList ≠ ['.', '.']

/-! ## Pieces -/

theorem pieces_ne_nil (s : List Char) : pieces s ≠ [] := by
  fun_cases pieces s <;> simp_all

theorem pieces_cons {c : Char} (h : c ≠ '/') (s : List Char) :
    pieces (c :: s) = (c :: (pieces s).headD []) :: (pieces s).tail := by
  rw [pieces.eq_3 _ _ h]
  cases pieces s <;> rfl

/-- A slash parts the pieces before it from those behind it. -/
theorem pieces_append (s t : List Char) : pieces (s ++ '/' :: t) = pieces s ++ pieces t := by
  induction s with
  | nil => rfl
  | cons c s ih =>
    by_cases hc : c = '/'
    · subst hc
      exact congrArg ([] :: ·) ih
    · have hne := pieces_ne_nil s
      rw [List.cons_append, pieces_cons hc, pieces_cons hc, ih]
      cases hs : pieces s with
      | nil => exact absurd hs hne
      | cons p ps => rfl

theorem pieces_of_no_slash {s : List Char} (h : '/' ∉ s) : pieces s = [s] := by
  induction s with
  | nil => rfl
  | cons c s ih =>
    have hc : c ≠ '/' := fun hc => h (hc ▸ List.mem_cons_self)
    rw [pieces_cons hc, ih fun hs => h (List.mem_cons_of_mem c hs)]
    rfl

variable {name : String}

theorem Plain.not_absolute (h : Plain name) : isAbsolute name = false := by
  cases hs : name.toList with
  | nil => exact absurd hs h.ne_empty
  | cons c s =>
    have hc : c ≠ '/' := fun hc => h.no_slash (by rw [hs, hc]; exact List.mem_cons_self)
    simp [isAbsolute, hs, hc]

/-- A plain name seen from a path: behind a slash that the path ends with, or behind one more. -/
theorem pieces_join (h : Plain name) {root : String} (hroot : root ≠ "") :
    isAbsolute (join root name) = isAbsolute root ∧
      (pieces (join root name).toList = pieces root.toList ++ [name.toList] ∨
        ∃ ps, pieces root.toList = ps ++ [[]] ∧
          pieces (join root name).toList = ps ++ [name.toList]) := by
  have hne : root.toList ≠ [] := by simpa using hroot
  have hname := pieces_of_no_slash h.no_slash
  have hhead (s : List Char) : (root.toList ++ s).head? = root.toList.head? := by
    cases hr : root.toList with
    | nil => exact absurd hr hne
    | cons c r => rfl
  have hempty : root.isEmpty = false := by simpa using hroot
  simp only [join, h.not_absolute, hempty, Bool.or_self, Bool.false_eq_true, if_false]
  split
  · rename_i hlast
    obtain ⟨s, hs⟩ := List.getLast?_eq_some_iff.mp (beq_iff_eq.mp hlast)
    refine ⟨by simp [isAbsolute, hhead], Or.inr ⟨pieces s, ?_, ?_⟩⟩
    · rw [hs, pieces_append]
      rfl
    · rw [String.toList_append, hs, List.append_assoc]
      show pieces (s ++ '/' :: name.toList) = _
      rw [pieces_append, hname]
  · refine ⟨by simp [isAbsolute, hhead], Or.inl ?_⟩
    rw [String.toList_append, String.toList_append, List.append_assoc]
    show pieces (root.toList ++ '/' :: name.toList) = _
    rw [pieces_append, hname]

/-- A plain name seen from any path is the last piece. -/
theorem exists_pieces_join (h : Plain name) (root : String) :
    ∃ ps, pieces (join root name).toList = ps ++ [name.toList] := by
  by_cases hroot : root = ""
  · subst hroot
    have hjoin : join "" name = name := by simp [join]
    exact ⟨[], by rw [hjoin, pieces_of_no_slash h.no_slash, List.nil_append]⟩
  · obtain ⟨-, hp | ⟨ps, -, hp⟩⟩ := pieces_join h hroot
    · exact ⟨_, hp⟩
    · exact ⟨ps, hp⟩

/-! ## Parts -/

/-- The parts that some pieces come to. -/
def names (absolute : Bool) (ps : List (List Char)) : List String :=
  (ps.zipIdx.filter fun x => counts absolute x.2 x.1).map fun x => String.ofList x.1

theorem parts_eq (p : String) : parts p = (isAbsolute p, names (isAbsolute p) (pieces p.toList)) := by
  simp only [parts, counting, names, List.filter_map, List.map_map]
  rfl

theorem names_append_plain (h : Plain name) (absolute : Bool) (ps : List (List Char)) :
    names absolute (ps ++ [name.toList]) = names absolute ps ++ [name] := by
  have hcounts (i : Nat) : counts absolute i name.toList = true := by
    simp [counts, h.ne_empty, h.ne_point]
  simp [names, List.zipIdx_append, List.filter_append, hcounts]

theorem names_append_empty (absolute : Bool) (ps : List (List Char)) :
    names absolute (ps ++ [[]]) = names absolute ps := by
  simp [names, List.zipIdx_append, List.filter_append, counts]

/-- **A plain name seen from a path is one more part.** -/
theorem parts_join (h : Plain name) (root : String) :
    parts (join root name) = ((parts root).1, (parts root).2 ++ [name]) := by
  by_cases hroot : root = ""
  · subst hroot
    have hjoin : join "" name = name := by simp [join]
    rw [hjoin, parts_eq, h.not_absolute, pieces_of_no_slash h.no_slash]
    exact congrArg (Prod.mk false) (names_append_plain h false [])
  · obtain ⟨habs, hpieces⟩ := pieces_join h hroot
    rw [parts_eq, parts_eq, habs]
    rcases hpieces with hp | ⟨ps, hroot, hp⟩
    · rw [hp, names_append_plain h]
    · rw [hp, hroot, names_append_plain h, names_append_empty]

theorem join_ne_empty (h : Plain name) (root : String) : join root name ≠ "" := by
  intro hjoin
  have hparts := congrArg Prod.snd (parts_join h root)
  rw [hjoin] at hparts
  exact absurd hparts.symm (by simp [parts, counting, pieces, counts])

theorem parts_join_congr (h : Plain name) {root root' : String} (hroot : parts root = parts root') :
    parts (join root name) = parts (join root' name) := by
  rw [parts_join h, parts_join h, hroot]

end Acceptance.Path
