import Acceptance.Record.Comparison

/-!
# Matching records

Comparing records settles them one by one. Nothing is lost on the way, and nothing that was not
expected is left to be expected.

Results:
* `settle_perm`, `settle_disjoint`: these two facts, of the fingerprints.
* `isMatch_iff_perm`: records match exactly if they have the same fingerprints, as often.
-/

namespace Acceptance.Record

/-- The fingerprints of records that stand beside them. -/
def keys (ps : List (String × Json)) : List String := ps.map (·.1)

theorem cancel_eq_none_iff {key : String} {ps : List (String × Json)} :
    cancel key ps = none ↔ key ∉ keys ps := by
  induction ps with
  | nil => simp [cancel, keys]
  | cons p r ih =>
    unfold cancel
    cases hr : cancel key r with
    | some r' =>
      have hm : key ∈ keys r := by
        by_cases hm : key ∈ keys r
        · exact hm
        · rw [ih.mpr hm] at hr
          cases hr
      simp only [reduceCtorEq, false_iff, Classical.not_not]
      exact List.mem_cons_of_mem _ hm
    | none =>
      have hm := ih.mp hr
      by_cases hp : p.1 = key
      · simp [keys, hp]
      · simp only [if_neg hp, true_iff]
        rintro h
        rcases List.mem_cons.mp h with h | h
        · exact hp h.symm
        · exact hm h

/-- What is cancelled is one record of the fingerprint. -/
theorem cancel_perm {key : String} {ps qs : List (String × Json)} (h : cancel key ps = some qs) :
    (keys ps).Perm (key :: keys qs) := by
  induction ps generalizing qs with
  | nil => simp [cancel] at h
  | cons p r ih =>
    unfold cancel at h
    split at h
    · rename_i r' hr
      obtain rfl := Option.some.inj h
      exact ((ih hr).cons p.1).trans (List.Perm.swap key p.1 (keys r'))
    · split at h
      · rename_i hp
        obtain rfl := Option.some.inj h
        rw [← hp]
        exact List.Perm.refl _
      · cases h

/-- **Nothing is lost**: what was expected and what is unexpected are together what is left and what
there was. -/
theorem settle_perm (ps : List (String × Json)) (vs : List Json) :
    (keys ps ++ (settle ps vs).2.map fingerprint).Perm
      (keys (settle ps vs).1 ++ vs.map fingerprint) := by
  induction vs generalizing ps with
  | nil => exact List.Perm.refl _
  | cons v r ih =>
    unfold settle
    split
    · rename_i qs hqs
      have hcancel := (cancel_perm hqs).append_right ((settle qs r).2.map fingerprint)
      exact hcancel.trans (((ih qs).cons _).trans List.perm_middle.symm)
    · exact List.perm_middle.trans (((ih ps).cons _).trans List.perm_middle.symm)

/-- What is left was expected. -/
theorem keys_settle_subset (ps : List (String × Json)) (vs : List Json) :
    keys (settle ps vs).1 ⊆ keys ps := by
  induction vs generalizing ps with
  | nil => exact List.Subset.refl _
  | cons v r ih =>
    unfold settle
    split
    · rename_i qs hqs
      intro k hk
      exact (cancel_perm hqs).mem_iff.mpr (List.mem_cons_of_mem _ (ih qs hk))
    · exact ih ps

/-- **Nothing that was expected is unexpected**: of a fingerprint that is left, no record came too
many. -/
theorem settle_disjoint (ps : List (String × Json)) (vs : List Json) {v : Json}
    (hv : v ∈ (settle ps vs).2) : fingerprint v ∉ keys (settle ps vs).1 := by
  induction vs generalizing ps with
  | nil => exact absurd hv List.not_mem_nil
  | cons w r ih =>
    unfold settle at hv ⊢
    split at hv
    · rename_i qs hqs
      exact ih qs hv
    · rename_i hnone
      rcases List.mem_cons.mp hv with rfl | hv
      · exact fun hk => cancel_eq_none_iff.mp hnone (keys_settle_subset ps r hk)
      · exact ih ps hv

theorem settle_eq_nil_iff (ps : List (String × Json)) (vs : List Json) :
    settle ps vs = ([], []) ↔ (keys ps).Perm (vs.map fingerprint) := by
  have hperm := settle_perm ps vs
  constructor
  · intro h
    simpa [h, keys] using hperm
  · intro h
    -- Both sides of `hperm` hold the same records besides those left and those unexpected.
    have hsame : ((settle ps vs).2.map fingerprint).Perm (keys (settle ps vs).1) :=
      (List.perm_append_left_iff (keys ps)).mp
        (hperm.trans (List.perm_append_comm.trans (h.symm.append_right _)))
    have hnone : (settle ps vs).2 = [] := by
      rw [List.eq_nil_iff_forall_not_mem]
      intro v hv
      exact settle_disjoint ps vs hv (hsame.mem_iff.mp (List.mem_map_of_mem hv))
    rw [hnone, List.map_nil, List.nil_perm, keys, List.map_eq_nil_iff] at hsame
    exact Prod.ext hsame hnone

theorem keys_withFingerprints (expected : List Json) :
    keys (expected.map fun v => (fingerprint v, v)) = expected.map fingerprint := by
  simp [keys, Function.comp_def]

/-- **Records match exactly if they have the same fingerprints, each as often.** -/
theorem isMatch_iff_perm (expected actual : List Json) :
    (compare expected actual).isMatch = true ↔
      (expected.map fingerprint).Perm (actual.map fingerprint) := by
  rw [Comparison.isMatch_iff, ← keys_withFingerprints, ← settle_eq_nil_iff]
  simp only [compare, List.map_eq_nil_iff, Prod.ext_iff]
  rw [← List.length_eq_zero_iff, List.length_mergeSort, List.length_eq_zero_iff]

end Acceptance.Record
