import Acceptance.Proofs.Record.Matching
import Acceptance.Proofs.Text.Octets
import Mathlib.Data.List.Dedup
import Mathlib.Data.List.Lemmas

/-!
# What is missing and what is unexpected

Comparing records takes the difference of two multisets of fingerprints, both ways.

* `tally`, `group`: the number of records with a fingerprint, and these records.
* `surplus`: the records of which enough had come before.
* `under`: the records that stand beside a fingerprint.
* `leftover`: the expected records that are left, listed by their fingerprints.
* `ascending`: the fingerprints of some records, in the order of their octets.

Results:
* `under_settle`: of each fingerprint the first records are left, as many as nothing came for.
* `settle_surplus`: what is unexpected are the records of which enough had come before.
* `eq_flatMap_filter`, `filter_mergeSort`: a sorted list is put together from its groups, and sorting
  leaves each group as it is.
* `missing_eq_flatMap`, `tally_missing`, `tally_unexpected`: what is missing, group by group, and how
  often each fingerprint is missing or unexpected.
* `compare_difference`: what is missing and what is unexpected.
-/

namespace Acceptance.Record

open Text.Utf8 (encode encode_lt_iff)

/-- How many of some records have a fingerprint. -/
def tally (key : String) (vs : List Json) : Nat := (vs.map fingerprint).count key

/-- The records with a fingerprint, in their order. -/
def group (key : String) (vs : List Json) : List Json := vs.filter fun v => fingerprint v == key

/-- The actual records before which as many of their fingerprint had come already as are expected. -/
def surplus (expected actual : List Json) : List Json :=
  (actual.zipIdx.filter fun x =>
    tally (fingerprint x.1) expected ≤ tally (fingerprint x.1) (actual.take x.2)).map (·.1)

/-- The records that stand beside a fingerprint, with it. -/
def under (key : String) (ps : List (String × Json)) : List (String × Json) :=
  ps.filter fun p => p.1 == key

/-! ## Settling, one fingerprint at a time -/

theorem length_under (key : String) (ps : List (String × Json)) :
    (under key ps).length = (keys ps).count key := by
  rw [under, keys, List.count_eq_countP, List.countP_map, List.countP_eq_length_filter]
  rfl

theorem under_eq_nil_iff {key : String} {ps : List (String × Json)} :
    under key ps = [] ↔ key ∉ keys ps := by
  rw [← List.length_eq_zero_iff, length_under, List.count_eq_zero]

theorem under_eq_nil_of_cancel {key : String} {ps : List (String × Json)}
    (h : cancel key ps = none) : under key ps = [] :=
  under_eq_nil_iff.mpr (cancel_eq_none_iff.mp h)

theorem under_ne_nil_of_cancel {key : String} {ps qs : List (String × Json)}
    (h : cancel key ps = some qs) : under key ps ≠ [] := by
  rw [Ne, under_eq_nil_iff, ← cancel_eq_none_iff, h]
  exact Option.some_ne_none qs

/-- What is cancelled is the last record of its fingerprint. -/
theorem under_cancel {key : String} {ps qs : List (String × Json)} (h : cancel key ps = some qs)
    (k : String) :
    under k qs = if k = key then (under k ps).dropLast else under k ps := by
  induction ps generalizing qs with
  | nil => cases h
  | cons p r ih =>
    unfold cancel at h
    split at h
    · rename_i r' hr
      obtain rfl := Option.some.inj h
      have hkey : under key r ≠ [] := under_ne_nil_of_cancel hr
      have htail := ih hr
      simp only [under, List.filter_cons] at htail ⊢
      by_cases hp : p.1 = k
      · by_cases hk : k = key
        · subst hk
          have hne : r.filter (fun q => q.1 == k) ≠ [] := hkey
          simp [hp, htail, List.dropLast_cons_of_ne_nil hne]
        · simp [hp, htail, hk]
      · simp [hp, htail]
    · rename_i hr
      split at h
      · rename_i hp
        obtain rfl := Option.some.inj h
        have hnone : under key r = [] := under_eq_nil_of_cancel hr
        by_cases hk : k = key
        · subst hk
          simp only [under] at hnone ⊢
          simp [hp, hnone]
        · have hpk : p.1 ≠ k := fun h => hk (h.symm.trans hp)
          simp [under, hk, hpk]
      · cases h

theorem tally_cons (k : String) (v : Json) (vs : List Json) :
    tally k (v :: vs) = tally k vs + if fingerprint v = k then 1 else 0 := by
  simp [tally, List.count_cons]

/-- **Of each fingerprint the first records are left**, as many as no actual record came for. -/
theorem under_settle (k : String) (ps : List (String × Json)) (vs : List Json) :
    under k (settle ps vs).1 = (under k ps).take ((under k ps).length - tally k vs) := by
  induction vs generalizing ps with
  | nil => simp [settle, tally]
  | cons v r ih =>
    unfold settle
    rw [tally_cons]
    split
    · rename_i qs hqs
      rw [ih, under_cancel hqs]
      by_cases hk : fingerprint v = k
      · subst hk
        rw [if_pos rfl, if_pos rfl, List.dropLast_eq_take, List.take_take, List.length_take]
        congr 1
        omega
      · rw [if_neg hk, if_neg (Ne.symm hk), Nat.add_zero]
    · rename_i hnone
      rw [ih]
      by_cases hk : fingerprint v = k
      · rw [under_eq_nil_of_cancel (hk ▸ hnone), List.take_nil, List.take_nil]
      · rw [if_neg hk, Nat.add_zero]

/-- Settling the rest of some records: those of a fingerprint cancel nothing more where enough
of them had come. -/
theorem settle_beyond {expected done : List Json} {ps : List (String × Json)}
    (h : ∀ k, (under k ps).length = tally k expected - tally k done) (rest : List Json) :
    (settle ps rest).2 = ((rest.zipIdx done.length).filter fun x =>
      tally (fingerprint x.1) expected ≤ tally (fingerprint x.1) ((done ++ rest).take x.2)).map
        (·.1) := by
  induction rest generalizing done ps with
  | nil => rfl
  | cons v r ih =>
    have hrest : done ++ v :: r = (done ++ [v]) ++ r := by simp
    have htally (k : String) :
        tally k (done ++ [v]) = tally k done + if fingerprint v = k then 1 else 0 := by
      simp [tally, List.count_singleton]
    have htake : (done ++ v :: r).take done.length = done := by simp
    have hlength : done.length + 1 = (done ++ [v]).length := by simp
    rw [List.zipIdx_cons, List.filter_cons, htake, hrest, hlength]
    unfold settle
    split
    · rename_i qs hqs
      have hcount := h (fingerprint v)
      have hpos := List.length_pos_iff.mpr (under_ne_nil_of_cancel hqs)
      rw [if_neg (by simp only [decide_eq_true_eq]; omega)]
      refine ih fun k => ?_
      rw [under_cancel hqs, htally]
      by_cases hk : k = fingerprint v
      · subst hk
        rw [if_pos rfl, if_pos rfl, List.length_dropLast]
        omega
      · rw [if_neg hk, if_neg (Ne.symm hk), h, Nat.add_zero]
    · rename_i hnone
      have hcount := h (fingerprint v)
      rw [under_eq_nil_of_cancel hnone, List.length_nil] at hcount
      rw [if_pos (by simp only [decide_eq_true_eq]; omega), List.map_cons]
      refine congrArg (v :: ·) (ih fun k => ?_)
      rw [htally]
      by_cases hk : fingerprint v = k
      · subst hk
        rw [if_pos rfl, under_eq_nil_of_cancel hnone, List.length_nil]
        omega
      · rw [if_neg hk, Nat.add_zero, h]

theorem under_withFingerprints (k : String) (vs : List Json) :
    under k (vs.map fun v => (fingerprint v, v)) =
      (group k vs).map fun v => (fingerprint v, v) := by
  rw [under, group, List.filter_map]
  rfl

theorem length_group (k : String) (vs : List Json) : (group k vs).length = tally k vs := by
  rw [group, tally, List.count_eq_countP, List.countP_map, List.countP_eq_length_filter]
  rfl

/-- **What is unexpected are the records of which enough had come before.** -/
theorem settle_surplus (expected actual : List Json) :
    (settle (expected.map fun v => (fingerprint v, v)) actual).2 = surplus expected actual := by
  have hstart (k : String) : (under k (expected.map fun v => (fingerprint v, v))).length =
      tally k expected - tally k [] := by
    rw [under_withFingerprints, List.length_map, length_group]
    rfl
  exact settle_beyond hstart actual

/-! ## Sorting -/

section Sorting

variable {α κ : Type} [LinearOrder κ] {key : α → κ} {xs : List α}

/-- A sorted list begins with the group of its least key. -/
theorem eq_filter_append_filter (h : xs.Pairwise fun a b => key a ≤ key b) {k : κ}
    (hk : ∀ x ∈ xs, k ≤ key x) :
    xs = xs.filter (fun x => key x == k) ++ xs.filter fun x => key x != k := by
  induction xs with
  | nil => rfl
  | cons x xs ih =>
    rw [List.pairwise_cons] at h
    by_cases hx : key x = k
    · rw [List.filter_cons_of_pos (by simpa using hx), List.filter_cons_of_neg (by simpa using hx),
        List.cons_append, ← ih h.2 fun y hy => hk y (List.mem_cons_of_mem x hy)]
    · -- The keys behind `x` are as large as that of `x`, and so larger than `k`.
      have hlt (y : α) (hy : y ∈ x :: xs) : key y ≠ k := by
        have hkx : k < key x := lt_of_le_of_ne (hk x List.mem_cons_self) (Ne.symm hx)
        rcases List.mem_cons.mp hy with rfl | hy
        · exact hx
        · exact (hkx.trans_le (h.1 y hy)).ne'
      rw [List.filter_eq_nil_iff.mpr fun y hy => by simpa using hlt y hy, List.nil_append,
        List.filter_eq_self.mpr fun y hy => by simpa using hlt y hy]

/-- **A sorted list is put together from its groups**, in the order of their keys. -/
theorem eq_flatMap_filter (h : xs.Pairwise fun a b => key a ≤ key b) {ks : List κ}
    (hks : ks.Pairwise (· < ·)) (hmem : ∀ x ∈ xs, key x ∈ ks) :
    xs = ks.flatMap fun k => xs.filter fun x => key x == k := by
  induction ks generalizing xs with
  | nil =>
    cases xs with
    | nil => rfl
    | cons x xs => exact absurd (hmem x List.mem_cons_self) List.not_mem_nil
  | cons k ks ih =>
    rw [List.pairwise_cons] at hks
    have hleast (x : α) (hx : x ∈ xs) : k ≤ key x := by
      rcases List.mem_cons.mp (hmem x hx) with he | hm
      · exact he.ge
      · exact (hks.1 _ hm).le
    have hothers (x : α) (hx : x ∈ xs.filter fun x => key x != k) : key x ∈ ks := by
      rw [List.mem_filter, bne_iff_ne] at hx
      exact (List.mem_cons.mp (hmem x hx.1)).resolve_left hx.2
    have hgroup (k' : κ) (hk' : k' ∈ ks) :
        (xs.filter fun x => key x != k).filter (fun x => key x == k') =
          xs.filter fun x => key x == k' := by
      rw [List.filter_filter]
      refine List.filter_congr fun x _ => ?_
      by_cases hx : key x = k'
      · simp [hx, (hks.1 k' hk').ne']
      · simp [hx]
    rw [List.flatMap_cons]
    conv_lhs => rw [eq_filter_append_filter h hleast, ih (h.filter _) hks.2 hothers]
    exact congrArg _ (List.flatMap_congr hgroup)

theorem keyed_le_trans (a b c : α) (hab : decide (key a ≤ key b) = true)
    (hbc : decide (key b ≤ key c) = true) : decide (key a ≤ key c) = true :=
  decide_eq_true ((of_decide_eq_true hab).trans (of_decide_eq_true hbc))

theorem keyed_le_total (a b : α) :
    (decide (key a ≤ key b) || decide (key b ≤ key a)) = true := by
  simpa using le_total (key a) (key b)

/-- **Sorting leaves each group as it is.** -/
theorem filter_mergeSort (k : κ) (xs : List α) :
    (xs.mergeSort fun a b => key a ≤ key b).filter (fun x => key x == k) =
      xs.filter fun x => key x == k := by
  have hsorted :
      (xs.filter fun x => key x == k).Pairwise fun a b => decide (key a ≤ key b) = true := by
    refine List.pairwise_of_forall_mem_list fun a ha b hb => ?_
    rw [beq_iff_eq.mp (List.mem_filter.mp ha).2, beq_iff_eq.mp (List.mem_filter.mp hb).2]
    exact decide_eq_true le_rfl
  have hsub := List.sublist_mergeSort keyed_le_trans keyed_le_total hsorted List.filter_sublist
  have hfilter := hsub.filter fun x => key x == k
  rw [List.filter_filter] at hfilter
  simp only [Bool.and_self] at hfilter
  exact (hfilter.eq_of_length ((List.mergeSort_perm xs _).filter _).length_eq.symm).symm

theorem pairwise_mergeSort_key (xs : List α) :
    (xs.mergeSort fun a b => key a ≤ key b).Pairwise fun a b => key a ≤ key b := by
  exact (List.pairwise_mergeSort keyed_le_trans keyed_le_total xs).imp of_decide_eq_true

end Sorting

/-! ## The difference -/

/-- The expected records that are left, listed by their fingerprints. -/
def leftover (expected actual : List Json) : List (String × Json) :=
  (settle (expected.map fun v => (fingerprint v, v)) actual).1.mergeSort fun a b => a.1 ≤ b.1

theorem missing_eq (expected actual : List Json) :
    (compare expected actual).missing = (leftover expected actual).map (·.2) := rfl

theorem unexpected_eq (expected actual : List Json) :
    (compare expected actual).unexpected = surplus expected actual :=
  settle_surplus expected actual

theorem under_leftover (k : String) (expected actual : List Json) :
    (under k (leftover expected actual)).map (·.2) =
      (group k expected).take (tally k expected - tally k actual) := by
  have hunder : under k (leftover expected actual) =
      under k (settle (expected.map fun v => (fingerprint v, v)) actual).1 :=
    filter_mergeSort k _
  rw [hunder, under_settle, under_withFingerprints, List.length_map, length_group, List.map_take,
    List.map_map]
  exact congrArg _ (List.map_id _)

/-- What is missing, listed by fingerprints in the order of their octets. -/
theorem missing_eq_flatMap (expected actual : List Json) {ks : List String}
    (hks : ks.Pairwise (· < ·)) (hmem : ∀ k, k ∈ ks ↔ k ∈ expected.map fingerprint) :
    (compare expected actual).missing =
      ks.flatMap fun k => (group k expected).take (tally k expected - tally k actual) := by
  have hkeys : ∀ p ∈ leftover expected actual, p.1 ∈ ks := by
    intro p hp
    rw [hmem, ← keys_withFingerprints]
    exact keys_settle_subset _ actual (List.mem_map_of_mem (List.mem_mergeSort.mp hp))
  have hparts : leftover expected actual = ks.flatMap fun k => under k (leftover expected actual) :=
    eq_flatMap_filter (pairwise_mergeSort_key _) hks hkeys
  rw [missing_eq, hparts, List.map_flatMap]
  exact List.flatMap_congr fun k _ => under_leftover k expected actual

/-- The fingerprints of some records in ascending order, each once. -/
def ascending (vs : List Json) : List String := (vs.map fingerprint).dedup.mergeSort (· ≤ ·)

theorem mem_ascending {k : String} {vs : List Json} : k ∈ ascending vs ↔ k ∈ vs.map fingerprint := by
  rw [ascending, List.mem_mergeSort, List.mem_dedup]

theorem pairwise_ascending (vs : List Json) : (ascending vs).Pairwise (· < ·) := by
  have hle : (ascending vs).Pairwise (· ≤ ·) := @pairwise_mergeSort_key _ _ _ id _
  have hnodup : (ascending vs).Nodup :=
    (List.mergeSort_perm _ _).nodup_iff.mpr (List.nodup_dedup _)
  exact (hle.and hnodup).imp fun h => lt_of_le_of_ne h.1 h.2

/-! ## Counting -/

theorem cancel_sublist {key : String} {ps qs : List (String × Json)} (h : cancel key ps = some qs) :
    qs.Sublist ps := by
  induction ps generalizing qs with
  | nil => cases h
  | cons p r ih =>
    unfold cancel at h
    split at h
    · rename_i r' hr
      obtain rfl := Option.some.inj h
      exact (ih hr).cons_cons p
    · split at h
      · obtain rfl := Option.some.inj h
        exact List.sublist_cons_self p _
      · cases h

theorem settle_sublist (ps : List (String × Json)) (vs : List Json) :
    (settle ps vs).1.Sublist ps := by
  induction vs generalizing ps with
  | nil => exact List.Sublist.refl _
  | cons v r ih =>
    unfold settle
    split
    · rename_i qs hqs
      exact (ih qs).trans (cancel_sublist hqs)
    · exact ih ps

/-- What is left still stands beside its own fingerprint. -/
theorem fingerprints_missing (expected actual : List Json) :
    ((compare expected actual).missing.map fingerprint).Perm
      (keys (settle (expected.map fun v => (fingerprint v, v)) actual).1) := by
  have hbeside : ∀ p ∈ leftover expected actual, fingerprint p.2 = p.1 := by
    intro p hp
    have hp' := (settle_sublist _ actual).subset (List.mem_mergeSort.mp hp)
    obtain ⟨v, -, rfl⟩ := List.mem_map.mp hp'
    rfl
  have hkeys :
      (compare expected actual).missing.map fingerprint = keys (leftover expected actual) := by
    rw [missing_eq, List.map_map]
    exact List.map_congr_left hbeside
  rw [hkeys]
  exact (List.mergeSort_perm _ _).map _

theorem tally_missing (k : String) (expected actual : List Json) :
    tally k (compare expected actual).missing = tally k expected - tally k actual := by
  rw [tally, (fingerprints_missing expected actual).count_eq, ← length_under, under_settle,
    List.length_take, under_withFingerprints, List.length_map, length_group]
  omega

theorem tally_unexpected (k : String) (expected actual : List Json) :
    tally k (compare expected actual).unexpected = tally k actual - tally k expected := by
  -- Both sides of `settle_perm` hold the fingerprint as often.
  have hsettle := (settle_perm (expected.map fun v => (fingerprint v, v)) actual).count_eq k
  rw [List.count_append, List.count_append, keys_withFingerprints,
    ← (fingerprints_missing expected actual).count_eq] at hsettle
  have hmissing := tally_missing k expected actual
  simp only [tally] at hmissing ⊢
  have hunexpected : (compare expected actual).unexpected =
      (settle (expected.map fun v => (fingerprint v, v)) actual).2 := rfl
  rw [hunexpected]
  omega

/-- **What is missing and what is unexpected.** Of each fingerprint the first records are missing, as
many as are expected more often than they came; they are listed by their fingerprints, in the order of
the octets. Those records are unexpected before which as many of their fingerprint had come already as
are expected. So records match exactly if their fingerprints are the same multiset, the order of the
actual records makes no difference to what is missing, and with the sides changed what is missing
is what was unexpected. -/
theorem compare_difference (expected actual : List Json) :
    (∃ ks : List String, ks.Pairwise (fun a b => encode a < encode b) ∧
      (∀ k, k ∈ ks ↔ k ∈ expected.map fingerprint) ∧
      (compare expected actual).missing =
        ks.flatMap fun k => (group k expected).take (tally k expected - tally k actual)) ∧
    (compare expected actual).unexpected = surplus expected actual ∧
    ((compare expected actual).isMatch = true ↔
      (expected.map fingerprint).Perm (actual.map fingerprint)) ∧
    (∀ other, actual.Perm other →
      (compare expected other).missing = (compare expected actual).missing) ∧
    ((compare actual expected).missing.map fingerprint).Perm
      ((compare expected actual).unexpected.map fingerprint) ∧
    ((compare actual expected).unexpected.map fingerprint).Perm
      ((compare expected actual).missing.map fingerprint) := by
  have hmissing (actual : List Json) :=
    missing_eq_flatMap expected actual (pairwise_ascending expected) fun _ => mem_ascending
  refine ⟨⟨ascending expected, ?_, fun _ => mem_ascending, hmissing actual⟩,
    unexpected_eq expected actual, isMatch_iff_perm expected actual, fun other hother => ?_, ?_, ?_⟩
  · exact (pairwise_ascending expected).imp encode_lt_iff.mpr
  · rw [hmissing, hmissing]
    have htally (k : String) : tally k other = tally k actual :=
      (hother.map fingerprint).symm.count_eq k
    simp only [htally]
  · rw [List.perm_iff_count]
    intro k
    exact (tally_missing k actual expected).trans (tally_unexpected k expected actual).symm
  · rw [List.perm_iff_count]
    intro k
    exact (tally_unexpected k actual expected).trans (tally_missing k expected actual).symm

end Acceptance.Record
