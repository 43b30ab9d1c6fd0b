import Acceptance.Act
import Acceptance.Schema

/-!
# Records that are there in full

Members that hold what a record asks for, in the order of its fields, are read into that record.

* `Distinct`: no name belongs to two fields.
* `Supplied`: members that hold the fields of a record one after another. Fields that need not be
  there may be left out.

Results:
* `readMembers_supplied`: what is read from such members.
* `record_supplied`: the record is read from them.
* `mapM_eq_ok`: a list is read from what its items are read from.
-/

namespace Acceptance.Schema

variable {ν ε σ : Type} {F : Format ν ε} {f : Field ν ε σ} {fields before : List (Field ν ε σ)}
  {ms : List (Except ε String × ν)} {draft final : σ} {name : String}

/-- No name belongs to two fields. -/
def Distinct (fields : List (Field ν ε σ)) : Prop :=
  fields.Pairwise fun f g => ∀ n ∈ f.names, n ∉ g.names

/-- Members hold the fields one after another, and reading each of them leads from one draft to the
next. A field that need not be there may be left out. -/
inductive Supplied : List (Field ν ε σ) → List (Except ε String × ν) → σ → σ → Prop
  | done {draft : σ} : Supplied [] [] draft draft
  | given {f : Field ν ε σ} {fs : List (Field ν ε σ)} {name : String} {n : ν}
      {ms : List (Except ε String × ν)} {draft next final : σ} (hname : name ∈ f.names)
      (hread : f.read n draft = .ok next) (h : Supplied fs ms next final) :
      Supplied (f :: fs) ((.ok name, n) :: ms) draft final
  | left {f : Field ν ε σ} {fs : List (Field ν ε σ)} {ms : List (Except ε String × ν)}
      {draft final : σ} (hf : f.required = false) (h : Supplied fs ms draft final) :
      Supplied (f :: fs) ms draft final

/-- A name is looked for behind the fields that do not have it. -/
theorem place?_append (hb : ∀ g ∈ before, name ∉ g.names) (hf : name ∈ f.names) :
    place? (before ++ f :: fields) name = some before.length := by
  have hnone : before.findIdx? (fun g => g.names.contains name) = none := by
    rw [List.findIdx?_eq_none_iff]
    intro g hg
    simpa using hb g hg
  have hsome : f.names.contains name = true := List.contains_iff_mem.mpr hf
  simp only [place?, List.findIdx?_append, hnone, List.findIdx?_cons, hsome, if_true]
  simp

/-- One member: its field is read, and its place has been seen from then on. -/
theorem readMembers_new {i : Nat} {n : ν} {seen : List Nat} (hplace : place? fields name = some i)
    (hnew : i ∉ seen) (hf : fields[i]? = some f) :
    readMembers F fields ((.ok name, n) :: ms) seen draft =
      f.read n draft >>= readMembers F fields ms (i :: seen) := by
  have hseen : seen.contains i = false := by simpa using hnew
  simp only [readMembers, bind, Except.bind, hplace, hseen, hf, Bool.false_eq_true, if_false]

/-- What is read from members that hold the fields behind `before`: the last draft, and besides the
places seen so far those of all fields that have to be there. -/
theorem readMembers_supplied (before : List (Field ν ε σ)) (seen : List Nat)
    (h : Supplied fields ms draft final) (hd : Distinct (before ++ fields))
    (hseen : ∀ i ∈ seen, i < before.length) :
    ∃ seen', readMembers F (before ++ fields) ms seen draft = .ok (seen', final) ∧ seen ⊆ seen' ∧
      ∀ i g, before.length ≤ i → (before ++ fields)[i]? = some g → g.required = true →
        i ∈ seen' := by
  -- Whether a field is given or left out, it goes to those before, and its place is behind all seen.
  induction h generalizing before seen with
  | done =>
    refine ⟨seen, rfl, List.Subset.refl seen, fun i g hi hg => ?_⟩
    rw [List.append_nil, List.getElem?_eq_none hi] at hg
    cases hg
  | @given f fs name n ms draft next final hname hread _ ih =>
    have happ : before ++ f :: fs = before ++ [f] ++ fs := List.append_cons before f fs
    have hlength : (before ++ [f]).length = before.length + 1 := List.length_append
    have hplace : place? (before ++ f :: fs) name = some before.length :=
      place?_append (fun g hg hn =>
        (List.pairwise_append.mp hd).2.2 g hg f List.mem_cons_self name hn hname) hname
    have hnew : before.length ∉ seen := fun hmem => Nat.lt_irrefl _ (hseen _ hmem)
    have hf : (before ++ f :: fs)[before.length]? = some f := by simp
    have hseen' : ∀ i ∈ before.length :: seen, i < (before ++ [f]).length := by
      rw [hlength]
      exact List.forall_mem_cons.mpr
        ⟨Nat.lt_succ_self _, fun i hi => Nat.lt_succ_of_lt (hseen i hi)⟩
    obtain ⟨seen', hrun, hkeep, hrequired⟩ := ih (before ++ [f]) _ (happ ▸ hd) hseen'
    rw [← happ] at hrun hrequired
    refine ⟨seen', ?_, fun i hi => hkeep (List.mem_cons_of_mem _ hi), fun i g hi hg hreq => ?_⟩
    · rw [readMembers_new hplace hnew hf, hread]
      exact hrun
    · rcases Nat.eq_or_lt_of_le hi with rfl | hlt
      · exact hkeep List.mem_cons_self
      · exact hrequired i g (hlength ▸ hlt) hg hreq
  | @left f fs ms draft final hf _ ih =>
    have happ : before ++ f :: fs = before ++ [f] ++ fs := List.append_cons before f fs
    have hlength : (before ++ [f]).length = before.length + 1 := List.length_append
    obtain ⟨seen', hrun, hkeep, hrequired⟩ := ih (before ++ [f]) seen (happ ▸ hd) fun i hi =>
      hlength ▸ Nat.lt_succ_of_lt (hseen i hi)
    rw [← happ] at hrun hrequired
    refine ⟨seen', hrun, hkeep, fun i g hi hg hreq => ?_⟩
    rcases Nat.eq_or_lt_of_le hi with rfl | hlt
    · obtain rfl : f = g := by simpa using hg
      rw [hf] at hreq
      cases hreq
    · exact hrequired i g (hlength ▸ hlt) hg hreq

/-- **A record is read from members that hold its fields**, each under a name of its own. -/
theorem record_supplied {n : ν} (hn : F.shape n = .members ms (.ok ())) (hd : Distinct fields)
    (h : Supplied fields ms draft final) : F.record fields draft n = .ok final := by
  obtain ⟨seen, hrun, -, hrequired⟩ :=
    readMembers_supplied (F := F) [] [] h hd (by simp)
  have hcomplete : complete fields seen = true := by
    rw [complete, List.all_eq_true]
    rintro ⟨f, i⟩ hfi
    have hf : fields[i]? = some f := List.mk_mem_zipIdx_iff_getElem?.mp hfi
    show (!f.required || seen.contains i) = true
    cases hreq : f.required with
    | false => rfl
    | true => simpa using hrequired i f (Nat.zero_le i) hf hreq
  simp only [Format.record, hn]
  refine bind_eq_ok_iff.mpr ⟨(seen, final), hrun, bind_eq_ok_iff.mpr ⟨(), rfl, ?_⟩⟩
  rw [if_pos hcomplete]

/-- A list is read from what its items are read from. -/
theorem mapM_eq_ok {α : Type} {read : ν → Except ε α} {node : α → ν} {xs : List α}
    (h : ∀ x ∈ xs, read (node x) = .ok x) : (xs.map node).mapM read = .ok xs := by
  induction xs with
  | nil => rfl
  | cons x r ih =>
    rw [List.map_cons, List.mapM_cons, h x List.mem_cons_self,
      ih fun y hy => h y (List.mem_cons_of_mem x hy)]
    rfl

end Acceptance.Schema
