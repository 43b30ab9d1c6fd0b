import Acceptance.Proofs.Schema
import Mathlib.Data.List.Forall2
import Mathlib.Data.List.Nodup

/-!
# Records in two formats

When two readers of the same fields read the same record out of two formats.

Where no field has to be there, a record is read member by member: no field may be given twice, and
then the members are read one after another, in any order if the fields do not disturb each other.

* `Format.Lenient`: whatever it is, a node is passed over.
* `readEntry`: reads one member into a draft.
* `Field.Commutes`: two fields are read in either order to the same effect.
* `Accord p x y`: where `p` holds, `x` and `y` have the same result or both fail; elsewhere `x` fails.
* `Field.Agrees`, `FieldsAgree`: two readers of a field, or of all fields of a record, agree on nodes
  that are related.

Results:
* `record_named_iff`: how a record is read member by member.
* `foldlM_perm`: the order of the members does not matter.
* `Accord.bind`, `accord_mapM`: agreement of what is read in steps.
* `record_agree`: records of fields that agree agree.
-/

namespace Acceptance.Schema

open List (Forall₂ Perm)

variable {ν μ ε δ σ α β : Type} {F : Format ν ε} {G : Format μ δ} {fields : List (Field ν ε σ)}
  {fields' : List (Field μ δ σ)} {f g : Field ν ε σ} {es es' : List (String × ν)}
  {e e' : String × ν} {name : String} {draft final : σ} {n : ν} {m : μ} {i : Nat}

/-! ## Members one by one -/

/-- Any node is passed over. -/
def Format.Lenient (F : Format ν ε) : Prop := ∀ n, F.pass n = .ok ()

/-- Members whose names are in order. -/
def named (es : List (String × ν)) : List (Except ε String × ν) := es.map fun e => (.ok e.1, e.2)

/-- The field of a name. -/
def field? (fields : List (Field ν ε σ)) (name : String) : Option (Field ν ε σ) :=
  fields.find? fun f => f.names.contains name

/-- The places of the fields that members give. -/
def places (fields : List (Field ν ε σ)) (es : List (String × ν)) : List Nat :=
  es.filterMap fun e => place? fields e.1

/-- Reads one member into a draft. A member of another name is passed over. -/
def readEntry (fields : List (Field ν ε σ)) (draft : σ) (e : String × ν) : Except ε σ :=
  match field? fields e.1 with
  | none => .ok draft
  | some f => f.read e.2 draft

theorem field?_eq_none_iff : field? fields name = none ↔ name ∉ fields.flatMap Field.names := by
  simp [field?, List.find?_eq_none]

theorem field?_of_place?_none (h : place? fields name = none) : field? fields name = none := by
  rw [place?, List.findIdx?_eq_none_iff] at h
  rw [field?_eq_none_iff, List.mem_flatMap]
  rintro ⟨f, hf, hname⟩
  have hno := h f hf
  rw [List.contains_iff_mem.mpr hname] at hno
  cases hno

theorem exists_field? (h : place? fields name = some i) :
    ∃ f, fields[i]? = some f ∧ field? fields name = some f := by
  obtain ⟨hi, hname, hbefore⟩ := List.findIdx?_eq_some_iff_getElem.mp h
  refine ⟨fields[i], List.getElem?_eq_getElem hi, List.find?_eq_some_iff_getElem.mpr
    ⟨hname, i, hi, rfl, fun j hj => ?_⟩⟩
  simpa using hbefore j hj

theorem places_cons_none (h : place? fields e.1 = none) : places fields (e :: es) = places fields es :=
  List.filterMap_cons_none h

theorem places_cons_some (h : place? fields e.1 = some i) :
    places fields (e :: es) = i :: places fields es :=
  List.filterMap_cons_some h

theorem readMembers_passed (hF : F.Lenient) {ms : List (Except ε String × ν)} {seen : List Nat}
    (hplace : place? fields name = none) :
    readMembers F fields ((.ok name, n) :: ms) seen draft = readMembers F fields ms seen draft := by
  simp only [readMembers, bind, Except.bind, hplace, hF n]

theorem readMembers_twice {ms : List (Except ε String × ν)} {seen : List Nat}
    (hplace : place? fields name = some i) (hseen : i ∈ seen) :
    readMembers F fields ((.ok name, n) :: ms) seen draft = .error F.unsuitable := by
  simp only [readMembers, bind, Except.bind, hplace, List.contains_iff_mem.mpr hseen, if_true]

/-- **Reading members one by one.** No field may be given twice, nor be among those seen, and each
member has to be read. -/
theorem readMembers_named_iff (hF : F.Lenient) {seen : List Nat} :
    (∃ seen', readMembers F fields (named es) seen draft = .ok (seen', final)) ↔
      (places fields es).Nodup ∧ (∀ i ∈ places fields es, i ∉ seen) ∧
        es.foldlM (readEntry fields) draft = .ok final := by
  -- A member that is read puts its place among those seen, so `seen` varies.
  induction es generalizing seen draft with
  | nil => simp [named, readMembers, places, pure, Except.pure]
  | cons e r ih =>
    obtain ⟨name, n⟩ := e
    have hnamed : named ((name, n) :: r) = ((.ok name, n) :: named r : List (Except ε String × ν)) :=
      rfl
    rw [hnamed, List.foldlM_cons]
    cases hplace : place? fields name with
    | none =>
      have hentry : readEntry fields draft (name, n) = .ok draft := by
        simp only [readEntry, field?_of_place?_none hplace]
      rw [readMembers_passed hF hplace, ih, places_cons_none hplace, hentry]
      rfl
    | some i =>
      obtain ⟨f, hf, hfield⟩ := exists_field? hplace
      have hentry : readEntry fields draft (name, n) = f.read n draft := by
        simp only [readEntry, hfield]
      rw [places_cons_some hplace, hentry, List.nodup_cons, List.forall_mem_cons]
      by_cases hseen : i ∈ seen
      · rw [readMembers_twice hplace hseen]
        constructor
        · rintro ⟨seen', hread⟩
          cases hread
        · rintro ⟨-, ⟨hnew, -⟩, -⟩
          exact absurd hseen hnew
      · rw [readMembers_new hplace hseen hf]
        simp only [bind_eq_ok_iff]
        constructor
        · rintro ⟨seen', next, hread, hrest⟩
          obtain ⟨hnodup, hfresh, hfold⟩ := ih.mp ⟨seen', hrest⟩
          exact ⟨⟨fun hi => hfresh i hi List.mem_cons_self, hnodup⟩,
            ⟨hseen, fun j hj hmem => hfresh j hj (List.mem_cons_of_mem i hmem)⟩, next, hread, hfold⟩
        · rintro ⟨⟨hi, hnodup⟩, ⟨-, hfresh⟩, next, hread, hfold⟩
          have hfresh' : ∀ j ∈ places fields r, j ∉ i :: seen := by
            intro j hj hmem
            rcases List.mem_cons.mp hmem with rfl | hmem
            · exact hi hj
            · exact hfresh j hj hmem
          obtain ⟨seen', hrest⟩ := ih.mpr ⟨hnodup, hfresh', hfold⟩
          exact ⟨seen', next, hread, hrest⟩

/-- A record of which no field has to be there is read member by member. -/
theorem record_named_iff (hF : F.Lenient) (hn : F.shape n = .members (named es) (.ok ()))
    (hoptional : ∀ f ∈ fields, f.required = false) :
    F.record fields draft n = .ok final ↔
      (places fields es).Nodup ∧ es.foldlM (readEntry fields) draft = .ok final := by
  have hcomplete (seen : List Nat) : complete fields seen = true := by
    rw [complete, List.all_eq_true]
    rintro ⟨f, i⟩ hfi
    have hf : f ∈ fields := List.fst_mem_of_mem_zipIdx hfi
    simp [hoptional f hf]
  have hrecord : F.record fields draft n = .ok final ↔
      ∃ seen, readMembers F fields (named es) [] draft = .ok (seen, final) := by
    simp only [Format.record, hn, bind_eq_ok_iff, hcomplete, if_true]
    constructor
    · rintro ⟨⟨seen, last⟩, hrun, -, -, hlast⟩
      cases hlast
      exact ⟨seen, hrun⟩
    · rintro ⟨seen, hrun⟩
      exact ⟨(seen, final), hrun, (), trivial, rfl⟩
  rw [hrecord, readMembers_named_iff hF]
  simp

/-! ## The order of members -/

/-- Two fields are read in either order to the same effect. -/
def Field.Commutes (f g : Field ν ε σ) : Prop :=
  ∀ n m draft final, (f.read n draft >>= g.read m) = .ok final ↔
    (g.read m draft >>= f.read n) = .ok final

theorem Field.Commutes.symm (h : f.Commutes g) : g.Commutes f :=
  fun n m draft final => (h m n draft final).symm

/-- Fields that are put into different parts of a draft. -/
theorem commutes_of {names names' : List String} {required required' : Bool}
    {read : ν → Except ε α} {read' : ν → Except ε β} {put : α → σ → σ} {put' : β → σ → σ}
    (hput : ∀ a b draft, put' b (put a draft) = put a (put' b draft)) :
    (Field.of names required read put).Commutes (Field.of names' required' read' put') := by
  intro n m draft final
  simp only [Field.of, bind_eq_ok_iff, pure, Except.pure, Except.ok.injEq]
  constructor
  · rintro ⟨next, ⟨a, ha, rfl⟩, b, hb, rfl⟩
    exact ⟨put' b draft, ⟨b, hb, rfl⟩, a, ha, (hput a b draft).symm⟩
  · rintro ⟨next, ⟨b, hb, rfl⟩, a, ha, rfl⟩
    exact ⟨put a draft, ⟨a, ha, rfl⟩, b, hb, hput a b draft⟩

theorem commutes_of_ne (hcomm : fields.Pairwise Field.Commutes) {j : Nat} (hf : fields[i]? = some f)
    (hg : fields[j]? = some g) (hij : i ≠ j) : f.Commutes g := by
  obtain ⟨hi, rfl⟩ := List.getElem?_eq_some_iff.mp hf
  obtain ⟨hj, rfl⟩ := List.getElem?_eq_some_iff.mp hg
  rw [List.pairwise_iff_getElem] at hcomm
  rcases Nat.lt_or_gt_of_ne hij with h | h
  · exact hcomm i j hi hj h
  · exact (hcomm j i hj hi h).symm

theorem readEntry_passed (h : place? fields e.1 = none) : (readEntry fields · e) = pure := by
  funext draft
  simp only [readEntry, field?_of_place?_none h]
  rfl

/-- Two members of different fields are read in either order. -/
theorem readEntry_comm (hcomm : fields.Pairwise Field.Commutes)
    (h : (places fields [e, e']).Nodup) :
    (readEntry fields draft e >>= (readEntry fields · e')) = .ok final ↔
      (readEntry fields draft e' >>= (readEntry fields · e)) = .ok final := by
  cases he : place? fields e.1 with
  | none =>
    have hpass : readEntry fields draft e = pure draft := congrFun (readEntry_passed he) draft
    rw [readEntry_passed he, hpass, pure_bind, bind_pure]
  | some i =>
    cases he' : place? fields e'.1 with
    | none =>
      have hpass : readEntry fields draft e' = pure draft := congrFun (readEntry_passed he') draft
      rw [readEntry_passed he', hpass, pure_bind, bind_pure]
    | some j =>
      have hij : i ≠ j := by
        rw [places_cons_some he, places_cons_some he'] at h
        rintro rfl
        exact (List.nodup_cons.mp h).1 List.mem_cons_self
      obtain ⟨f, hf, hfield⟩ := exists_field? he
      obtain ⟨g, hg, hfield'⟩ := exists_field? he'
      simp only [readEntry, hfield, hfield']
      exact commutes_of_ne hcomm hf hg hij e.2 e'.2 draft final

/-- **The order of the members does not matter**, where no field is given twice. -/
theorem foldlM_perm (hcomm : fields.Pairwise Field.Commutes) (h : es.Perm es')
    (hnodup : (places fields es).Nodup) :
    es.foldlM (readEntry fields) draft = .ok final ↔
      es'.foldlM (readEntry fields) draft = .ok final := by
  induction h generalizing draft with
  | nil => rfl
  | @cons e r r' _ ih =>
    have hrest : (places fields r).Nodup :=
      hnodup.sublist ((List.sublist_cons_self e r).filterMap _)
    simp only [List.foldlM_cons, bind_eq_ok_iff, ih hrest]
  | swap e e' r =>
    have htwo : (places fields [e', e]).Nodup := by
      have hsub : [e', e].Sublist (e' :: e :: r) := by simp
      exact hnodup.sublist (hsub.filterMap _)
    simp only [List.foldlM_cons, ← bind_assoc, bind_eq_ok_iff (x := _ >>= _)]
    exact exists_congr fun next => and_congr_left fun _ => readEntry_comm hcomm htwo
  | trans h _ ih ih' =>
    exact (ih hnodup).trans (ih' ((h.filterMap _).nodup hnodup))

/-! ## Agreement -/

/-- Where `p` holds, one reader has the same result as the other, or both fail; elsewhere it
fails. -/
def Accord (p : Prop) (x : Except ε α) (y : Except δ α) : Prop := ∀ a, x = .ok a ↔ p ∧ y = .ok a

section

variable {p q : Prop} {x : Except ε α} {y : Except δ α}

theorem Accord.of_iff (h : Accord p x y) (hpq : p ↔ q) : Accord q x y := fun a => by rw [← hpq, h a]

theorem accord_ok (a : α) : Accord True (.ok a : Except ε α) (.ok a : Except δ α) := fun b => by simp

theorem accord_error (p : Prop) (c : ε) (d : δ) :
    Accord p (.error c : Except ε α) (.error d : Except δ α) := fun b => by simp

theorem accord_refused (hp : ¬ p) (c : ε) (y : Except δ α) : Accord p (.error c) y := fun b => by
  simp [hp]

/-- Where `p` does not hold, the second reader may do anything. -/
theorem Accord.of_not (h : Accord p x y) (hp : ¬ p) (z : Except δ α) : Accord p x z := fun a => by
  simp [h a, hp]

/-- How a failure is told does not count. -/
theorem Accord.mapError {ε' δ' : Type} (h : Accord p x y) (f : ε → ε') (g : δ → δ') :
    Accord p (x.mapError f) (y.mapError g) := by
  intro a
  rw [mapError_eq_ok_iff, mapError_eq_ok_iff]
  exact h a

/-- Steps agree if each of them does. -/
theorem Accord.bind {f : α → Except ε β} {g : α → Except δ β} (h : Accord p x y)
    (hfg : ∀ a, Accord q (f a) (g a)) : Accord (p ∧ q) (x >>= f) (y >>= g) := by
  intro b
  simp only [bind_eq_ok_iff, h _, hfg _ _]
  constructor
  · rintro ⟨a, ⟨hp, ha⟩, hq, hb⟩
    exact ⟨⟨hp, hq⟩, a, ha, hb⟩
  · rintro ⟨⟨hp, hq⟩, a, ha, hb⟩
    exact ⟨a, ⟨hp, ha⟩, hq, hb⟩

/-- What is done with what was read does not count. -/
theorem Accord.map (h : Accord p x y) (f : α → β) :
    Accord p (x >>= fun a => .ok (f a)) (y >>= fun a => .ok (f a)) :=
  (h.bind fun a => accord_ok (f a)).of_iff (and_iff_left trivial)

end

/-- Lists agree if their items do. -/
theorem accord_mapM {read : ν → Except ε α} {read' : μ → Except δ α} {p : ν → Prop} {ns : List ν}
    {ms : List μ} (h : Forall₂ (fun n m => Accord (p n) (read n) (read' m)) ns ms) :
    Accord (∀ n ∈ ns, p n) (ns.mapM read) (ms.mapM read') := by
  induction h with
  | nil => exact (accord_ok []).of_iff (by simp)
  | cons hn _ ih =>
    simp only [List.mapM_cons]
    refine (hn.bind fun a => ih.map fun as => a :: as).of_iff ?_
    rw [List.forall_mem_cons]

/-- Two readers of a field agree on nodes that are related, where what is asked of the first node
under its name holds. -/
structure Field.Agrees (related : String → ν → μ → Prop) (asks : String → ν → Prop)
    (f : Field ν ε σ) (g : Field μ δ σ) : Prop where
  names : f.names = g.names
  optional : f.required = false ∧ g.required = false
  read : ∀ name ∈ f.names, ∀ n m, related name n m →
    ∀ draft, Accord (asks name n) (f.read n draft) (g.read m draft)

/-- Two readers of a record, field by field. Nothing is asked of members that are passed over. -/
structure FieldsAgree (related : String → ν → μ → Prop) (asks : String → ν → Prop)
    (fields : List (Field ν ε σ)) (fields' : List (Field μ δ σ)) : Prop where
  each : Forall₂ (Field.Agrees related asks) fields fields'
  commute : fields.Pairwise Field.Commutes
  other : ∀ name n, name ∉ fields.flatMap Field.names → asks name n

/-- Members of two records that are related one by one. -/
def Related (related : String → ν → μ → Prop) (e : String × ν) (e' : String × μ) : Prop :=
  e.1 = e'.1 ∧ related e.1 e.2 e'.2

section

variable {related : String → ν → μ → Prop} {asks : String → ν → Prop} {ms : List (String × μ)}

/-- Fields that are read alike and put into the same part of a draft. -/
theorem agrees_of {names : List String} {read : ν → Except ε α} {read' : μ → Except δ α}
    {put : α → σ → σ} (h : ∀ name ∈ names, ∀ n m, related name n m →
      Accord (asks name n) (read n) (read' m)) :
    Field.Agrees related asks (Field.of names false read put) (Field.of names false read' put) where
  names := rfl
  optional := ⟨rfl, rfl⟩
  read name hname n m hnm draft := (h name hname n m hnm).map fun a => put a draft

/-- The same name leads to fields that agree. -/
theorem field?_agrees (h : Forall₂ (Field.Agrees related asks) fields fields') (name : String) :
    (field? fields name = none ∧ field? fields' name = none) ∨
      ∃ f g, field? fields name = some f ∧ field? fields' name = some g ∧ name ∈ f.names ∧
        f.Agrees related asks g := by
  induction h with
  | nil => exact .inl ⟨rfl, rfl⟩
  | @cons f g fs gs hfg _ ih =>
    by_cases hname : name ∈ f.names
    · exact .inr ⟨f, g, by simp [field?, hname], by simp [field?, ← hfg.names, hname], hname, hfg⟩
    · have hf : field? (f :: fs) name = field? fs name := by simp [field?, hname]
      have hg : field? (g :: gs) name = field? gs name := by simp [field?, ← hfg.names, hname]
      rwa [hf, hg]

theorem optional_agrees (h : Forall₂ (Field.Agrees related asks) fields fields') :
    (∀ f ∈ fields, f.required = false) ∧ ∀ g ∈ fields', g.required = false := by
  induction h with
  | nil => exact ⟨List.forall_mem_nil _, List.forall_mem_nil _⟩
  | cons hfg _ ih =>
    rw [List.forall_mem_cons, List.forall_mem_cons]
    exact ⟨⟨hfg.optional.1, ih.1⟩, hfg.optional.2, ih.2⟩

/-- The same name has the same place. -/
theorem place?_agrees (h : Forall₂ (Field.Agrees related asks) fields fields') (name : String) :
    place? fields name = place? fields' name := by
  induction h with
  | nil => rfl
  | cons hfg _ ih =>
    simp only [place?, List.findIdx?_cons, hfg.names] at ih ⊢
    rw [ih]

theorem places_agrees (h : Forall₂ (Field.Agrees related asks) fields fields')
    (hes : Forall₂ (Related related) es ms) : places fields es = places fields' ms := by
  induction hes with
  | nil => rfl
  | cons he _ ih =>
    simp only [places, List.filterMap_cons, he.1, place?_agrees h] at ih ⊢
    rw [ih]

/-- Members that are related agree. -/
theorem readEntry_agree (h : FieldsAgree related asks fields fields') {e' : String × μ}
    (he : Related related e e') (draft : σ) :
    Accord (asks e.1 e.2) (readEntry fields draft e) (readEntry fields' draft e') := by
  obtain ⟨hname, hrelated⟩ := he
  rcases field?_agrees h.each e.1 with ⟨hf, hg⟩ | ⟨f, g, hf, hg, hmem, hfg⟩
  · simp only [readEntry, ← hname, hf, hg]
    exact (accord_ok draft).of_iff (iff_of_true trivial (h.other _ _ (field?_eq_none_iff.mp hf)))
  · simp only [readEntry, ← hname, hf, hg]
    exact hfg.read e.1 hmem e.2 e'.2 hrelated draft

theorem foldlM_agree (h : FieldsAgree related asks fields fields')
    (hes : Forall₂ (Related related) es ms) (draft : σ) :
    Accord (∀ e ∈ es, asks e.1 e.2) (es.foldlM (readEntry fields) draft)
      (ms.foldlM (readEntry fields') draft) := by
  induction hes generalizing draft with
  | nil => exact (accord_ok draft).of_iff (by simp)
  | cons he _ ih =>
    simp only [List.foldlM_cons]
    refine ((readEntry_agree h he draft).bind ih).of_iff ?_
    rw [List.forall_mem_cons]

/-- **Records of fields that agree agree.** Their members are related one by one, up to the order of
those of the first record. -/
theorem record_agree (hF : F.Lenient) (hG : G.Lenient) (h : FieldsAgree related asks fields fields')
    (hn : F.shape n = .members (named es') (.ok ())) (hm : G.shape m = .members (named ms) (.ok ()))
    (hperm : es.Perm es') (hes : Forall₂ (Related related) es ms) (draft : σ) :
    Accord (∀ e ∈ es', asks e.1 e.2) (F.record fields draft n) (G.record fields' draft m) := by
  obtain ⟨hoptional, hoptional'⟩ := optional_agrees h.each
  have hplaces : (places fields es').Nodup ↔ (places fields es).Nodup :=
    (hperm.filterMap _).nodup_iff.symm
  have hasks : (∀ e ∈ es, asks e.1 e.2) ↔ ∀ e ∈ es', asks e.1 e.2 :=
    forall_congr' fun e => by rw [hperm.mem_iff]
  intro final
  rw [record_named_iff hF hn hoptional, record_named_iff hG hm hoptional',
    ← places_agrees h.each hes, hplaces, and_left_comm]
  refine and_congr_right fun hnodup => ?_
  rw [← foldlM_perm h.commute hperm hnodup, foldlM_agree h hes draft final, hasks]

end

end Acceptance.Schema
