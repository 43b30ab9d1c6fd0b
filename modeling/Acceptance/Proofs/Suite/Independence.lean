import Acceptance.Proofs.Suite.Likeness

/-!
# Cases on their own

With a cast whose answers depend on nothing but the arguments of a call, the cases of a run do not
depend on each other: each comes to what it comes to in a run of its own.

* `Act.Gives`: what a piece of work gives from some state that is in order.
* `Cast.Steady`: a cast whose answers depend on nothing but the arguments.
* `Configs.Found`: configurations that hold what a case needs.
* `Comes`: what a case comes to, whatever the run.
* `runThrough`: a run that no failure ends.

Results:
* `Comes.alike`: a case comes to the same outcome every time.
* `runCases_of_comes`, `comes_of_runCases`: cases in order come to what each of them comes to.
* `runThrough_ok_iff`, `comes_of_runThrough`: and so do they in a run.
* `cases_independent`: a run is the runs of its cases, one after another.
-/

namespace Acceptance

variable {σ α β : Type} {I : σ → Prop}

/-- Two things that are both in order. -/
def Both (I : α → Prop) (x y : α) : Prop := I x ∧ I y

/-! ## Work that does not depend on the state -/

namespace Act

/-- A piece of work gives a value from some state that is in order. -/
def Gives (I : σ → Prop) (a : Act σ α) (x : α) : Prop := ∃ s t, I s ∧ a.run s = (.ok x, t)

variable {V : α → α → Prop} {a : Act σ α}

/-- Work that comes to the same from all states in order leaves such a state. -/
theorem Alike.stays (h : Alike (Both I) V a a) {s : σ} (hs : I s) {r : Except Error α} {t : σ}
    (hr : a.run s = (r, t)) : I t := by
  obtain ⟨-, -, ht⟩ := h.run ⟨hs, hs⟩
  rwa [hr] at ht

/-- What is given from one state in order is given from every other. -/
theorem Gives.run (h : Alike (Both I) V a a) {x : α} (hx : a.Gives I x) {s : σ} (hs : I s) :
    ∃ y t, a.run s = (.ok y, t) ∧ V x y ∧ I t := by
  obtain ⟨u, v, hu, hx⟩ := hx
  obtain ⟨hagree, -, ht⟩ := h.run ⟨hu, hs⟩
  rw [hx] at hagree
  obtain ⟨y, hy, hxy⟩ := hagree.of_ok
  exact ⟨y, (a.run s).2, Prod.ext hy rfl, hxy, ht⟩

theorem Gives.related (h : Alike (Both I) V a a) {x y : α} (hx : a.Gives I x) (hy : a.Gives I y) :
    V x y := by
  obtain ⟨s, t, hs, hy⟩ := hy
  obtain ⟨z, u, hz, hxz, -⟩ := hx.run h hs
  cases hy.symm.trans hz
  exact hxz

end Act

namespace Suite

variable {P : String × Place → Prop} {cast : Cast σ} {fixture : Fixture} {configs : Configs}

/-- The answers of a cast depend on nothing but the arguments of a call: not on the calls before it,
of which only the state can tell, and not on the name of the place. `I` holds of the states that come
about, and `P` of the places that are opened, each with its root. -/
structure Cast.Steady (I : σ → Prop) (P : String × Place → Prop) (cast : Cast σ) : Prop where
  alike : cast.Alike False (Both I) (Both P) cast

/-! ## Configurations -/

/-- Configurations hold what the subject gives and the case needs. -/
structure Configs.Found (I : σ → Prop) (subject : Subject σ) (configs : Configs) (c : Case) :
    Prop where
  config (h : c.needsConfig = true) : ∃ v, subject.config.Gives I v ∧ configs.config = some v
  failConfig (h : c = .checkFailure) :
    ∃ v, subject.failConfig.Gives I v ∧ configs.failConfig = some v

theorem gives_of_whenNeeded {needed : Bool} {a : Act σ Json} {s t : σ} (hs : I s)
    {v : Option Json} (hv : (whenNeeded needed a).run s = (.ok v, t)) (hneeded : needed = true) :
    ∃ x, a.Gives I x ∧ v = some x := by
  subst hneeded
  obtain ⟨x, u, hx, hv⟩ := Act.run_bind_eq_ok_iff.mp hv
  cases hv
  exact ⟨x, ⟨s, t, hs, hx⟩, rfl⟩

theorem whenNeeded_of_gives {needed : Bool} {a : Act σ Json} (h : Act.Alike (Both I) Eq a a)
    {s : σ} (hs : I s) (ha : needed = true → ∃ x, a.Gives I x) :
    ∃ v t, (whenNeeded needed a).run s = (.ok v, t) := by
  cases needed with
  | false => exact ⟨none, s, rfl⟩
  | true =>
    obtain ⟨x, hx⟩ := ha rfl
    obtain ⟨y, t, hy, -, -⟩ := hx.run h hs
    exact ⟨some y, t, Act.run_bind_eq_ok_iff.mpr ⟨y, t, hy, rfl⟩⟩

/-- The configurations that are found out for some cases hold what each of them needs. -/
theorem found_of_resolve (h : cast.Steady I P) {cs : List Case} {s t : σ} (hs : I s)
    (hr : (resolve cast.subject cs).run s = (.ok configs, t)) :
    ∀ c ∈ cs, configs.Found I cast.subject c := by
  obtain ⟨config, u, hconfig, hr⟩ := Act.run_bind_eq_ok_iff.mp hr
  obtain ⟨failConfig, v, hfail, hr⟩ := Act.run_bind_eq_ok_iff.mp hr
  cases hr
  have hu : I u := (alike_whenNeeded _ h.alike.subject.config).stays hs hconfig
  intro c hc
  refine ⟨fun hneeds => ?_, ?_⟩
  · exact gives_of_whenNeeded hs hconfig (List.any_eq_true.mpr ⟨c, hc, hneeds⟩)
  · rintro rfl
    exact gives_of_whenNeeded hu hfail (List.contains_iff_mem.mpr hc)

/-- What each of some cases needs can be found out for all of them. -/
theorem resolve_of_found (h : cast.Steady I P) {cs : List Case} {s : σ} (hs : I s)
    (hfound : ∀ c ∈ cs, ∃ configs : Configs, configs.Found I cast.subject c) :
    ∃ configs t, (resolve cast.subject cs).run s = (.ok configs, t) := by
  have hneeded : cs.any Case.needsConfig = true → ∃ v, cast.subject.config.Gives I v := by
    intro hany
    obtain ⟨c, hc, hneeds⟩ := List.any_eq_true.mp hany
    obtain ⟨configs, hf⟩ := hfound c hc
    obtain ⟨v, hv, -⟩ := hf.config hneeds
    exact ⟨v, hv⟩
  have hneeded' : cs.contains .checkFailure = true → ∃ v, cast.subject.failConfig.Gives I v := by
    intro hcontains
    obtain ⟨configs, hf⟩ := hfound _ (List.contains_iff_mem.mp hcontains)
    obtain ⟨v, hv, -⟩ := hf.failConfig rfl
    exact ⟨v, hv⟩
  obtain ⟨config, t, hconfig⟩ := whenNeeded_of_gives h.alike.subject.config hs hneeded
  have ht : I t := (alike_whenNeeded _ h.alike.subject.config).stays hs hconfig
  obtain ⟨failConfig, u, hfail⟩ := whenNeeded_of_gives h.alike.subject.failConfig ht hneeded'
  exact ⟨⟨config, failConfig⟩, u, Act.run_bind_eq_ok_iff.mpr
    ⟨config, t, hconfig, Act.run_bind_eq_ok_iff.mpr ⟨failConfig, u, hfail, rfl⟩⟩⟩

/-- A case runs in the same way with all configurations that hold what it needs. -/
theorem runCase_congr (h : cast.Steady I P) {configs configs' : Configs} {c : Case}
    (hf : configs.Found I cast.subject c) (hf' : configs'.Found I cast.subject c) :
    runCase cast fixture configs c = runCase cast fixture configs' c := by
  have hconfig (hneeds : c.needsConfig = true) : configs.config = configs'.config := by
    obtain ⟨v, hv, hsome⟩ := hf.config hneeds
    obtain ⟨v', hv', hsome'⟩ := hf'.config hneeds
    rw [hsome, hsome', hv.related h.alike.subject.config hv']
  have hfail (hneeds : c = .checkFailure) : configs.failConfig = configs'.failConfig := by
    obtain ⟨v, hv, hsome⟩ := hf.failConfig hneeds
    obtain ⟨v', hv', hsome'⟩ := hf'.failConfig hneeds
    rw [hsome, hsome', hv.related h.alike.subject.failConfig hv']
  have hbody (place : Place) :
      body cast fixture configs place c = body cast fixture configs' place c := by
    cases c with
    | spec => rfl
    | checkSuccess => rw [body, body, hconfig rfl]
    | checkFailure => rw [body, body, hfail rfl]
    | syncRoundTrip => rw [body, body, hconfig rfl]
  simp only [runCase, runIn, attempt, hbody]

/-! ## Cases -/

/-- What a case comes to, whatever the run that it is a part of. -/
def Comes (I : σ → Prop) (cast : Cast σ) (fixture : Fixture) (c : Case) (o : Outcome) : Prop :=
  ∃ configs : Configs, configs.Found I cast.subject c ∧ (runCase cast fixture configs c).Gives I o

/-- **A case comes to the same every time**, but for the time it takes. -/
theorem Comes.alike (h : cast.Steady I P) {c : Case} {o o' : Outcome}
    (ho : Comes I cast fixture c o) (ho' : Comes I cast fixture c o') : o.Alike False o' := by
  obtain ⟨configs, hf, hgives⟩ := ho
  obtain ⟨configs', hf', hgives'⟩ := ho'
  rw [runCase_congr h hf' hf] at hgives'
  exact hgives.related (alike_runCase h.alike c) hgives'

theorem alike_of_comes (h : cast.Steady I P) {cs : List Case} {os os' : List Outcome}
    (hos : List.Forall₂ (Comes I cast fixture) cs os)
    (hos' : List.Forall₂ (Comes I cast fixture) cs os') :
    List.Forall₂ (Outcome.Alike False) os os' := by
  induction hos generalizing os' with
  | nil =>
    cases hos'
    exact .nil
  | cons ho _ ih =>
    cases hos' with
    | cons ho' hrest => exact .cons (ho.alike h ho') (ih hrest)

variable {cases cs : List Case}

theorem runCases_cons (c : Case) (cs : List Case) :
    runCases cast ⟨cases, false, fixture⟩ configs (c :: cs) =
      runCase cast fixture configs c >>= fun o =>
        runCases cast ⟨cases, false, fixture⟩ configs cs >>= fun os => pure (o :: os) := rfl

/-- Cases in order come to outcomes if each of them does. -/
theorem runCases_of_comes (h : cast.Steady I P)
    (hcs : ∀ c ∈ cs, configs.Found I cast.subject c ∧ ∃ o, Comes I cast fixture c o) {s : σ}
    (hs : I s) :
    ∃ os t, (runCases cast ⟨cases, false, fixture⟩ configs cs).run s = (.ok os, t) := by
  induction cs generalizing s with
  | nil => exact ⟨[], s, rfl⟩
  | cons c cs ih =>
    obtain ⟨⟨hfound, o, configs', hf, hgives⟩, hcs⟩ := List.forall_mem_cons.mp hcs
    rw [runCase_congr h hf hfound] at hgives
    obtain ⟨o', t, ho', -, ht⟩ := hgives.run (alike_runCase h.alike c) hs
    obtain ⟨os, u, hos⟩ := ih hcs ht
    refine ⟨o' :: os, u, ?_⟩
    rw [runCases_cons]
    exact Act.run_bind_eq_ok_iff.mpr
      ⟨o', t, ho', Act.run_bind_eq_ok_iff.mpr ⟨os, u, hos, rfl⟩⟩

/-- Cases in order come to what each of them comes to. -/
theorem comes_of_runCases (h : cast.Steady I P)
    (hfound : ∀ c ∈ cs, configs.Found I cast.subject c) {s t : σ} (hs : I s) {os : List Outcome}
    (hos : (runCases cast ⟨cases, false, fixture⟩ configs cs).run s = (.ok os, t)) :
    List.Forall₂ (Comes I cast fixture) cs os := by
  induction cs generalizing s os with
  | nil =>
    cases hos
    exact .nil
  | cons c cs ih =>
    obtain ⟨hc, hcs⟩ := List.forall_mem_cons.mp hfound
    rw [runCases_cons] at hos
    obtain ⟨o, u, ho, hos⟩ := Act.run_bind_eq_ok_iff.mp hos
    obtain ⟨rest, v, hrest, hos⟩ := Act.run_bind_eq_ok_iff.mp hos
    cases hos
    have hu : I u := (alike_runCase h.alike c).stays hs ho
    exact .cons ⟨configs, hc, s, u, hs, ho⟩ (ih hcs hu hrest)

/-! ## Runs -/

/-- What a run through some cases comes to that no failure ends. -/
def runThrough (cast : Cast σ) (fixture : Fixture) (cs : List Case) (s : σ) : Except Error Report :=
  ((run cast ⟨cs, false, fixture⟩).run s).1

/-- A run that comes to a report has an image, and comes to what each of its cases comes to. -/
theorem comes_of_runThrough (h : cast.Steady I P) {s : σ} (hs : I s) {report : Report}
    (hr : runThrough cast fixture cs s = .ok report) :
    (∃ image, cast.subject.imageName.Gives I image) ∧
      List.Forall₂ (Comes I cast fixture) cs report.outcomes := by
  have hrun : (run cast ⟨cs, false, fixture⟩).run s = (.ok report, _) := Prod.ext hr rfl
  obtain ⟨image, t, himage, hrun⟩ := Act.run_bind_eq_ok_iff.mp hrun
  obtain ⟨configs, u, hresolve, hrun⟩ := Act.run_bind_eq_ok_iff.mp hrun
  obtain ⟨os, v, hos, hrun⟩ := Act.run_bind_eq_ok_iff.mp hrun
  cases hrun
  have ht : I t := h.alike.subject.imageName.stays hs himage
  have hu : I u := (alike_resolve h.alike cs).stays ht hresolve
  exact ⟨⟨image, s, t, hs, himage⟩, comes_of_runCases h (found_of_resolve h ht hresolve) hu hos⟩

/-- A run comes to a report exactly if there is an image and each of its cases comes to something. -/
theorem runThrough_ok_iff (h : cast.Steady I P) {s : σ} (hs : I s) :
    (∃ report, runThrough cast fixture cs s = .ok report) ↔
      (∃ image, cast.subject.imageName.Gives I image) ∧
        ∀ c ∈ cs, ∃ o, Comes I cast fixture c o := by
  constructor
  · rintro ⟨report, hr⟩
    obtain ⟨himage, hcomes⟩ := comes_of_runThrough h hs hr
    have hsome : List.Forall₂ (fun c o => (∃ o, Comes I cast fixture c o) ∧
        Comes I cast fixture c o) cs report.outcomes :=
      hcomes.imp fun c o ho => ⟨⟨o, ho⟩, ho⟩
    exact ⟨himage, ((List.forall₂_and_left _ _).mp hsome).1⟩
  · rintro ⟨⟨image, himage⟩, hcomes⟩
    obtain ⟨image', t, himage', -, ht⟩ := himage.run h.alike.subject.imageName hs
    obtain ⟨configs, u, hresolve⟩ := resolve_of_found h ht fun c hc => by
      obtain ⟨o, configs, hf, -⟩ := hcomes c hc
      exact ⟨configs, hf⟩
    have hu : I u := (alike_resolve h.alike cs).stays ht hresolve
    have hfound := found_of_resolve h ht hresolve
    obtain ⟨os, v, hos⟩ : ∃ os v,
        (runCases cast ⟨cs, false, fixture⟩ configs cs).run u = (.ok os, v) :=
      runCases_of_comes h (fun c hc => ⟨hfound c hc, hcomes c hc⟩) hu
    refine ⟨⟨image', os⟩, ?_⟩
    have hrun : (run cast ⟨cs, false, fixture⟩).run s = (.ok ⟨image', os⟩, v) :=
      Act.run_bind_eq_ok_iff.mpr ⟨image', t, himage', Act.run_bind_eq_ok_iff.mpr
        ⟨configs, u, hresolve, Act.run_bind_eq_ok_iff.mpr ⟨os, v, hos, rfl⟩⟩⟩
    exact congrArg Prod.fst hrun

/-- Outcomes at the same place belong to the case there. -/
theorem rel_getElem? {α β : Type} {R : α → β → Prop} {xs : List α} {ys : List β}
    (h : List.Forall₂ R xs ys) (i : Nat) : Option.Rel R xs[i]? ys[i]? := by
  induction h generalizing i with
  | nil => exact .none
  | cons hxy _ ih =>
    cases i with
    | zero => exact .some hxy
    | succ i => exact ih i

/-- **The cases of a run do not depend on each other.** The answers of a cast depend on nothing but the
arguments of a call, and there is at least one case.

* A run comes to a report exactly if a run of its own for each of the cases does, whatever state that
  one starts from.
* Times aside, the outcomes are then those of the runs of the single cases, one after another.
* They are those of the cases in front followed by those of the cases behind, wherever the cases are
  parted.
* With cases taken from some places, such as all of them in another order, there is a report as well,
  and its outcomes are those at these places. -/
theorem cases_independent (h : cast.Steady I P) (fixture : Fixture) (hne : cs ≠ []) {s : σ}
    (hs : I s) {alone : Case → σ} (halone : ∀ c, I (alone c)) :
    ((∃ report, runThrough cast fixture cs s = .ok report) ↔
      ∀ c ∈ cs, ∃ report, runThrough cast fixture [c] (alone c) = .ok report) ∧
    ∀ report, runThrough cast fixture cs s = .ok report →
      (∀ singles,
        List.Forall₂ (fun c r => runThrough cast fixture [c] (alone c) = .ok r) cs singles →
        List.Forall₂ (Outcome.Alike False) report.outcomes (singles.flatMap (·.outcomes))) ∧
      (∀ front behind t u r r', cs = front ++ behind → I t → I u →
        runThrough cast fixture front t = .ok r → runThrough cast fixture behind u = .ok r' →
        List.Forall₂ (Outcome.Alike False) report.outcomes (r.outcomes ++ r'.outcomes)) ∧
      ∀ (places : List Nat) (t : σ), I t →
        ∃ r, runThrough cast fixture (places.filterMap (cs[·]?)) t = .ok r ∧
          List.Forall₂ (Outcome.Alike False) r.outcomes
            (places.filterMap (report.outcomes[·]?)) := by
  refine ⟨?_, fun report hr => ?_⟩
  · rw [runThrough_ok_iff h hs]
    constructor
    · rintro ⟨himage, hcs⟩ c hc
      exact (runThrough_ok_iff h (halone c)).mpr
        ⟨himage, fun d hd => List.mem_singleton.mp hd ▸ hcs c hc⟩
    · intro hcs
      have hsingle : ∀ c ∈ cs, _ := fun c hc => (runThrough_ok_iff h (halone c)).mp (hcs c hc)
      obtain ⟨c, hc⟩ := List.exists_mem_of_ne_nil cs hne
      exact ⟨(hsingle c hc).1, fun d hd => (hsingle d hd).2 d List.mem_cons_self⟩
  · obtain ⟨himage, hcomes⟩ := comes_of_runThrough h hs hr
    refine ⟨fun singles hsingles => ?_, ?_, fun places t ht => ?_⟩
    · have hsum : List.Forall₂ (Comes I cast fixture) (cs.flatMap fun c => [c])
          (singles.flatMap (·.outcomes)) :=
        List.rel_flatMap hsingles fun c r hcr => (comes_of_runThrough h (halone c) hcr).2
      rw [List.flatMap_singleton'] at hsum
      exact alike_of_comes h hcomes hsum
    · rintro front behind t u r r' rfl ht hu hfront hbehind
      exact alike_of_comes h hcomes (List.rel_append (comes_of_runThrough h ht hfront).2
        (comes_of_runThrough h hu hbehind).2)
    · have hchosen : List.Forall₂ (Comes I cast fixture) (places.filterMap (cs[·]?))
          (places.filterMap (report.outcomes[·]?)) := by
        refine List.rel_filterMap ?_ (List.forall₂_eq_eq_eq ▸ rfl : List.Forall₂ Eq places places)
        rintro i _ rfl
        exact rel_getElem? hcomes i
      have hcs : ∀ c ∈ places.filterMap (cs[·]?), ∃ o, Comes I cast fixture c o := by
        intro c hc
        obtain ⟨i, -, hi⟩ := List.mem_filterMap.mp hc
        exact ((runThrough_ok_iff h hs).mp ⟨report, hr⟩).2 c (List.mem_of_getElem? hi)
      obtain ⟨r, hrun⟩ := (runThrough_ok_iff h ht).mpr ⟨himage, hcs⟩
      exact ⟨r, hrun, alike_of_comes h (comes_of_runThrough h ht hrun).2 hchosen⟩

/-- Work that is counted, and gives the same every time. -/
def tallied {α : Type} (x : α) : Act Nat α := Act.step fun n => (x, n + 1)

/-- A place whose name tells how many calls there were. -/
def nextPlace (n : Nat) : (String × Place) × Nat :=
  (("/tmp/" ++ toString n, ⟨"/tmp/" ++ toString n ++ "/local"⟩), n + 1)

/-- A destination that refuses every configuration, with no configuration that it should refuse. The
state counts the calls, and gives the places their names. -/
def refusing : Cast Nat where
  subject :=
    { imageName := pure "refusing"
      config := tallied (.obj [])
      failConfig := Act.fail (.notConfigured "fail_config_path")
      setUp := fun _ => tallied ()
      tearDown := fun _ => pure ()
      retrieve := fun _ _ _ _ => pure [] }
  launcher :=
    { spec := fun _ => pure (.obj [("connectionSpecification", .obj [])])
      check := fun _ _ => tallied ⟨.failed, some "refused"⟩
      write := fun _ _ _ ms => pure ms }
  site :=
    { openPlace := Act.step nextPlace
      closePlace := fun _ n => n
      clock := fun n => n }

theorem both_true {α : Type} (x y : α) : Both (fun _ => True) x y := ⟨trivial, trivial⟩

theorem tallied_alike {α : Type} (x : α) :
    Act.Alike (Both fun _ => True) Eq (tallied x) (tallied x) :=
  Act.alike_step fun _ => ⟨rfl, both_true _ _⟩

theorem nextPlace_alike :
    Act.Alike (Both fun _ => True) (Both fun _ => True) (Act.step nextPlace) (Act.step nextPlace) :=
  Act.alike_step fun _ => ⟨both_true _ _, both_true _ _⟩

theorem refusing_steady : refusing.Steady (fun _ => True) (fun _ => True) where
  alike :=
    { subject :=
        { imageName := Act.alike_pure rfl
          config := tallied_alike _
          failConfig := Act.alike_fail _
          setUp := fun _ => tallied_alike _
          tearDown := fun _ => Act.alike_pure rfl
          retrieve := fun _ _ _ _ => Act.alike_pure rfl }
      launcher :=
        { spec := fun _ => Act.alike_pure rfl
          check := fun _ _ => tallied_alike _
          write := fun _ _ _ _ => Act.alike_pure rfl }
      site :=
        { openPlace := nextPlace_alike
          closePlace := fun _ h => h
          clock := fun h => h.elim } }

theorem cases_independent_refusing :
    ∃ report, runThrough refusing .builtin [.spec, .checkSuccess, .spec] 0 = .ok report ∧
      ∃ turned, runThrough refusing .builtin [.checkSuccess, .spec, .spec] 40 = .ok turned ∧
        List.Forall₂ (Outcome.Alike False) turned.outcomes
          ([1, 2, 0].filterMap (report.outcomes[·]?)) := by
  have hne : [Case.spec, .checkSuccess, .spec] ≠ [] := by decide
  obtain ⟨hiff, hall⟩ := @cases_independent _ _ _ _ _ refusing_steady .builtin hne 0 trivial
    (fun _ => 7) fun _ => trivial
  obtain ⟨report, hreport⟩ := hiff.mpr (by
    intro c hc
    simp only [List.mem_cons, List.not_mem_nil, or_false] at hc
    rcases hc with rfl | rfl | rfl
    all_goals exact ⟨_, rfl⟩)
  exact ⟨report, hreport, (hall report hreport).2.2 [1, 2, 0] 40 trivial⟩

end Suite
end Acceptance
