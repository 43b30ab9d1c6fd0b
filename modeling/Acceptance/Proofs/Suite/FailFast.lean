import Acceptance.Proofs.Suite.Likeness

/-!
# Ending with the first failure

A run that the first failure ends is the beginning of the run that goes on: it makes the same calls up
to there, and comes to the same outcomes.

* `UpToFailure`: outcomes up to the first failure.
* `Shortened`: how the course of cases that a failure ends lies in the one that goes on.

Results:
* `runCases_shortened`, `run_shortened`: cases in order, and a run, as a part of the longer one.
* `transcript_shortened`: so does the transcript.
* `failFast_truncates`: ending with the first failure only leaves out what comes after it.
-/

namespace Acceptance.Suite

variable {σ τ : Type}

/-! ## Outcomes up to a failure -/

/-- The second list holds the outcomes of the first one up to the first failure: all of them if none
failed, and otherwise the shortest part from the front that ends with a failure. -/
inductive UpToFailure : List Outcome → List Outcome → Prop
  | whole {os : List Outcome} (h : ∀ o ∈ os, o.passed = true) : UpToFailure os os
  | cut {before : List Outcome} {o : Outcome} (after : List Outcome)
      (hb : ∀ x ∈ before, x.passed = true) (ho : o.passed = false) :
      UpToFailure (before ++ o :: after) (before ++ [o])

/-- What is left out behind a failure does not decide about success. -/
theorem UpToFailure.isSuccess_eq {os part : List Outcome} (h : UpToFailure os part)
    (image : String) : (Report.mk image part).isSuccess = (Report.mk image os).isSuccess := by
  cases h with
  | whole h => rfl
  | cut after hb ho => simp [Report.isSuccess, ho]

theorem Report.Alike.isSuccess_eq {timed : Prop} {r r' : Report} (h : r.Alike timed r') :
    r.isSuccess = r'.isSuccess := by
  have hall {os os' : List Outcome} (hos : List.Forall₂ (Outcome.Alike timed) os os') :
      os.isEmpty = os'.isEmpty ∧ os.all Outcome.passed = os'.all Outcome.passed := by
    induction hos with
    | nil => exact ⟨rfl, rfl⟩
    | cons ho _ ih => exact ⟨rfl, by rw [List.all_cons, List.all_cons, ho.passed, ih.2]⟩
  obtain ⟨hempty, hpassed⟩ := hall h.outcomes
  rw [isSuccess, isSuccess, hempty, hpassed]

/-! ## The course of cases -/

/-- The cases `cs` in order, once ended by the first failure and once not: either nothing fails and
both are the same, or the first ends behind a failure, in a state in which the other goes on with the
rest of the cases. -/
inductive Shortened (goOn : List Case → Act σ (List Outcome)) (cs : List Case) :
    Except Error (List Outcome) × σ → Except Error (List Outcome) × σ → Prop
  | same {p : Except Error (List Outcome) × σ}
      (h : ∀ os, p.1 = .ok os → ∀ o ∈ os, o.passed = true) : Shortened goOn cs p p
  | cut {before : List Outcome} {o : Outcome} {rest : List Case} (t : σ) (hrest : rest <:+ cs)
      (hb : ∀ x ∈ before, x.passed = true) (ho : o.passed = false) :
      Shortened goOn cs (.ok (before ++ [o]), t)
        (((goOn rest).run t).1.map fun os => before ++ o :: os, ((goOn rest).run t).2)

/-- A case that passes is before both courses. -/
theorem Shortened.cons {goOn : List Case → Act σ (List Outcome)} {c : Case} {cs : List Case}
    {o : Outcome} (ho : o.passed = true) {p q : Except Error (List Outcome) × σ}
    (h : Shortened goOn cs p q) :
    Shortened goOn (c :: cs) (p.1.map (o :: ·), p.2) (q.1.map (o :: ·), q.2) := by
  cases h with
  | same h =>
    refine .same ?_
    intro os hos
    obtain ⟨r, t⟩ := p
    cases r with
    | error e => cases hos
    | ok rest =>
      cases hos
      exact List.forall_mem_cons.mpr ⟨ho, h rest rfl⟩
  | @cut before d rest t hrest hb hd =>
    have hmap : ((((goOn rest).run t).1.map fun os => before ++ d :: os).map (o :: ·)) =
        ((goOn rest).run t).1.map fun os => (o :: before) ++ d :: os := by
      cases ((goOn rest).run t).1 <;> rfl
    show Shortened goOn (c :: cs) (.ok ((o :: before) ++ [d]), t) (_, ((goOn rest).run t).2)
    rw [hmap]
    exact .cut t (hrest.trans (List.suffix_cons c cs)) (List.forall_mem_cons.mpr ⟨ho, hb⟩) hd

section Courses

variable (cast : Cast σ) (cases : List Case) (fixture : Fixture)

/-- **The course of cases that a failure ends** is the beginning of the course that goes on. -/
theorem runCases_shortened (configs : Configs) (cs : List Case) (s : σ) :
    Shortened (runCases cast ⟨cases, false, fixture⟩ configs) cs
      ((runCases cast ⟨cases, true, fixture⟩ configs cs).run s)
      ((runCases cast ⟨cases, false, fixture⟩ configs cs).run s) := by
  -- Both courses do the same up to the first failure, so that they part in the same state.
  induction cs generalizing s with
  | nil =>
    refine .same ?_
    intro os hos
    cases hos
    exact fun o ho => absurd ho List.not_mem_nil
  | cons c cs ih =>
    rw [runCases, runCases, Act.run_bind, Act.run_bind]
    rcases (runCase cast fixture configs c).run s with ⟨e | o, t⟩
    · exact .same nofun
    · cases ho : o.passed with
      | true =>
        simp only [Bool.not_true, Bool.and_false, Bool.false_eq_true, if_false, ho, Act.run_bind_pure]
        exact (ih t).cons ho
      | false =>
        simp only [Bool.not_false, Bool.and_true, Bool.false_eq_true, if_true, if_false, ho,
          Act.run_bind_pure]
        have hnone : ∀ x ∈ ([] : List Outcome), x.passed = true := by simp
        exact .cut t (List.suffix_cons c cs) hnone ho

/-- The configurations that were found out suit the cases that they were found out for. -/
theorem suit_of_resolve {cs : List Case} {s t : σ} {configs : Configs}
    (h : (resolve cast.subject cs).run s = (.ok configs, t)) : ∀ c ∈ cs, configs.Suit c := by
  obtain ⟨es, -, -, ho⟩ := tells_resolve cast.answers_true "" cs s []
  rw [h] at ho
  exact ho.suit

/-- **A run that a failure ends** is the beginning of the run that goes on. -/
theorem run_shortened (s : σ) :
    ((run cast ⟨cases, true, fixture⟩).run s = (run cast ⟨cases, false, fixture⟩).run s ∧
      ∀ r, ((run cast ⟨cases, false, fixture⟩).run s).1 = .ok r →
        ∀ o ∈ r.outcomes, o.passed = true) ∨
    ∃ image configs before o rest t, (∀ c ∈ rest, configs.Suit c) ∧
      (∀ x ∈ before, x.passed = true) ∧ o.passed = false ∧
      (run cast ⟨cases, true, fixture⟩).run s = (.ok ⟨image, before ++ [o]⟩, t) ∧
      (run cast ⟨cases, false, fixture⟩).run s =
        (((runCases cast ⟨cases, false, fixture⟩ configs rest).run t).1.map fun os =>
          ⟨image, before ++ o :: os⟩,
          ((runCases cast ⟨cases, false, fixture⟩ configs rest).run t).2) := by
  simp only [run, Act.run_bind]
  rcases cast.subject.imageName.run s with ⟨e | image, u⟩
  · exact Or.inl ⟨rfl, nofun⟩
  simp only
  rcases hresolve : (resolve cast.subject cases).run u with ⟨e | configs, v⟩
  · exact Or.inl ⟨rfl, nofun⟩
  simp only
  have hcourse := runCases_shortened cast cases fixture configs cases v
  generalize (runCases cast ⟨cases, true, fixture⟩ configs cases).run v = p at hcourse ⊢
  generalize (runCases cast ⟨cases, false, fixture⟩ configs cases).run v = q at hcourse ⊢
  cases hcourse with
  | same h =>
    refine Or.inl ⟨rfl, ?_⟩
    obtain ⟨r, w⟩ := p
    cases r with
    | error e => exact nofun
    | ok os =>
      rintro _ ⟨⟩
      exact h os rfl
  | @cut before o rest t hrest hb ho =>
    refine Or.inr ⟨image, configs, before, o, rest, t, ?_, hb, ho, rfl, ?_⟩
    · exact fun c hc => suit_of_resolve cast hresolve c (hrest.subset hc)
    · cases ((runCases cast ⟨cases, false, fixture⟩ configs rest).run t).1 <;> rfl

/-- The report of a run that a failure ends holds the outcomes up to that failure. -/
theorem run_upToFailure {s : σ} {long : Report}
    (h : ((run cast ⟨cases, false, fixture⟩).run s).1 = .ok long) :
    ∃ part, ((run cast ⟨cases, true, fixture⟩).run s).1 = .ok ⟨long.image, part⟩ ∧
      UpToFailure long.outcomes part := by
  rcases run_shortened cast cases fixture s with
    ⟨hsame, hpassed⟩ | ⟨image, configs, before, o, rest, t, -, hb, ho, hfast, hfull⟩
  · exact ⟨long.outcomes, by rw [hsame, h], .whole (hpassed long h)⟩
  · rw [hfull] at h
    cases hrest : ((runCases cast ⟨cases, false, fixture⟩ configs rest).run t).1 with
    | error e =>
      rw [hrest] at h
      cases h
    | ok after =>
      rw [hrest] at h
      obtain rfl := Except.ok.inj h
      exact ⟨before ++ [o], by rw [hfast], .cut after hb ho⟩

/-- Where a run fails, the run that a failure ends fails as well, or ends in a failure before. -/
theorem run_short_of_error {s : σ} {e : Error}
    (h : ((run cast ⟨cases, false, fixture⟩).run s).1 = .error e) :
    ((run cast ⟨cases, true, fixture⟩).run s).1 = .error e ∨
      ∃ image before o, ((run cast ⟨cases, true, fixture⟩).run s).1 =
        .ok ⟨image, before ++ [o]⟩ ∧ o.passed = false := by
  rcases run_shortened cast cases fixture s with
    ⟨hsame, -⟩ | ⟨image, configs, before, o, rest, t, -, -, ho, hfast, -⟩
  · exact Or.inl (by rw [hsame, h])
  · exact Or.inr ⟨image, before, o, by rw [hfast], ho⟩

/-- What was exchanged up to the first failure is the beginning of what is exchanged otherwise. -/
theorem transcript_shortened (s : σ) :
    transcript cast ⟨cases, true, fixture⟩ s <+: transcript cast ⟨cases, false, fixture⟩ s := by
  unfold transcript
  rcases run_shortened cast.transcribed cases fixture (s, []) with
    ⟨hsame, -⟩ | ⟨image, configs, before, o, rest, ⟨t, es⟩, hsuit, -, -, hfast, hfull⟩
  · exact ⟨[], by rw [hsame, List.append_nil]⟩
  · have htells : Tells _ (runCases cast ⟨cases, false, fixture⟩ configs rest) _ _ :=
      tells_runCases cast.answers_true hsuit
    obtain ⟨new, hnew, -⟩ := htells t es
    rw [hfast, hfull, hnew]
    exact List.prefix_append es new

end Courses

/-! ## Two runs -/

theorem getLast?_of_forall₂ {P : Outcome → Outcome → Prop} {before os : List Outcome} {o : Outcome}
    (h : List.Forall₂ P (before ++ [o]) os) : ∃ o', os.getLast? = some o' ∧ P o o' := by
  have hr := List.forall₂_reverse_iff.mpr h
  rw [List.reverse_append, List.reverse_singleton, List.singleton_append] at hr
  obtain ⟨o', os', ho, -, hos⟩ := List.forall₂_cons_left_iff.mp hr
  refine ⟨o', ?_, ho⟩
  rw [List.getLast?_eq_head?_reverse, hos]
  rfl

variable {R : σ → τ → Prop} {N : String × Place → String × Place → Prop} {a : Cast σ} {b : Cast τ}

/-- **Ending with the first failure only leaves out what comes after it.** Two casts are alike: they
answer in the same way to the same calls, whatever the names of the places and whatever their clocks
show. One of them takes part in a run that goes on after failures, the other, from a state that
belongs together with that of the first, in one that the first failure ends.

* If the long run comes to a report, the short one comes to a report with the outcomes up to the first
  failure, times aside, and one is a success exactly if the other is.
* If the long run fails, the short one fails with the same error or ends in a failure.
* The calls in the short run are, names aside, the first calls of the long one. -/
theorem failFast_truncates (h : a.Alike False R N b) (cases : List Case) (fixture : Fixture)
    {s : σ} {t : τ} (hst : R s t) :
    (∀ long, ((run a ⟨cases, false, fixture⟩).run s).1 = .ok long →
      ∃ short, ((run b ⟨cases, true, fixture⟩).run t).1 = .ok short ∧
        (∃ part, UpToFailure long.outcomes part ∧ (Report.mk long.image part).Alike False short) ∧
        short.isSuccess = long.isSuccess) ∧
    (∀ e, ((run a ⟨cases, false, fixture⟩).run s).1 = .error e →
      ((run b ⟨cases, true, fixture⟩).run t).1 = .error e ∨
        ∃ short o, ((run b ⟨cases, true, fixture⟩).run t).1 = .ok short ∧
          short.outcomes.getLast? = some o ∧ o.passed = false) ∧
    ∃ made, made <+: calls (transcript a ⟨cases, false, fixture⟩ s) ∧
      List.Forall₂ (Call.Alike N) made (calls (transcript b ⟨cases, true, fixture⟩ t)) := by
  have hshort := ((alike_run h ⟨cases, true, fixture⟩).run hst).1
  refine ⟨fun long hlong => ?_, fun e he => ?_, ?_⟩
  · obtain ⟨part, hpart, hcut⟩ := run_upToFailure a cases fixture hlong
    rw [hpart] at hshort
    obtain ⟨short, hrun, halike⟩ := hshort.of_ok
    refine ⟨short, hrun, ⟨part, hcut, halike⟩, ?_⟩
    rw [← halike.isSuccess_eq]
    exact hcut.isSuccess_eq long.image
  · rcases run_short_of_error a cases fixture he with herror | ⟨image, before, o, hpart, ho⟩
    · rw [herror] at hshort
      exact Or.inl hshort.of_error
    · rw [hpart] at hshort
      obtain ⟨short, hrun, halike⟩ := hshort.of_ok
      obtain ⟨o', hlast, ho'⟩ := getLast?_of_forall₂ halike.outcomes
      exact Or.inr ⟨short, o', hrun, hlast, by rw [← ho'.passed, ho]⟩
  · exact ⟨_, calls_prefix (transcript_shortened a cases fixture s),
      h.calls_transcript ⟨cases, true, fixture⟩ hst⟩

/-- Gives a specification the first time. The state counts how often that was asked for, and holds the
name of the places. -/
def giveOnce : Nat × String → Json × Nat × String
  | (0, name) => (.obj [("connectionSpecification", .obj [])], 1, name)
  | (n + 1, name) => (.null, n + 2, name)

/-- A destination that gives its specification only once. -/
def forgetful : Cast (Nat × String) where
  subject :=
    { imageName := pure "forgetful"
      config := pure (.obj [])
      failConfig := pure (.obj [])
      setUp := fun _ => pure ()
      tearDown := fun _ => pure ()
      retrieve := fun _ _ _ _ => pure [] }
  launcher :=
    { spec := fun _ => Act.step giveOnce
      check := fun _ _ => pure ⟨.succeeded, none⟩
      write := fun _ _ _ ms => pure ms }
  site :=
    { openPlace := Act.look fun s => .ok (s.2, ⟨s.2⟩)
      closePlace := fun _ s => s
      clock := fun s => s.1 + s.2.length }

/-- Two of its states in which it was asked equally often. -/
def SameCount (s t : Nat × String) : Prop := s.1 = t.1

theorem giveOnce_alike {s t : Nat × String} (h : SameCount s t) :
    (giveOnce s).1 = (giveOnce t).1 ∧ SameCount (giveOnce s).2 (giveOnce t).2 := by
  obtain ⟨n, name⟩ := s
  obtain ⟨_, name'⟩ := t
  obtain rfl : n = _ := h
  cases n <;> exact ⟨rfl, rfl⟩

theorem forgetful_alike : forgetful.Alike False SameCount (fun _ _ => True) forgetful where
  subject :=
    { imageName := Act.alike_pure rfl
      config := Act.alike_pure rfl
      failConfig := Act.alike_pure rfl
      setUp := fun _ => Act.alike_pure rfl
      tearDown := fun _ => Act.alike_pure rfl
      retrieve := fun _ _ _ _ => Act.alike_pure rfl }
  launcher :=
    { spec := fun _ => Act.alike_step giveOnce_alike
      check := fun _ _ => Act.alike_pure rfl
      write := fun _ _ _ _ => Act.alike_pure rfl }
  site :=
    { openPlace := Act.alike_look fun _ => trivial
      closePlace := fun _ hst => hst
      clock := fun h => h.elim }

theorem failFast_truncates_forgetful :
    ∃ short, ((run forgetful ⟨[.spec, .spec, .checkSuccess], true, .builtin⟩).run (0, "/b")).1 =
      .ok short ∧ short.isSuccess = false := by
  obtain ⟨hok, -, -⟩ := failFast_truncates forgetful_alike [.spec, .spec, .checkSuccess] .builtin
    (s := (0, "/tmp/a")) (t := (0, "/b")) rfl
  obtain ⟨short, hrun, -, hsuccess⟩ := hok _ rfl
  exact ⟨short, hrun, hsuccess⟩

end Acceptance.Suite
