import Acceptance.Proofs.Suite.Lifecycle
import Mathlib.Data.List.Forall2

/-!
# Errors that stay in their case

What the errors in a transcript have to do with what a run comes to.

* `Exchange.Contained`: an error that a call of a case is answered with does not come from how the
  suite was set up.

Results:
* `CaseRun.ok_of_contained`, `CasesRun.ok_of_contained`: where errors are of that kind, cases come
  to an outcome each.
* `CaseRun.flawless`: a case that passes has met no error.
* `CasesRun.blocks`: the transcript of cases, a block for each outcome.
* `run_still`: a run that fails before its cases leaves the state as it was.
-/

namespace Acceptance.Suite

variable {σ : Type} {fixture : Fixture} {configs : Configs} {plan : Plan} {reads : Bool}

/-- Whether a call belongs to the course of a case; `reads` says whether there is anything to read
records back from. -/
def Call.inCase (reads : Bool) : Call → Bool
  | imageName | config | failConfig => false
  | retrieve .. => reads
  | setUp _ | tearDown _ | spec _ | check .. | write .. => true

/-- Whether an exchange is such a call. -/
def Exchange.inCase (reads : Bool) : Exchange → Bool
  | opened _ => false
  | called call _ => call.inCase reads

/-- An error that a call of a case is answered with does not come from how the suite was set up. -/
structure Exchange.Contained (reads : Bool) (x : Exchange) : Prop where
  error : ∀ e, x.error? = some e → x.inCase reads = true → e.isConfiguration = false

variable {call : Call} {answer : Except Error call.Answer}

/-! ## Outcomes -/

/-- The error of what is made of an answer is that of the answer. -/
theorem contained_answer {f : call.Answer → Status}
    (hx : (Exchange.called call answer).Contained reads) (hcase : call.inCase reads = true)
    {e : Error} (hr : answer.map f = .error e) : e.isConfiguration = false := by
  cases answer with
  | ok v => cases hr
  | error d =>
    cases hr
    exact hx.error _ rfl hcase

theorem ReadingBack.contained {place : Place} {xs : List Fixture.Expectation}
    {r : Except Error Status} {es : List Exchange} (h : ReadingBack place xs r es)
    (hes : ∀ x ∈ es, x.Contained true) {e : Error} (hr : r = .error e) :
    e.isConfiguration = false := by
  induction h with
  | done => cases hr
  | unread x r d =>
    cases hr
    exact (hes _ List.mem_cons_self).error _ rfl rfl
  | different x r actual reason hj => cases hr
  | next x actual hj hread ih => exact ih (fun y hy => hes y (List.mem_cons_of_mem _ hy)) hr

/-- The error that ends what is tried is the answer to one of the calls. -/
theorem Trying.contained {place : Place} {c : Case} {r : Except Error Status} {es : List Exchange}
    (h : Trying fixture configs place c r es) (hreads : c = .syncRoundTrip → reads = true)
    (hes : ∀ x ∈ es, x.Contained reads) {e : Error} (hr : r = .error e) :
    e.isConfiguration = false := by
  cases h with
  | spec answer => exact contained_answer (hes _ List.mem_cons_self) rfl hr
  | checkSuccess hc answer => exact contained_answer (hes _ List.mem_cons_self) rfl hr
  | checkFailure hc answer => exact contained_answer (hes _ List.mem_cons_self) rfl hr
  | unwritten hc d =>
    cases hr
    exact (hes _ List.mem_cons_self).error _ rfl rfl
  | unsettled hc emitted hs => cases hr
  | written hc emitted hs hread =>
    obtain rfl := hreads rfl
    exact hread.contained (fun x hx => hes x (List.mem_cons_of_mem _ hx)) hr

theorem setUpError_isConfiguration (e : Error) :
    (setUpError e).isConfiguration = e.isConfiguration := by
  unfold setUpError
  cases he : e.isConfiguration with
  | true => simp [he]
  | false => simp [Error.isConfiguration]

/-- What does not come from how the suite was set up is judged. -/
theorem judge_eq_ok {tried : Except Error Status}
    (h : ∀ e, tried = .error e → e.isConfiguration = false)
    (cleared : Except Error Unit) : ∃ status, judge tried cleared = .ok status := by
  cases hj : judge tried cleared with
  | ok status => exact ⟨status, rfl⟩
  | error e =>
    obtain ⟨ht, hconf⟩ := judge_error_iff.mp hj
    rw [h e ht] at hconf
    cases hconf

/-- **A case comes to an outcome**, whatever goes wrong in it. -/
theorem CaseRun.ok_of_contained {c : Case} {r : Except Error Status} {es : List Exchange}
    (h : CaseRun fixture configs c r es) (hreads : c = .syncRoundTrip → reads = true)
    (hopen : ∀ e, Exchange.opened (.error e) ∉ es) (hes : ∀ x ∈ es, x.Contained reads) :
    ∃ status, r = .ok status := by
  cases h with
  | unopened e => exact absurd List.mem_cons_self (hopen e)
  | unprepared root place e cleared =>
    have he : e.isConfiguration = false :=
      (hes (.called (.setUp place) (.error e))
        (List.mem_cons_of_mem _ List.mem_cons_self)).error e rfl rfl
    refine judge_eq_ok ?_ cleared
    rintro d hd
    cases hd
    rw [setUpError_isConfiguration, he]
  | tried root place ht cleared =>
    refine judge_eq_ok (fun e he => ht.contained hreads ?_ he) cleared
    intro x hx
    exact hes x (List.mem_cons_of_mem _ (List.mem_cons_of_mem _ (List.mem_append_left _ hx)))

theorem CasesRun.ok_of_contained {cs : List Case} {r : Except Error (List Outcome)}
    {es : List Exchange} (h : CasesRun plan configs cs r es)
    (hreads : .syncRoundTrip ∈ cs → reads = true) (hopen : ∀ e, Exchange.opened (.error e) ∉ es)
    (hes : ∀ x ∈ es, x.Contained reads) : ∃ os, r = .ok os := by
  induction h with
  | done => exact ⟨[], rfl⟩
  | aborted r hc =>
    obtain ⟨status, hs⟩ := hc.ok_of_contained (fun h => hreads (h ▸ List.mem_cons_self)) hopen hes
    cases hs
  | @stopped r o es hc hs hf => exact ⟨[o], rfl⟩
  | @next r o es more result hc hs hr ih =>
    obtain ⟨os, rfl⟩ := ih (fun h => hreads (List.mem_cons_of_mem _ h))
      (fun e he => hopen e (List.mem_append_right _ he))
      (fun x hx => hes x (List.mem_append_right _ hx))
    exact ⟨o :: os, rfl⟩

/-! ## Blocks -/

theorem error?_eq_none_of_map {f : call.Answer → Status} {status : Status}
    (hr : answer.map f = .ok status) : (Exchange.called call answer).error? = none := by
  cases answer with
  | error e => cases hr
  | ok v => rfl

theorem ReadingBack.flawless {place : Place} {xs : List Fixture.Expectation}
    {r : Except Error Status} {es : List Exchange} (h : ReadingBack place xs r es)
    {status : Status} (hr : r = .ok status) : ∀ x ∈ es, x.error? = none := by
  induction h with
  | done => exact fun x hx => absurd hx List.not_mem_nil
  | unread x r e => cases hr
  | different x r actual reason hj =>
    intro y hy
    rw [List.mem_singleton.mp hy]
    rfl
  | next x actual hj hread ih =>
    intro y hy
    rcases List.mem_cons.mp hy with rfl | hy
    · rfl
    · exact ih hr y hy

theorem Trying.flawless {place : Place} {c : Case} {r : Except Error Status} {es : List Exchange}
    (h : Trying fixture configs place c r es) {status : Status} (hr : r = .ok status) :
    ∀ x ∈ es, x.error? = none := by
  intro x hx
  cases h with
  | spec answer =>
    rw [List.mem_singleton.mp hx]
    exact error?_eq_none_of_map hr
  | checkSuccess hc answer =>
    rw [List.mem_singleton.mp hx]
    exact error?_eq_none_of_map hr
  | checkFailure hc answer =>
    rw [List.mem_singleton.mp hx]
    exact error?_eq_none_of_map hr
  | unwritten hc e => cases hr
  | unsettled hc emitted hs =>
    rw [List.mem_singleton.mp hx]
    rfl
  | written hc emitted hs hread =>
    rcases List.mem_cons.mp hx with rfl | hx
    · rfl
    · exact hread.flawless hr x hx

/-- **A case that passes has met no error.** -/
theorem CaseRun.flawless {c : Case} {r : Except Error Status} {es : List Exchange}
    (h : CaseRun fixture configs c r es) (hr : r = .ok .passed) : ∀ x ∈ es, x.error? = none := by
  cases h with
  | unopened e => cases hr
  | unprepared root place e cleared =>
    obtain ⟨hj, -⟩ := judge_passed_iff.mp hr
    cases hj
  | tried root place ht cleared =>
    obtain ⟨hj, rfl⟩ := judge_passed_iff.mp hr
    intro x hx
    rcases List.mem_cons.mp hx with rfl | hx
    · rfl
    · rcases List.mem_cons.mp hx with rfl | hx
      · rfl
      · rcases List.mem_append.mp hx with hx | hx
        · exact ht.flawless hj x hx
        · rw [List.mem_singleton.mp hx]
          rfl

/-- The exchanges of cases that came to outcomes, a block for each. -/
theorem CasesRun.blocks {cs : List Case} {r : Except Error (List Outcome)} {es : List Exchange}
    (h : CasesRun plan configs cs r es) {os : List Outcome} (hr : r = .ok os) :
    ∃ blocks : List (List Exchange), es = blocks.flatten ∧
      List.Forall₂ (fun o b => CaseRun plan.fixture configs o.case (.ok o.status) b) os blocks := by
  induction h generalizing os with
  | done =>
    cases hr
    exact ⟨[], rfl, .nil⟩
  | aborted r hc => cases hr
  | @stopped r o es hc hs hf =>
    cases hr
    exact ⟨[es], (List.append_nil es).symm, .cons hc .nil⟩
  | @next r o es more result hc hs hrest ih =>
    cases result with
    | error e => cases hr
    | ok rest =>
      cases hr
      obtain ⟨blocks, hmore, hblocks⟩ := ih rfl
      exact ⟨es :: blocks, by rw [hmore]; rfl, .cons hc hblocks⟩

/-! ## Before the cases -/

/-- A piece of work that leaves the state as it is. -/
def Still {α : Type} (a : Act σ α) : Prop := ∀ s, (a.run s).2 = s

theorem Still.bind {α β : Type} {a : Act σ α} {f : α → Act σ β} (ha : Still a)
    (hf : ∀ x, Still (f x)) : Still (a >>= f) := by
  intro s
  have hs := ha s
  rw [Act.run_bind]
  rcases hrun : a.run s with ⟨e | x, t⟩
  · rw [hrun] at hs
    exact hs
  · rw [hrun] at hs
    obtain rfl : t = s := hs
    exact hf x t

theorem still_pure {α : Type} (x : α) : Still (pure x : Act σ α) := fun _ => rfl

/-- The subject of a cast leaves the state as it is where a run finds out what it needs. -/
structure Cast.Still (cast : Cast σ) : Prop where
  imageName : Suite.Still cast.subject.imageName
  config : Suite.Still cast.subject.config
  failConfig : Suite.Still cast.subject.failConfig

variable {cast : Cast σ} {Q : Exchange → Prop}

theorem still_whenNeeded {needed : Bool} {a : Act σ Json} (h : Still a) :
    Still (whenNeeded needed a) := by
  unfold whenNeeded
  cases needed with
  | false => exact still_pure none
  | true => exact h.bind fun v => still_pure (some v)

theorem Cast.Still.resolve (h : cast.Still) (cs : List Case) :
    Suite.Still (Suite.resolve cast.subject cs) :=
  (still_whenNeeded h.config).bind fun _ =>
    (still_whenNeeded h.failConfig).bind fun _ => still_pure _

/-- **A run that fails before its cases leaves the state as it was**; any other is the course of its
cases, after what it needed was found out. -/
theorem run_still (h : cast.Answers Q) (hstill : cast.Still) (plan : Plan) (s : σ) :
    (∃ e, (run cast plan).run s = (.error e, s)) ∨
      ∃ image configs opening more result t,
        (run cast plan).run s = (result.map (Report.mk image), t) ∧
        transcript cast plan s = opening ++ more ∧
        Opening plan.cases (.ok (image, configs)) opening ∧
        CasesRun plan configs plan.cases result more ∧ ∀ x ∈ more, Q x := by
  have hname : Tells Q cast.subject.imageName cast.transcribed.subject.imageName
      fun r es => es = [.called .imageName r] := tells_noted h.imageName
  obtain ⟨es, hnamed, -, hes⟩ := hname s []
  have hs := hstill.imageName s
  rcases himage : cast.subject.imageName.run s with ⟨e | image, t⟩
  · rw [himage] at hs
    obtain rfl : t = s := hs
    refine Or.inl ⟨e, ?_⟩
    rw [run, Act.run_bind, himage]
  rw [himage] at hs hnamed hes
  obtain rfl : t = s := hs
  obtain ⟨fs, hresolved, -, ho⟩ := tells_resolve h image plan.cases t ([] ++ es)
  have ht := hstill.resolve plan.cases t
  rcases hconfigs : (resolve cast.subject plan.cases).run t with ⟨e | configs, u⟩
  · rw [hconfigs] at ht
    obtain rfl : u = t := ht
    refine Or.inl ⟨e, ?_⟩
    rw [run, Act.run_bind, himage]
    simp only [Act.run_bind, hconfigs]
  rw [hconfigs] at ht hresolved ho
  obtain rfl : u = t := ht
  obtain ⟨more, hcases, hq, hrun⟩ := tells_runCases h ho.suit u ([] ++ es ++ fs)
  refine Or.inr ⟨image, configs, es ++ fs, more, ((runCases cast plan configs plan.cases).run u).1,
    ((runCases cast plan configs plan.cases).run u).2, ?_, ?_, ?_, hrun, hq⟩
  · rw [run, Act.run_bind, himage]
    simp only [Act.run_bind, hconfigs]
    rcases (runCases cast plan configs plan.cases).run u with ⟨e | os, v⟩ <;> rfl
  · rw [transcript, run, Act.run_bind, hnamed]
    simp only [Act.run_bind, hresolved, hcases]
    rcases (runCases cast plan configs plan.cases).run u with ⟨e | os, v⟩ <;> rfl
  · rw [hes]
    exact ho

end Acceptance.Suite
