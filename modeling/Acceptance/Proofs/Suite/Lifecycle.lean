import Acceptance.Proofs.Suite.Transcript

/-!
# The lifecycle of a run

The form of the transcript of a run, whoever takes part in it.

* `ReadingBack`, `Trying`, `CaseRun`, `CasesRun`: the exchanges while streams are read back, a case is
  tried, a case runs in its place, and cases run one after another, each with what it comes to.
* `Opening`: the exchanges in which the image and the configurations are found out.
* `FullRun`: those of a run.
* `setUps`, `tearDowns`: the places that were prepared, and those that were cleaned up.
* `transcript`: the transcript of a run.

Results:
* `tells_runCase`, `tells_runCases`, `tells_run`: what the course of a case, of cases and of a run
  adds to a transcript.
* `CasesRun.cases_eq`: a run without a failure goes through all its cases.
* `FullRun.setUps_eq`: what is prepared is cleaned up after, once and in the same place.
* `run_lifecycle`: the transcript of a run.
-/

namespace Acceptance.Suite

variable {σ : Type}

/-! ## The form of a transcript -/

/-- The exchange in which a stream is read back. -/
def Exchange.read (place : Place) (x : Fixture.Expectation) (answer : Except Error (List Json)) :
    Exchange :=
  .called (.retrieve place x.stream x.space x.schema) answer

/-- Streams are read back in order, up to the first that cannot be read or is not as expected. -/
inductive ReadingBack (place : Place) :
    List Fixture.Expectation → Except Error Status → List Exchange → Prop
  | done : ReadingBack place [] (.ok .passed) []
  | unread (x : Fixture.Expectation) (r : List Fixture.Expectation) (e : Error) :
      ReadingBack place (x :: r) (.error e) [.read place x (.error e)]
  | different (x : Fixture.Expectation) (r : List Fixture.Expectation) (actual : List Json)
      (reason : String) (hj : judgeStream x actual = .failed reason) :
      ReadingBack place (x :: r) (.ok (.failed reason)) [.read place x (.ok actual)]
  | next (x : Fixture.Expectation) {r : List Fixture.Expectation} (actual : List Json)
      {result : Except Error Status} {es : List Exchange} (hj : judgeStream x actual = .passed)
      (hr : ReadingBack place r result es) :
      ReadingBack place (x :: r) result (.read place x (.ok actual) :: es)

/-- What is tried in a case: the specification, a check with the configuration that was found out for
it, or a write of the fixture, after which the streams of its catalog are read back. -/
inductive Trying (fixture : Fixture) (configs : Configs) (place : Place) :
    Case → Except Error Status → List Exchange → Prop
  | spec (answer : Except Error Json) :
      Trying fixture configs place .spec (answer.map judgeSpec) [.called (.spec place) answer]
  | checkSuccess {config : Json} (hc : configs.config = some config)
      (answer : Except Error Message.Connection) :
      Trying fixture configs place .checkSuccess (answer.map judgeSuccess)
        [.called (.check place config) answer]
  | checkFailure {config : Json} (hc : configs.failConfig = some config)
      (answer : Except Error Message.Connection) :
      Trying fixture configs place .checkFailure (answer.map judgeFailure)
        [.called (.check place config) answer]
  | unwritten {config : Json} (hc : configs.config = some config) (e : Error) :
      Trying fixture configs place .syncRoundTrip (.error e)
        [.called (.write place config fixture.catalog fixture.messages) (.error e)]
  | unsettled {config : Json} (hc : configs.config = some config) (emitted : List Message)
      (hs : settles fixture.messages emitted = false) :
      Trying fixture configs place .syncRoundTrip
        (.ok (.failed "destination did not emit the final STATE message"))
        [.called (.write place config fixture.catalog fixture.messages) (.ok emitted)]
  | written {config : Json} (hc : configs.config = some config) (emitted : List Message)
      (hs : settles fixture.messages emitted = true) {result : Except Error Status}
      {es : List Exchange} (hr : ReadingBack place fixture.expected result es) :
      Trying fixture configs place .syncRoundTrip result
        (.called (.write place config fixture.catalog fixture.messages) (.ok emitted) :: es)

/-- The course of a case: its place is opened, the case is prepared there, tried only if it is
prepared, and cleaned up after in any case. -/
inductive CaseRun (fixture : Fixture) (configs : Configs) (c : Case) :
    Except Error Status → List Exchange → Prop
  | unopened (e : Error) : CaseRun fixture configs c (.error e) [.opened (.error e)]
  | unprepared (root : String) (place : Place) (e : Error) (cleared : Except Error Unit) :
      CaseRun fixture configs c (judge (.error (setUpError e)) cleared)
        [.opened (.ok (root, place)), .called (.setUp place) (.error e),
          .called (.tearDown place) cleared]
  | tried (root : String) (place : Place) {result : Except Error Status} {es : List Exchange}
      (ht : Trying fixture configs place c result es) (cleared : Except Error Unit) :
      CaseRun fixture configs c (judge result cleared)
        (.opened (.ok (root, place)) :: .called (.setUp place) (.ok ()) ::
          (es ++ [.called (.tearDown place) cleared]))

/-- The course of cases in their order, up to the first error, or to the first failure if that ends
the run. -/
inductive CasesRun (plan : Plan) (configs : Configs) :
    List Case → Except Error (List Outcome) → List Exchange → Prop
  | done : CasesRun plan configs [] (.ok []) []
  | aborted {c : Case} (r : List Case) {e : Error} {es : List Exchange}
      (hc : CaseRun plan.fixture configs c (.error e) es) :
      CasesRun plan configs (c :: r) (.error e) es
  | stopped (r : List Case) {o : Outcome} {es : List Exchange}
      (hc : CaseRun plan.fixture configs o.case (.ok o.status) es) (hs : plan.failFast = true)
      (hf : o.status ≠ .passed) : CasesRun plan configs (o.case :: r) (.ok [o]) es
  | next {r : List Case} {o : Outcome} {es more : List Exchange}
      {result : Except Error (List Outcome)}
      (hc : CaseRun plan.fixture configs o.case (.ok o.status) es)
      (hs : plan.failFast = true → o.status = .passed) (hr : CasesRun plan configs r result more) :
      CasesRun plan configs (o.case :: r) (result.map (o :: ·)) (es ++ more)

/-- Something is asked for exactly if it is needed. -/
def Asked (needed : Prop) (note : Except Error Json → Exchange)
    (result : Except Error (Option Json)) (es : List Exchange) : Prop :=
  (needed ∧ ∃ answer, result = answer.map some ∧ es = [note answer]) ∨
    (¬ needed ∧ result = .ok none ∧ es = [])

/-- Whether some case runs with the configuration that is expected to work. -/
def NeedsConfig (cases : List Case) : Prop := Case.checkSuccess ∈ cases ∨ Case.syncRoundTrip ∈ cases

/-- Whether some case runs with the configuration that is expected to fail. -/
def NeedsFailConfig (cases : List Case) : Prop := Case.checkFailure ∈ cases

/-- The image is found out, then the configurations that are needed. The first error ends it. -/
inductive Opening (cases : List Case) : Except Error (String × Configs) → List Exchange → Prop
  | nameless (e : Error) : Opening cases (.error e) [.called .imageName (.error e)]
  | unconfigured (image : String) {e : Error} {es : List Exchange}
      (hc : Asked (NeedsConfig cases) (.called .config) (.error e) es) :
      Opening cases (.error e) (.called .imageName (.ok image) :: es)
  | halfConfigured (image : String) {config : Option Json} {e : Error} {es fs : List Exchange}
      (hc : Asked (NeedsConfig cases) (.called .config) (.ok config) es)
      (hf : Asked (NeedsFailConfig cases) (.called .failConfig) (.error e) fs) :
      Opening cases (.error e) (.called .imageName (.ok image) :: (es ++ fs))
  | known (image : String) {config failConfig : Option Json} {es fs : List Exchange}
      (hc : Asked (NeedsConfig cases) (.called .config) (.ok config) es)
      (hf : Asked (NeedsFailConfig cases) (.called .failConfig) (.ok failConfig) fs) :
      Opening cases (.ok (image, ⟨config, failConfig⟩))
        (.called .imageName (.ok image) :: (es ++ fs))

/-- A run: what it needs is found out, and then, unless that ended it, its cases run. -/
inductive FullRun (plan : Plan) : Except Error Report → List Exchange → Prop
  | ended {e : Error} {es : List Exchange} (ho : Opening plan.cases (.error e) es) :
      FullRun plan (.error e) es
  | went {image : String} {configs : Configs} {es more : List Exchange}
      {result : Except Error (List Outcome)} (ho : Opening plan.cases (.ok (image, configs)) es)
      (hr : CasesRun plan configs plan.cases result more) :
      FullRun plan (result.map (Report.mk image)) (es ++ more)

/-- The places of the calls in which cases are prepared. -/
def setUps (es : List Exchange) : List Place := es.filterMap fun
  | .called (.setUp place) _ => some place
  | _ => none

/-- The places of the calls in which cases are cleaned up after. -/
def tearDowns (es : List Exchange) : List Place := es.filterMap fun
  | .called (.tearDown place) _ => some place
  | _ => none

/-! ## What each piece of a run adds -/

/-- All answers that a cast can give satisfy `Q`. -/
structure Cast.Answers (cast : Cast σ) (Q : Exchange → Prop) : Prop where
  opened : ∀ s, Q (.opened (cast.site.openPlace.run s).1)
  imageName : ∀ s, Q (.called .imageName (cast.subject.imageName.run s).1)
  config : ∀ s, Q (.called .config (cast.subject.config.run s).1)
  failConfig : ∀ s, Q (.called .failConfig (cast.subject.failConfig.run s).1)
  setUp : ∀ p s, Q (.called (.setUp p) ((cast.subject.setUp p).run s).1)
  tearDown : ∀ p s, Q (.called (.tearDown p) ((cast.subject.tearDown p).run s).1)
  retrieve : ∀ p n o v s, Q (.called (.retrieve p n o v) ((cast.subject.retrieve p n o v).run s).1)
  spec : ∀ p s, Q (.called (.spec p) ((cast.launcher.spec p).run s).1)
  check : ∀ p v s, Q (.called (.check p v) ((cast.launcher.check p v).run s).1)
  write : ∀ p v k ms s, Q (.called (.write p v k ms) ((cast.launcher.write p v k ms).run s).1)

theorem Cast.answers_true (cast : Cast σ) : cast.Answers fun _ => True where
  opened _ := trivial
  imageName _ := trivial
  config _ := trivial
  failConfig _ := trivial
  setUp _ _ := trivial
  tearDown _ _ := trivial
  retrieve _ _ _ _ _ := trivial
  spec _ _ := trivial
  check _ _ _ := trivial
  write _ _ _ _ _ := trivial

variable {cast : Cast σ} {Q : Exchange → Prop} {fixture : Fixture} {configs : Configs} {plan : Plan}

theorem tells_readBack (h : cast.Answers Q) (place : Place) (xs : List Fixture.Expectation) :
    Tells Q (readBack cast.subject place xs) (readBack cast.transcribed.subject place xs)
      (ReadingBack place xs) := by
  induction xs with
  | nil =>
    refine (tells_pure _).mono ?_
    rintro r es ⟨rfl, rfl⟩
    exact .done
  | cons x r ih =>
    unfold readBack
    refine (tells_noted (h.retrieve place x.stream x.space x.schema)).bind ?_ ?_
    · rintro e es rfl
      exact .unread x r e
    · rintro actual es rfl
      cases hj : judgeStream x actual with
      | passed => exact ih.mono fun _ _ hr => .next x actual hj hr
      | failed reason =>
        refine (tells_pure _).mono ?_
        rintro t es ⟨rfl, rfl⟩
        exact .different x r actual reason hj

theorem tells_roundTrip (h : cast.Answers Q) (place : Place) {config : Json}
    (hc : configs.config = some config) :
    Tells Q (roundTrip cast fixture config place) (roundTrip cast.transcribed fixture config place)
      (Trying fixture configs place .syncRoundTrip) := by
  unfold roundTrip
  refine (tells_noted (h.write place config fixture.catalog fixture.messages)).bind ?_ ?_
  · rintro e es rfl
    exact .unwritten hc e
  · rintro emitted es rfl
    cases hs : settles fixture.messages emitted with
    | true =>
      refine (tells_readBack h place fixture.expected).mono ?_
      intro t es hr
      exact .written hc emitted hs hr
    | false =>
      refine (tells_pure _).mono ?_
      rintro t es ⟨rfl, rfl⟩
      exact .unsettled hc emitted hs

/-- The configurations that a case needs have been found out. -/
structure Configs.Suit (configs : Configs) (c : Case) : Prop where
  config : c = .checkSuccess ∨ c = .syncRoundTrip → ∃ v, configs.config = some v
  failConfig : c = .checkFailure → ∃ v, configs.failConfig = some v

theorem tells_body (h : cast.Answers Q) (place : Place) {c : Case} (hc : configs.Suit c) :
    Tells Q (body cast fixture configs place c) (body cast.transcribed fixture configs place c)
      (Trying fixture configs place c) := by
  cases c with
  | spec =>
    refine ((tells_noted (h.spec place)).map judgeSpec).mono ?_
    rintro r es ⟨answer, rfl, rfl⟩
    exact .spec answer
  | checkSuccess =>
    obtain ⟨config, hv⟩ := hc.config (Or.inl rfl)
    unfold body
    rw [hv]
    refine ((tells_noted (h.check place config)).map judgeSuccess).mono ?_
    rintro r es ⟨answer, rfl, rfl⟩
    exact .checkSuccess hv answer
  | checkFailure =>
    obtain ⟨config, hv⟩ := hc.failConfig rfl
    unfold body
    rw [hv]
    refine ((tells_noted (h.check place config)).map judgeFailure).mono ?_
    rintro r es ⟨answer, rfl, rfl⟩
    exact .checkFailure hv answer
  | syncRoundTrip =>
    obtain ⟨config, hv⟩ := hc.config (Or.inr rfl)
    unfold body
    rw [hv]
    exact tells_roundTrip h place hv

theorem tells_attempt (h : cast.Answers Q) (root : String) (place : Place) {c : Case}
    (hc : configs.Suit c) :
    Tells Q (attempt cast fixture configs place c) (attempt cast.transcribed fixture configs place c)
      fun r es => ∀ cleared, CaseRun fixture configs c (judge r cleared)
        (.opened (.ok (root, place)) :: (es ++ [.called (.tearDown place) cleared])) := by
  unfold attempt
  refine (tells_noted (h.setUp place)).result.bind ?_ ?_
  · rintro e es ⟨t, ht, -⟩
    cases ht
  · rintro prepared es ⟨t, ht, rfl⟩
    obtain rfl := Except.ok.inj ht
    cases prepared with
    | ok u =>
      refine (tells_body h place hc).mono ?_
      intro r es ht cleared
      exact .tried root place ht cleared
    | error e =>
      refine (tells_fail _).mono ?_
      rintro r es ⟨rfl, rfl⟩ cleared
      exact .unprepared root place e cleared

theorem tells_runIn (h : cast.Answers Q) (root : String) (place : Place) {c : Case}
    (hc : configs.Suit c) :
    Tells Q (runIn cast fixture configs place c) (runIn cast.transcribed fixture configs place c)
      fun r es => CaseRun fixture configs c r (.opened (.ok (root, place)) :: es) := by
  unfold runIn
  refine (tells_attempt h root place hc).result.bind ?_ ?_
  · rintro e es ⟨t, ht, -⟩
    cases ht
  · rintro tried es ⟨t, ht, hrun⟩
    obtain rfl := Except.ok.inj ht
    refine (tells_noted (h.tearDown place)).result.bind ?_ ?_
    · rintro e fs ⟨t, ht, -⟩
      cases ht
    · rintro cleared fs ⟨t, ht, rfl⟩
      obtain rfl := Except.ok.inj ht
      refine (tells_give _).mono ?_
      rintro r gs ⟨rfl, rfl⟩
      rw [List.append_nil]
      exact hrun cleared

/-- **The course of a case** is the same whatever it comes to: what was prepared is cleaned up
after. -/
theorem tells_runCase (h : cast.Answers Q) {c : Case} (hc : configs.Suit c) :
    Tells Q (runCase cast fixture configs c) (runCase cast.transcribed fixture configs c)
      fun r es => CaseRun fixture configs c (r.map (·.status)) es ∧ ∀ o, r = .ok o → o.case = c := by
  unfold runCase
  refine .after (fun _ _ => rfl) (fun _ => ⟨_, rfl⟩) fun start => (tells_noted h.opened).bind ?_ ?_
  · rintro e es rfl
    exact ⟨.unopened e, fun o ho => by cases ho⟩
  · rintro ⟨root, place⟩ es rfl
    refine (tells_runIn h root place hc).result.bind ?_ ?_
    · rintro e es ⟨t, ht, -⟩
      cases ht
    · rintro status es ⟨t, ht, hrun⟩
      obtain rfl := Except.ok.inj ht
      refine .after (fun _ _ => rfl) (fun _ => ⟨_, rfl⟩) fun stop => ?_
      refine .after (fun _ _ => rfl) (fun _ => ⟨_, rfl⟩) fun _ => (tells_give status).bind ?_ ?_
      · rintro e fs ⟨rfl, rfl⟩
        rw [List.append_nil]
        exact ⟨hrun, fun o ho => by cases ho⟩
      · rintro x fs ⟨rfl, rfl⟩
        refine (tells_pure _).mono ?_
        rintro r gs ⟨rfl, rfl⟩
        simp only [List.append_nil]
        exact ⟨hrun, fun o ho => by cases ho; rfl⟩

/-- The course of cases: each adds its own exchanges, in the order of the cases. -/
theorem tells_runCases (h : cast.Answers Q) {cs : List Case} (hcs : ∀ c ∈ cs, configs.Suit c) :
    Tells Q (runCases cast plan configs cs) (runCases cast.transcribed plan configs cs)
      (CasesRun plan configs cs) := by
  induction cs with
  | nil =>
    refine (tells_pure _).mono ?_
    rintro r es ⟨rfl, rfl⟩
    exact .done
  | cons c cs ih =>
    unfold runCases
    refine (tells_runCase h (hcs c List.mem_cons_self)).bind ?_ ?_
    · rintro e es ⟨hrun, -⟩
      exact .aborted cs hrun
    · rintro o es ⟨hrun, hcase⟩
      obtain rfl := hcase o rfl
      by_cases hstop : plan.failFast = true ∧ o.status ≠ .passed
      · have hif : (plan.failFast && !o.passed) = true := by
          simpa [Outcome.passed] using hstop
        simp only [hif, if_true]
        refine (tells_pure _).mono ?_
        rintro r fs ⟨rfl, rfl⟩
        rw [List.append_nil]
        exact .stopped cs hrun hstop.1 hstop.2
      · have hif : (plan.failFast && !o.passed) = false := by
          simpa [Outcome.passed] using hstop
        have hnext : plan.failFast = true → o.status = .passed := by
          intro hf
          exact Decidable.byContradiction fun hne => hstop ⟨hf, hne⟩
        simp only [hif, Bool.false_eq_true, if_false]
        refine (ih fun d hd => hcs d (List.mem_cons_of_mem _ hd)).bind ?_ ?_
        · intro e fs hr
          exact .next hrun hnext hr
        · intro os fs hr
          refine (tells_pure _).mono ?_
          rintro r gs ⟨rfl, rfl⟩
          rw [List.append_nil]
          exact .next hrun hnext hr

theorem tells_whenNeeded {needed : Bool} {N : Prop} (hN : needed = true ↔ N) {a : Act σ Json}
    {b : Act (σ × List Exchange) Json} {note : Except Error Json → Exchange}
    (h : Tells Q a b fun r es => es = [note r]) :
    Tells Q (whenNeeded needed a) (whenNeeded needed b) (Asked N note) := by
  unfold whenNeeded
  cases needed with
  | true =>
    refine (h.map some).mono ?_
    rintro r es ⟨answer, rfl, rfl⟩
    exact Or.inl ⟨hN.mp rfl, answer, rfl, rfl⟩
  | false =>
    refine (tells_pure _).mono ?_
    rintro r es ⟨rfl, rfl⟩
    exact Or.inr ⟨fun hn => Bool.false_ne_true (hN.mpr hn), rfl, rfl⟩

theorem needsConfig_iff (cs : List Case) : cs.any Case.needsConfig = true ↔ NeedsConfig cs := by
  simp only [List.any_eq_true, Case.needsConfig, Bool.or_eq_true, beq_iff_eq, NeedsConfig]
  constructor
  · rintro ⟨c, hc, rfl | rfl⟩
    · exact Or.inl hc
    · exact Or.inr hc
  · rintro (h | h)
    · exact ⟨_, h, Or.inl rfl⟩
    · exact ⟨_, h, Or.inr rfl⟩

theorem needsFailConfig_iff (cs : List Case) :
    cs.contains Case.checkFailure = true ↔ NeedsFailConfig cs := List.contains_iff_mem

theorem tells_resolve (h : cast.Answers Q) (image : String) (cs : List Case) :
    Tells Q (resolve cast.subject cs) (resolve cast.transcribed.subject cs) fun r es =>
      Opening cs (r.map fun configs => (image, configs)) (.called .imageName (.ok image) :: es) := by
  unfold resolve
  refine (tells_whenNeeded (needsConfig_iff cs) (tells_noted h.config)).bind ?_ ?_
  · intro e es hc
    exact .unconfigured image hc
  · intro config es hc
    refine (tells_whenNeeded (needsFailConfig_iff cs) (tells_noted h.failConfig)).bind ?_ ?_
    · intro e fs hf
      exact .halfConfigured image hc hf
    · intro failConfig fs hf
      refine (tells_pure _).mono ?_
      rintro r gs ⟨rfl, rfl⟩
      rw [List.append_nil]
      exact .known image hc hf

/-- What was asked for because it is needed has been found out. -/
theorem Asked.isSome {N : Prop} {note : Except Error Json → Exchange} {v : Option Json}
    {es : List Exchange} (h : Asked N note (.ok v) es) (hN : N) : ∃ x, v = some x := by
  rcases h with ⟨-, (e | x), hx, -⟩ | ⟨hn, -⟩
  · cases hx
  · exact ⟨x, Except.ok.inj hx⟩
  · exact absurd hN hn

/-- The configurations that were found out are those that the cases need. -/
theorem Opening.suit {cs : List Case} {image : String} {configs : Configs} {es : List Exchange}
    (h : Opening cs (.ok (image, configs)) es) : ∀ c ∈ cs, configs.Suit c := by
  cases h with
  | known _ hc hf =>
    intro c hm
    refine ⟨?_, ?_⟩
    · rintro (rfl | rfl)
      · exact hc.isSome (Or.inl hm)
      · exact hc.isSome (Or.inr hm)
    · rintro rfl
      exact hf.isSome hm

/-- **The course of a run.** -/
theorem tells_run (h : cast.Answers Q) (plan : Plan) :
    Tells Q (run cast plan) (run cast.transcribed plan) (FullRun plan) := by
  unfold run
  refine (tells_noted h.imageName).bind ?_ ?_
  · rintro e es rfl
    exact .ended (.nameless e)
  · rintro image es rfl
    refine (tells_resolve h image plan.cases).bind ?_ ?_
    · intro e es ho
      exact .ended ho
    · intro configs es ho
      refine (tells_runCases h ho.suit).bind ?_ ?_
      · intro e fs hr
        exact .went ho hr
      · intro os fs hr
        refine (tells_pure _).mono ?_
        rintro r gs ⟨rfl, rfl⟩
        rw [List.append_nil]
        exact .went ho hr

/-! ## Outcomes -/

/-- **A run without a failure goes through all its cases**, whether or not a failure would end it. -/
theorem CasesRun.cases_eq {cs : List Case} {r : Except Error (List Outcome)} {es : List Exchange}
    (h : CasesRun plan configs cs r es) {os : List Outcome} (hr : r = .ok os)
    (hpassed : ∀ o ∈ os, o.status = .passed) : os.map (·.case) = cs := by
  induction h generalizing os with
  | done =>
    cases hr
    rfl
  | aborted r hc => cases hr
  | @stopped r o es hc hs hf =>
    cases hr
    exact absurd (hpassed o List.mem_cons_self) hf
  | @next r o es more result hc hs hrest ih =>
    cases result with
    | error e => cases hr
    | ok rest =>
      cases hr
      rw [List.map_cons, ih rfl fun x hx => hpassed x (List.mem_cons_of_mem _ hx)]

/-- The outcomes of a run are those of its cases. -/
theorem FullRun.cases {r : Except Error Report} {es : List Exchange} (h : FullRun plan r es)
    {report : Report} (hr : r = .ok report) :
    ∃ configs more, CasesRun plan configs plan.cases (.ok report.outcomes) more := by
  cases h with
  | ended ho => cases hr
  | @went image configs opening more result ho hcases =>
    cases result with
    | error e => cases hr
    | ok os =>
      cases hr
      exact ⟨configs, more, hcases⟩

/-! ## Preparing and cleaning up -/

theorem setUps_append (es fs : List Exchange) : setUps (es ++ fs) = setUps es ++ setUps fs :=
  List.filterMap_append

theorem tearDowns_append (es fs : List Exchange) :
    tearDowns (es ++ fs) = tearDowns es ++ tearDowns fs := List.filterMap_append

/-- Nothing is prepared or cleaned up while streams are read back. -/
theorem ReadingBack.untouched {place : Place} {xs : List Fixture.Expectation}
    {r : Except Error Status} {es : List Exchange} (h : ReadingBack place xs r es) :
    setUps es = [] ∧ tearDowns es = [] := by
  induction h with
  | done => exact ⟨rfl, rfl⟩
  | unread x r e => exact ⟨rfl, rfl⟩
  | different x r actual reason hj => exact ⟨rfl, rfl⟩
  | next x actual hj hr ih => exact ih

/-- Nothing is prepared or cleaned up while a case is tried. -/
theorem Trying.untouched {place : Place} {c : Case} {r : Except Error Status} {es : List Exchange}
    (h : Trying fixture configs place c r es) : setUps es = [] ∧ tearDowns es = [] := by
  cases h with
  | spec answer => exact ⟨rfl, rfl⟩
  | checkSuccess hc answer => exact ⟨rfl, rfl⟩
  | checkFailure hc answer => exact ⟨rfl, rfl⟩
  | unwritten hc e => exact ⟨rfl, rfl⟩
  | unsettled hc emitted hs => exact ⟨rfl, rfl⟩
  | written hc emitted hs hr => exact hr.untouched

/-- A place that was prepared for a case is cleaned up after it, and no other is. -/
theorem CaseRun.setUps_eq {c : Case} {r : Except Error Status} {es : List Exchange}
    (h : CaseRun fixture configs c r es) : setUps es = tearDowns es := by
  cases h with
  | unopened e => rfl
  | unprepared root place e cleared => rfl
  | @tried root place r es ht cleared =>
    obtain ⟨hs, hd⟩ := ht.untouched
    show place :: setUps (es ++ _) = tearDowns (es ++ _)
    rw [setUps_append, tearDowns_append, hs, hd]
    rfl

theorem CasesRun.setUps_eq {cs : List Case} {r : Except Error (List Outcome)} {es : List Exchange}
    (h : CasesRun plan configs cs r es) : setUps es = tearDowns es := by
  induction h with
  | done => rfl
  | aborted r hc => exact hc.setUps_eq
  | stopped r hc hs hf => exact hc.setUps_eq
  | next hc hs hr ih => rw [setUps_append, tearDowns_append, hc.setUps_eq, ih]

theorem Asked.untouched {N : Prop} {v : Except Error (Option Json)} {es : List Exchange}
    {note : Except Error Json → Exchange} (h : Asked N note v es)
    (hn : ∀ answer, setUps [note answer] = [] ∧ tearDowns [note answer] = []) :
    setUps es = [] ∧ tearDowns es = [] := by
  rcases h with ⟨-, answer, -, rfl⟩ | ⟨-, -, rfl⟩
  · exact hn answer
  · exact ⟨rfl, rfl⟩

/-- Nothing is prepared while a run finds out what it needs. -/
theorem Opening.untouched {cs : List Case} {r : Except Error (String × Configs)}
    {es : List Exchange} (h : Opening cs r es) : setUps es = [] ∧ tearDowns es = [] := by
  cases h with
  | nameless e => exact ⟨rfl, rfl⟩
  | unconfigured image hc => exact hc.untouched fun _ => ⟨rfl, rfl⟩
  | @halfConfigured image config e es fs hc hf =>
    obtain ⟨hs, hd⟩ := hc.untouched fun _ => ⟨rfl, rfl⟩
    obtain ⟨hs', hd'⟩ := hf.untouched fun _ => ⟨rfl, rfl⟩
    show setUps (es ++ fs) = [] ∧ tearDowns (es ++ fs) = []
    rw [setUps_append, tearDowns_append, hs, hd, hs', hd']
    exact ⟨rfl, rfl⟩
  | @known image config failConfig es fs hc hf =>
    obtain ⟨hs, hd⟩ := hc.untouched fun _ => ⟨rfl, rfl⟩
    obtain ⟨hs', hd'⟩ := hf.untouched fun _ => ⟨rfl, rfl⟩
    show setUps (es ++ fs) = [] ∧ tearDowns (es ++ fs) = []
    rw [setUps_append, tearDowns_append, hs, hd, hs', hd']
    exact ⟨rfl, rfl⟩

/-- Whatever a run comes to, each place that was prepared in it is cleaned up once, in their
order. -/
theorem FullRun.setUps_eq {r : Except Error Report} {es : List Exchange} (h : FullRun plan r es) :
    setUps es = tearDowns es := by
  cases h with
  | ended ho =>
    obtain ⟨hs, hd⟩ := ho.untouched
    rw [hs, hd]
  | went ho hr =>
    obtain ⟨hs, hd⟩ := ho.untouched
    rw [setUps_append, tearDowns_append, hs, hd, hr.setUps_eq]

/-! ## Transcripts of runs -/

/-- The transcript of a run. -/
def transcript (cast : Cast σ) (plan : Plan) (s : σ) : List Exchange :=
  ((run cast.transcribed plan).run (s, [])).2.2

/-- A transcript has the form of a run that comes to what the run comes to, and holds answers that
the cast can give. -/
theorem transcript_fullRun (h : cast.Answers Q) (plan : Plan) (s : σ) :
    (run cast.transcribed plan).run (s, []) =
        (((run cast plan).run s).1, ((run cast plan).run s).2, transcript cast plan s) ∧
      (∀ x ∈ transcript cast plan s, Q x) ∧
      FullRun plan ((run cast plan).run s).1 (transcript cast plan s) := by
  obtain ⟨es, hrun, hq, hf⟩ := (tells_run h plan).run_eq s
  have hes : transcript cast plan s = es := by rw [transcript, hrun]
  rw [hes]
  exact ⟨hrun, hq, hf⟩

/-- **The lifecycle of a run.** Keeping a transcript changes nothing; the transcript has the form of
a run, whoever takes part in it; and whatever the run comes to, every call that prepares a case is
followed by the one that cleans up after it. -/
theorem run_lifecycle (cast : Cast σ) (plan : Plan) (s : σ) :
    (run cast.transcribed plan).run (s, []) =
        (((run cast plan).run s).1, ((run cast plan).run s).2, transcript cast plan s) ∧
      FullRun plan ((run cast plan).run s).1 (transcript cast plan s) ∧
      setUps (transcript cast plan s) = tearDowns (transcript cast plan s) := by
  obtain ⟨hrun, -, hf⟩ := transcript_fullRun cast.answers_true plan s
  exact ⟨hrun, hf, hf.setUps_eq⟩

end Acceptance.Suite
