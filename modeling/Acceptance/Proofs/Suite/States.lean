import Acceptance.Proofs.Suite.Containment
import Acceptance.Proofs.Suite.RoundTrip

/-!
# Destinations without states

Whether a destination is found out that gives no state at all depends on the last message of the kind
`state` in the fixture alone: on whether that one carries a payload.

* `Fixture.EndsInState`: the last message of the kind `state` carries one.
* `Exchange.Stateless`: no message of that kind is among what a write gave.
* `RefusedAlone`, `RefusedInRuns`: destinations that give no state never pass the round trip of a
  fixture, on its own and as a case of a run.
* `keeper`: a destination that keeps the records of some messages and gives no state.

Results:
* `settles_stateless_iff`: without a state, only a fixture that does not end in one is settled.
* `run_keeper`: what a run with the keeper of a fixture comes to.
* `refused_iff`: for which fixtures such destinations are refused.
* `not_refused_masked`: not for one in which a state is followed by a message that only looks like it.
-/

namespace Acceptance

/-- The last message of the kind `state` carries a payload. -/
def Fixture.EndsInState (fixture : Fixture) : Prop :=
  ∃ (m : Message) (v : Json), m.IsLastState fixture.messages ∧ m.state = some v

theorem Fixture.endsInState_iff {fixture : Fixture} :
    fixture.EndsInState ↔ Message.lastState fixture.messages ≠ none := by
  rw [Ne, Option.eq_none_iff_forall_ne_some, not_forall_not]
  constructor
  · rintro ⟨m, v, hm, hv⟩
    exact ⟨v, Message.lastState_eq_some_iff.mpr ⟨m, hm, hv⟩⟩
  · rintro ⟨v, hv⟩
    obtain ⟨m, hm, hv⟩ := Message.lastState_eq_some_iff.mp hv
    exact ⟨m, v, hm, hv⟩

namespace Suite

variable {σ : Type} {fixture : Fixture} {configs : Configs} {plan : Plan}

/-- No message of the kind `state` is among some. -/
def NoState (ms : List Message) : Prop := ∀ m ∈ ms, m.kind ≠ .state

/-- If the exchange is a write that succeeded, it gave no state. -/
structure Exchange.Stateless (x : Exchange) : Prop where
  emitted : ∀ place config catalog sent (emitted : List Message),
    x = .called (.write place config catalog sent) (.ok emitted) → NoState emitted

/-- No destination whose write gives no state passes the round trip of a fixture. -/
def RefusedAlone (fixture : Fixture) : Prop :=
  ∀ {σ : Type} (cast : Cast σ) (config : Json) (place : Place) (s : σ),
    (∀ emitted t, (cast.launcher.write place config fixture.catalog fixture.messages).run s =
      (.ok emitted, t) → NoState emitted) →
    ((roundTrip cast fixture config place).run s).1 ≠ .ok .passed

/-- In no run in which writes give no state does the round trip of a fixture pass. -/
def RefusedInRuns (fixture : Fixture) : Prop :=
  ∀ {σ : Type} (cast : Cast σ) (cases : List Case) (failFast : Bool) (s : σ) (report : Report),
    (∀ x ∈ transcript cast ⟨cases, failFast, fixture⟩ s, x.Stateless) →
    ((run cast ⟨cases, failFast, fixture⟩).run s).1 = .ok report →
    ∀ o ∈ report.outcomes, o.case = .syncRoundTrip → o.status ≠ .passed

/-! ## What is refused -/

/-- Without a state, only a fixture that does not end in one is settled. -/
theorem settles_stateless_iff {sent emitted : List Message} (h : NoState emitted) :
    settles sent emitted = true ↔ Message.lastState sent = none := by
  rw [settles_iff, Option.eq_none_iff_forall_ne_some]
  refine forall_congr' fun v => imp_congr_right fun _ => iff_false_intro ?_
  rintro ⟨w, hw, -⟩
  obtain ⟨m, ⟨hkind, before, after, rfl, -⟩, -⟩ := Message.lastState_eq_some_iff.mp hw
  exact h m (List.mem_append_right before List.mem_cons_self) hkind

theorem refusedAlone_of_endsInState (h : fixture.EndsInState) : RefusedAlone fixture := by
  intro σ cast config place s hwrite hpassed
  obtain ⟨emitted, t, hemitted, hsettles, -⟩ :=
    (roundTrip_eq_passed_iff cast fixture config place s).mp hpassed
  exact Fixture.endsInState_iff.mp h
    ((settles_stateless_iff (hwrite emitted t hemitted)).mp hsettles)

/-- A round trip that passed without a state was of a fixture that does not end in one. -/
theorem CaseRun.lastState_eq_none {r : Except Error Status} {es : List Exchange}
    (h : CaseRun fixture configs .syncRoundTrip r es) (hr : r = .ok .passed)
    (hes : ∀ x ∈ es, x.Stateless) : Message.lastState fixture.messages = none := by
  cases h with
  | unopened e => cases hr
  | unprepared root place e cleared =>
    obtain ⟨hj, -⟩ := judge_passed_iff.mp hr
    cases hj
  | tried root place ht cleared =>
    obtain ⟨hj, -⟩ := judge_passed_iff.mp hr
    cases ht with
    | unwritten hc e => cases hj
    | unsettled hc emitted hs => cases hj
    | @written config hc emitted hs result es hread =>
      have hwrite : Exchange.Stateless (.called (.write place config fixture.catalog
          fixture.messages) (.ok emitted)) :=
        hes _ (List.mem_cons_of_mem _ (List.mem_cons_of_mem _ List.mem_cons_self))
      exact (settles_stateless_iff (hwrite.emitted _ _ _ _ emitted rfl)).mp hs

theorem CasesRun.lastState_eq_none {cs : List Case} {r : Except Error (List Outcome)}
    {es : List Exchange} (h : CasesRun plan configs cs r es) (hes : ∀ x ∈ es, x.Stateless)
    {os : List Outcome} (hr : r = .ok os) {o : Outcome} (ho : o ∈ os)
    (hcase : o.case = .syncRoundTrip) (hpassed : o.status = .passed) :
    Message.lastState plan.fixture.messages = none := by
  have hone {es : List Exchange} (hc : CaseRun plan.fixture configs o.case (.ok o.status) es)
      (hes : ∀ x ∈ es, x.Stateless) : Message.lastState plan.fixture.messages = none := by
    rw [hcase, hpassed] at hc
    exact hc.lastState_eq_none rfl hes
  induction h generalizing os with
  | done =>
    cases hr
    cases ho
  | aborted r hc => cases hr
  | stopped r hc hs hf =>
    cases hr
    rw [List.mem_singleton] at ho
    exact hone (ho ▸ hc) hes
  | @next r o' es more result hc hs hrest ih =>
    cases result with
    | error e => cases hr
    | ok rest =>
      cases hr
      rcases List.mem_cons.mp ho with rfl | ho
      · exact hone hc fun x hx => hes x (List.mem_append_left _ hx)
      · exact ih (fun x hx => hes x (List.mem_append_right _ hx)) rfl ho

theorem FullRun.lastState_eq_none {r : Except Error Report} {es : List Exchange}
    (h : FullRun plan r es) (hes : ∀ x ∈ es, x.Stateless) {report : Report} (hr : r = .ok report)
    {o : Outcome} (ho : o ∈ report.outcomes) (hcase : o.case = .syncRoundTrip)
    (hpassed : o.status = .passed) : Message.lastState plan.fixture.messages = none := by
  cases h with
  | ended hopening => cases hr
  | @went image configs opening more result hopening hcases =>
    cases result with
    | error e => cases hr
    | ok os =>
      cases hr
      exact hcases.lastState_eq_none (fun x hx => hes x (List.mem_append_right _ hx)) rfl ho hcase
        hpassed

theorem refusedInRuns_of_endsInState (h : fixture.EndsInState) : RefusedInRuns fixture := by
  intro σ cast cases failFast s report hes hreport o ho hcase hpassed
  obtain ⟨-, -, hrun⟩ := transcript_fullRun cast.answers_true ⟨cases, failFast, fixture⟩ s
  exact Fixture.endsInState_iff.mp h (hrun.lastState_eq_none hes hreport ho hcase hpassed)

/-! ## What passes -/

/-- A destination that keeps the records of some messages, and gives no state. -/
def keeper (ms : List Message) : Cast Unit where
  subject :=
    { imageName := pure "keeper"
      config := pure (.obj [])
      failConfig := pure (.obj [])
      setUp := fun _ => pure ()
      tearDown := fun _ => pure ()
      retrieve := fun _ stream space _ => pure (Fixture.dataOf stream space ms) }
  launcher :=
    { spec := fun _ => pure (.obj [("connectionSpecification", .obj [])])
      check := fun _ _ => pure ⟨.succeeded, none⟩
      write := fun _ _ _ _ => pure [] }
  site :=
    { openPlace := pure ("/tmp/a", ⟨"/tmp/a/local"⟩)
      closePlace := fun _ s => s
      clock := fun _ => 0 }

theorem keeper_stateless (ms : List Message) : (keeper ms).Answers Exchange.Stateless where
  opened _ := ⟨nofun⟩
  imageName _ := ⟨nofun⟩
  config _ := ⟨nofun⟩
  failConfig _ := ⟨nofun⟩
  setUp _ _ := ⟨nofun⟩
  tearDown _ _ := ⟨nofun⟩
  retrieve _ _ _ _ _ := ⟨nofun⟩
  spec _ _ := ⟨nofun⟩
  check _ _ _ := ⟨nofun⟩
  write _ _ _ _ _ := ⟨fun _ _ _ _ emitted h => by
    cases h
    exact List.forall_mem_nil _⟩

/-- Every stream is kept as it was written. -/
theorem holds_keeper (ms : List Message) (place : Place) (es : List Catalog.Entry) (s : Unit) :
    List.Forall₂ (Holds ms) es (answers (keeper ms).subject place es s) := by
  induction es with
  | nil => exact .nil
  | cons e r ih =>
    refine .cons ⟨_, rfl, ?_⟩ ih
    rw [Fixture.dataOf_eq_filterMap]
    exact .refl _

theorem roundTrip_keeper (h : ¬fixture.EndsInState) (config : Json) (place : Place) :
    roundTrip (keeper fixture.messages) fixture config place = pure .passed := by
  have hlast : Message.lastState fixture.messages = none := by
    by_contra hne
    exact h (Fixture.endsInState_iff.mpr hne)
  have hsettles : settles fixture.messages [] = true :=
    (settles_stateless_iff (List.forall_mem_nil _)).mpr hlast
  refine funext fun s => Prod.ext ?_ rfl
  exact (roundTrip_eq_passed_iff _ fixture config place s).mpr
    ⟨[], s, rfl, hsettles, holds_keeper fixture.messages place fixture.catalog.streams s⟩

/-- The round trip with the keeper of a fixture passes in a run if the fixture does not end in a
state. -/
theorem run_keeper (h : ¬fixture.EndsInState) :
    (run (keeper fixture.messages) ⟨[.syncRoundTrip], false, fixture⟩).run () =
      (.ok ⟨"keeper", [⟨.syncRoundTrip, .passed, 0⟩]⟩, ()) := by
  have hbody (place : Place) : body (keeper fixture.messages) fixture ⟨some (.obj []), none⟩ place
      .syncRoundTrip = pure .passed := roundTrip_keeper h (.obj []) place
  have hcase : runCase (keeper fixture.messages) fixture ⟨some (.obj []), none⟩ .syncRoundTrip =
      pure ⟨.syncRoundTrip, .passed, 0⟩ := by
    unfold runCase runIn attempt
    simp only [hbody]
    rfl
  refine Act.run_bind_eq_ok_iff.mpr ⟨"keeper", (), rfl, ?_⟩
  refine Act.run_bind_eq_ok_iff.mpr ⟨⟨some (.obj []), none⟩, (), rfl, ?_⟩
  refine Act.run_bind_eq_ok_iff.mpr ⟨[⟨.syncRoundTrip, .passed, 0⟩], (), ?_, rfl⟩
  exact Act.run_bind_eq_ok_iff.mpr ⟨⟨.syncRoundTrip, .passed, 0⟩, (), by rw [hcase]; rfl, rfl⟩

/-! ## The last state -/

theorem endsInState_of_refusedAlone (h : RefusedAlone fixture) : fixture.EndsInState := by
  by_contra hlast
  refine h (keeper fixture.messages) (.obj []) ⟨"/tmp/a/local"⟩ () ?_ ?_
  · rintro emitted t hemitted
    cases hemitted
    exact List.forall_mem_nil _
  · rw [roundTrip_keeper hlast]
    rfl

theorem endsInState_of_refusedInRuns (h : RefusedInRuns fixture) : fixture.EndsInState := by
  by_contra hlast
  obtain ⟨-, hstateless, -⟩ := transcript_fullRun (keeper_stateless fixture.messages)
    ⟨[.syncRoundTrip], false, fixture⟩ ()
  exact h (keeper fixture.messages) [.syncRoundTrip] false () _ hstateless
    (by rw [run_keeper hlast]) _ List.mem_cons_self rfl rfl

/-- **Destinations that give no state are refused exactly by the fixtures that end in one**, on their
own and in every run. A state before that is not asked for if the last message of its kind carries no
payload. -/
theorem refused_iff (fixture : Fixture) :
    (RefusedAlone fixture ↔ fixture.EndsInState) ∧ (RefusedInRuns fixture ↔ fixture.EndsInState) :=
  ⟨⟨endsInState_of_refusedAlone, refusedAlone_of_endsInState⟩,
    ⟨endsInState_of_refusedInRuns, refusedInRuns_of_endsInState⟩⟩

/-- A record, a state, and behind it a message of the kind `state` that carries no payload. -/
def masked : Fixture :=
  ⟨⟨[⟨⟨"users", none, .obj [], [.fullRefresh]⟩, .fullRefresh, .append⟩]⟩,
    [.ofRecord ⟨"users", none, .obj [("id", .bool true)], 1⟩,
      .ofState (.obj [("cursor", .bool true)]), .empty .state]⟩

/-- The fixture holds a state, and its round trip passes with a destination that gives none. -/
theorem not_refused_masked :
    (∃ m ∈ masked.messages, m.kind = .state ∧ m.state.isSome) ∧
      (∀ x ∈ transcript (keeper masked.messages) ⟨[.syncRoundTrip], false, masked⟩ (),
        x.Stateless) ∧
      (run (keeper masked.messages) ⟨[.syncRoundTrip], false, masked⟩).run () =
        (.ok ⟨"keeper", [⟨.syncRoundTrip, .passed, 0⟩]⟩, ()) ∧
      ¬RefusedAlone masked ∧ ¬RefusedInRuns masked := by
  have hlast : ¬masked.EndsInState := fun h => Fixture.endsInState_iff.mp h rfl
  obtain ⟨-, hstateless, -⟩ := transcript_fullRun (keeper_stateless masked.messages)
    ⟨[.syncRoundTrip], false, masked⟩ ()
  have hstate : Message.ofState (.obj [("cursor", .bool true)]) ∈ masked.messages :=
    List.mem_cons_of_mem _ List.mem_cons_self
  exact ⟨⟨_, hstate, rfl, rfl⟩, hstateless, run_keeper hlast,
    fun h => hlast (endsInState_of_refusedAlone h), fun h => hlast (endsInState_of_refusedInRuns h)⟩

end Suite
end Acceptance
