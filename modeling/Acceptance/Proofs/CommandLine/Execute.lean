import Acceptance.Proofs.CommandLine.Calls
import Acceptance.Proofs.CommandLine.Contained
import Acceptance.Proofs.Suite.Containment

/-!
# When a run fails

A run either fails before the container runtime is called at all, or comes to a report; then what
goes wrong in a case is an outcome of that case.

* `Accounted`: outcomes that account for the transcript of a run.

Results:
* `cast_answers`, `cast_still`: what the cast of a session can answer.
* `execute_cases`: a run fails with the session as it was, or comes to a report.
* `execute_fails_early`: a run that fails has not called the runtime.
-/

namespace Acceptance.CommandLine

open Suite (Exchange Opening CaseRun transcript)

variable {ρ κ : Type}

/-! ## The cast of a session -/

variable {σ : Type} {reads : Bool}

theorem contained_called {call : Suite.Call} {a : Act σ call.Answer}
    (h : call.inCase reads = true → a.Contained) (s : σ) :
    (Exchange.called call (a.run s).1).Contained reads where
  error e he hcase := by
    cases hr : (a.run s).1 with
    | ok x =>
      rw [hr] at he
      cases he
    | error d =>
      rw [hr] at he
      cases he
      exact (h hcase).error s e hr

theorem contained_opened (answer : Except Error (String × Suite.Place)) :
    (Exchange.opened answer).Contained reads where
  error _ _ hcase := absurd hcase Bool.false_ne_true

section Cast

variable (sys : Store.Systems κ) (runtime : Container.Runtime ρ) (c : Config) (p : Prepared)

theorem contained_cast_setUp (place : Suite.Place) :
    ((cast sys runtime c p).subject.setUp place).Contained := by
  simp only [cast, Destination.subject]
  exact (Destination.contained_setUp _ _).within Session.providing Session.setProviding

theorem contained_cast_tearDown (place : Suite.Place) :
    ((cast sys runtime c p).subject.tearDown place).Contained := by
  simp only [cast, Destination.subject]
  exact (Destination.contained_tearDown _).within Session.providing Session.setProviding

theorem contained_cast_retrieve (hsource : p.source.isSome = true) (place : Suite.Place)
    (stream : String) (space : Option String) (schema : Json) :
    ((cast sys runtime c p).subject.retrieve place stream space schema).Contained := by
  obtain ⟨source, hs⟩ := Option.isSome_iff_exists.mp hsource
  show (Destination.retrieve
    (p.source.map fun s => s.store sys Session.fetching Session.setFetching)
    stream space).Contained
  rw [hs]
  exact Destination.contained_retrieve _ stream space

theorem contained_cast_launcher :
    Container.LauncherContained (cast sys runtime c p).launcher :=
  Container.contained_launcher runtime p.image c.docker Session.launching Session.setLaunching

/-- Nothing that goes wrong in a case comes from how the suite was set up, whatever the runtime and
the database systems do. -/
theorem cast_answers : (cast sys runtime c p).Answers (Exchange.Contained p.source.isSome) where
  opened _ := contained_opened _
  imageName := contained_called fun h => absurd h Bool.false_ne_true
  config := contained_called fun h => absurd h Bool.false_ne_true
  failConfig := contained_called fun h => absurd h Bool.false_ne_true
  setUp place := contained_called fun _ => contained_cast_setUp sys runtime c p place
  tearDown place := contained_called fun _ => contained_cast_tearDown sys runtime c p place
  retrieve place stream space schema := contained_called fun hsource =>
    contained_cast_retrieve sys runtime c p hsource place stream space schema
  spec place := contained_called fun _ => (contained_cast_launcher sys runtime c p).spec place
  check place v := contained_called fun _ => (contained_cast_launcher sys runtime c p).check place v
  write place v k ms := contained_called fun _ =>
    (contained_cast_launcher sys runtime c p).write place v k ms

theorem cast_still : (cast sys runtime c p).Still where
  imageName _ := rfl
  config _ := rfl
  failConfig _ := rfl

end Cast

/-- Where a case reads records back, there is something to read them from. -/
theorem isSome_source {c : Config} {m : Host.Machine} {p : Prepared} (h : prepare c m = .ok p)
    (hc : .syncRoundTrip ∈ c.runner.cases) : p.source.isSome = true := by
  unfold prepare at h
  split at h
  · cases h
  · split at h
    · cases h
    · rename_i source _
      split at h
      · cases h
      · rename_i hmissing
        split at h
        · cases h
        · cases h
          cases source with
          | some s => rfl
          | none => simp [hc] at hmissing

/-! ## Failing early -/

/-- Outcomes account for the transcript of a run: what it needed was found out, and then there is a
block of exchanges for each outcome, which is the course of its case. If an error was met in a
block, then its case has failed. -/
def Accounted (plan : Suite.Plan) (outcomes : List Suite.Outcome) (es : List Exchange) : Prop :=
  ∃ image configs opening blocks, es = opening ++ blocks.flatten ∧
    Opening plan.cases (.ok (image, configs)) opening ∧
    List.Forall₂ (fun o block => CaseRun plan.fixture configs o.case (.ok o.status) block ∧
      ∀ x ∈ block, x.error? ≠ none → o.status ≠ .passed) outcomes blocks

theorem accounted_of_casesRun {plan : Suite.Plan} {image : String} {configs : Suite.Configs}
    {opening more : List Exchange} {outcomes : List Suite.Outcome}
    (ho : Opening plan.cases (.ok (image, configs)) opening)
    (h : Suite.CasesRun plan configs plan.cases (.ok outcomes) more) :
    Accounted plan outcomes (opening ++ more) := by
  obtain ⟨blocks, rfl, hblocks⟩ := h.blocks rfl
  refine ⟨image, configs, opening, blocks, rfl, ho, hblocks.imp ?_⟩
  intro o block hrun
  refine ⟨hrun, fun x hx herror hpassed => herror ?_⟩
  exact hrun.flawless (congrArg _ hpassed) x hx

/-- A run fails with the session as it was, or comes to a report. -/
theorem execute_cases {sys : Store.Systems κ} {runtime : Container.Runtime ρ} {c : Config}
    {s : Session ρ κ}
    (hopen : ∀ p, prepare c s.machine = .ok p →
      ∀ e, Exchange.opened (.error e) ∉ transcript (cast sys runtime c p) (plan c p) s) :
    (∃ stop, execute sys runtime c s = (.error stop, s)) ∨
      ∃ p report t, prepare c s.machine = .ok p ∧ execute sys runtime c s = (.ok report, t) ∧
        Accounted (plan c p) report.outcomes (transcript (cast sys runtime c p) (plan c p) s) := by
  cases hp : prepare c s.machine with
  | error stop => exact Or.inl ⟨stop, execute_of_prepare_stop hp⟩
  | ok p =>
    have hexecute : execute sys runtime c s =
        (((Suite.run (cast sys runtime c p) (plan c p)).run s).1.mapError Stop.error,
          ((Suite.run (cast sys runtime c p) (plan c p)).run s).2) := by
      simp only [execute, hp]
    rcases Suite.run_still (cast_answers sys runtime c p) (cast_still sys runtime c p) (plan c p) s
      with ⟨e, hrun⟩ | ⟨image, configs, opening, more, result, t, hrun, htranscript, ho, hcases, hq⟩
    · rw [hrun] at hexecute
      exact Or.inl ⟨.error e, hexecute⟩
    · rw [hrun] at hexecute
      have hplaces : ∀ e, Exchange.opened (.error e) ∉ more := by
        intro e he
        refine hopen p hp e ?_
        rw [htranscript]
        exact List.mem_append_right _ he
      obtain ⟨outcomes, rfl⟩ := hcases.ok_of_contained (isSome_source hp) hplaces hq
      refine Or.inr ⟨p, ⟨image, outcomes⟩, t, rfl, hexecute, ?_⟩
      rw [htranscript]
      exact accounted_of_casesRun ho hcases

/-- A run that fails has not called the container runtime. -/
theorem callsOf_eq_nil {sys : Store.Systems κ} {runtime : Container.Runtime ρ} {c : Config}
    {s : Session ρ κ}
    (hopen : ∀ p, prepare c s.machine = .ok p →
      ∀ e, Exchange.opened (.error e) ∉ transcript (cast sys runtime c p) (plan c p) s)
    {stop : Stop} (h : (execute sys runtime c s).1 = .error stop) :
    callsOf sys runtime c s = [] := by
  have hopen' : ∀ p, prepare c s.logged.machine = .ok p → ∀ e, Exchange.opened (.error e) ∉
      transcript (cast sys runtime.logged c p) (plan c p) s.logged := by
    intro p hp
    rw [(simulates_cast sys runtime c p).transcript_eq]
    exact hopen p hp
  rw [execute_logged] at h
  rcases execute_cases hopen' with ⟨_, hlogged⟩ | ⟨_, _, _, _, hlogged, _⟩
  · rw [callsOf, hlogged]
    rfl
  · rw [hlogged] at h
    cases h

/-- **A run fails only before anything is launched.** Where the places of its cases can be opened, a
run that fails has not called the container runtime, and leaves the session as it was. Once the
runtime has been called the run comes to a report; and the outcomes of a report account for
everything that went wrong. -/
theorem execute_fails_early (sys : Store.Systems κ) (runtime : Container.Runtime ρ) (c : Config)
    (s : Session ρ κ)
    (hopen : ∀ p, prepare c s.machine = .ok p →
      ∀ e, Exchange.opened (.error e) ∉ transcript (cast sys runtime c p) (plan c p) s) :
    (∀ stop, (execute sys runtime c s).1 = .error stop →
      callsOf sys runtime c s = [] ∧ (execute sys runtime c s).2 = s) ∧
    (callsOf sys runtime c s ≠ [] → ∃ report, (execute sys runtime c s).1 = .ok report) ∧
    ∀ report, (execute sys runtime c s).1 = .ok report →
      ∃ p, prepare c s.machine = .ok p ∧
        Accounted (plan c p) report.outcomes (transcript (cast sys runtime c p) (plan c p) s) := by
  rcases execute_cases hopen with ⟨stop, h⟩ | ⟨p, report, t, hp, h, haccounted⟩
  · have hcalls : callsOf sys runtime c s = [] := callsOf_eq_nil hopen (congrArg Prod.fst h)
    rw [h]
    exact ⟨fun _ _ => ⟨hcalls, rfl⟩, fun hne => absurd hcalls hne, nofun⟩
  · rw [h]
    refine ⟨nofun, fun _ => ⟨report, rfl⟩, ?_⟩
    rintro report' hreport
    cases hreport
    exact ⟨p, hp, haccounted⟩

/-! ## A run on fixed inputs -/

/-- A configuration for a single case. -/
def specConfig : Config where
  test := { Config.Target.empty with imageName := some "rates" }
  docker := .standard
  records := .standard
  runner := ⟨[.spec], false⟩

/-- A session on a machine with a place for temporary directories, and with no container runtime. -/
def bareSession : Session Unit Empty := .start (.fresh ⟨[(["tmp"], .directory)]⟩) ()

/-- Whether a place that was to be opened was opened. -/
def isOpened : Exchange → Bool
  | .opened (.error _) => false
  | _ => true

theorem prepare_specConfig :
    prepare specConfig bareSession.machine = .ok ⟨Fixture.builtin, none, "rates"⟩ := rfl

theorem execute_specConfig_reports :
    ∃ report, (execute Store.Systems.absent Container.Runtime.absent specConfig bareSession).1 =
      .ok report := by
  refine (execute_fails_early Store.Systems.absent Container.Runtime.absent specConfig bareSession
    ?_).2.1 ?_
  · intro p hp e he
    rw [prepare_specConfig] at hp
    cases hp
    have hopened : (transcript (cast Store.Systems.absent Container.Runtime.absent specConfig
        ⟨Fixture.builtin, none, "rates"⟩) (plan specConfig ⟨Fixture.builtin, none, "rates"⟩)
        bareSession).all isOpened = true := by decide +kernel
    exact Bool.false_ne_true (List.all_eq_true.mp hopened _ he)
  · have hcalls : (callsOf Store.Systems.absent Container.Runtime.absent specConfig
        bareSession).length = 1 := by decide +kernel
    intro hnone
    rw [hnone] at hcalls
    cases hcalls

end Acceptance.CommandLine
