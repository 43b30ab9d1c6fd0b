import Acceptance.CommandLine.Program
import Acceptance.Proofs.Suite.Lifecycle

/-!
# The exit code of a run

What the exit code of the program says about the cases that were asked for.

* `Finish.code?`: the exit code of an end, if it has one.
* `Flawless`: a report in which exactly the cases asked for have passed.

Results:
* `isSuccess_iff_flawless`: a run is a success exactly if its report is flawless.
* `perform_run_exitCode`: the exit codes of a run.
-/

namespace Acceptance.CommandLine

open Suite (Outcome Report Status)

/-- The exit code of an end; where the program ends on the spot there is none. -/
def Finish.code? : Finish → Option Nat
  | exited code _ _ => some code
  | crashed => none

/-- Some cases were asked for, and the outcomes of a report are those: one for each of them, in their
order, and each of them passed. -/
def Flawless (c : Config) (r : Report) : Prop :=
  c.runner.cases ≠ [] ∧
    r.outcomes.map (fun o => (o.case, o.status)) = c.runner.cases.map fun d => (d, Status.passed)

variable {ρ κ : Type} {sys : Store.Systems κ} {runtime : Container.Runtime ρ} {c : Config}
  {s : Session ρ κ} {r : Report}

/-- A report comes from the course of the cases that were asked for. -/
theorem casesRun_of_execute (h : (execute sys runtime c s).1 = .ok r) :
    ∃ plan configs es, Suite.CasesRun plan configs c.runner.cases (.ok r.outcomes) es := by
  unfold execute at h
  cases hp : prepare c s.machine with
  | error stop =>
    rw [hp] at h
    cases h
  | ok p =>
    simp only [hp] at h
    obtain ⟨-, -, hfull⟩ :=
      Suite.transcript_fullRun (cast sys runtime c p).answers_true (plan c p) s
    cases hrun : ((Suite.run (cast sys runtime c p) (plan c p)).run s).1 with
    | error e =>
      rw [hrun] at h
      cases h
    | ok r' =>
      rw [hrun] at h hfull
      obtain rfl : r' = r := Except.ok.inj h
      obtain ⟨configs, es, hcases⟩ := hfull.cases rfl
      exact ⟨plan c p, configs, es, hcases⟩

/-- **A run is a success exactly if its report is flawless**: no case is skipped on the way to it. -/
theorem isSuccess_iff_flawless (h : (execute sys runtime c s).1 = .ok r) :
    r.isSuccess = true ↔ Flawless c r := by
  obtain ⟨plan, configs, es, hcases⟩ := casesRun_of_execute h
  rw [Report.isSuccess_iff]
  unfold Flawless
  constructor
  · rintro ⟨hne, hall⟩
    have hpassed : ∀ o ∈ r.outcomes, o.status = .passed := fun o ho =>
      Suite.Outcome.passed_iff.mp (hall o ho)
    have hmap : r.outcomes.map (·.case) = c.runner.cases := hcases.cases_eq rfl hpassed
    refine ⟨?_, ?_⟩
    · rw [← hmap]
      exact mt List.map_eq_nil_iff.mp hne
    · rw [← hmap, List.map_map]
      refine List.map_congr_left fun o ho => ?_
      show (o.case, o.status) = (o.case, Status.passed)
      rw [hpassed o ho]
  · rintro ⟨hne, hmap⟩
    refine ⟨?_, fun o ho => Suite.Outcome.passed_iff.mpr ?_⟩
    · intro hnil
      rw [hnil] at hmap
      exact hne (List.map_eq_nil_iff.mp hmap.symm)
    · have ho' : (o.case, o.status) ∈ c.runner.cases.map fun d => (d, Status.passed) := by
        rw [← hmap]
        exact List.mem_map.mpr ⟨o, ho, rfl⟩
      obtain ⟨d, -, hd⟩ := List.mem_map.mp ho'
      exact (congrArg Prod.snd hd).symm

/-! ## Exit codes -/

/-- The configuration that options ask for on a machine. -/
def Options.configuration (o : Options) (m : Host.Machine) : Except Error Config :=
  o.resolve (fun name => m.valueOf name) m

theorem code?_finishOf_ok (r : Report) :
    (finishOf (.ok r)).code? = some (if r.isSuccess then 0 else 1) := rfl

/-- A run for which there is no configuration ends with an error. -/
theorem perform_run_of_error {o : Options} {e : Error}
    (h : o.configuration s.machine = .error e) : (perform sys runtime (.run o) s).1 = failed e := by
  have h' : o.resolve (fun name => s.machine.valueOf name) s.machine = .error e := h
  simp only [perform, h']

/-- A run ends in the way in which its configuration is run. -/
theorem perform_run_of_ok {o : Options} (h : o.configuration s.machine = .ok c) :
    (perform sys runtime (.run o) s).1 = finishOf (execute sys runtime c s).1 := by
  have h' : o.resolve (fun name => s.machine.valueOf name) s.machine = .ok c := h
  simp only [perform, h']

/-- **The exit codes of a run.** It is zero exactly if there is a configuration, its run comes to a
report, and that report is flawless; two exactly if there is no configuration, or if its run ends
with an error; and one in every other case, unless the program ends on the spot. -/
theorem perform_run_exitCode (sys : Store.Systems κ) (runtime : Container.Runtime ρ) (o : Options)
    (s : Session ρ κ) :
    ((perform sys runtime (.run o) s).1.code? = some 0 ↔
      ∃ c r, o.configuration s.machine = .ok c ∧ (execute sys runtime c s).1 = .ok r ∧
        Flawless c r) ∧
    ((perform sys runtime (.run o) s).1.code? = some 2 ↔
      (∃ e, o.configuration s.machine = .error e) ∨
        ∃ c e, o.configuration s.machine = .ok c ∧
          (execute sys runtime c s).1 = .error (.error e)) ∧
    ((perform sys runtime (.run o) s).1.code? = some 1 ↔
      ∃ c r, o.configuration s.machine = .ok c ∧ (execute sys runtime c s).1 = .ok r ∧
        ¬ Flawless c r) ∧
    ((perform sys runtime (.run o) s).1.code? = none ↔
      ∃ c, o.configuration s.machine = .ok c ∧ (execute sys runtime c s).1 = .error .crash) := by
  cases hc : o.configuration s.machine with
  | error e =>
    rw [perform_run_of_error hc]
    simp [failed, Finish.code?]
  | ok c =>
    rw [perform_run_of_ok hc]
    cases hr : (execute sys runtime c s).1 with
    | error stop => cases stop <;> simp [finishOf, failed, Finish.code?, hr]
    | ok r =>
      rw [code?_finishOf_ok]
      have hflawless := isSuccess_iff_flawless hr
      by_cases hs : r.isSuccess = true
      · simp [hs, hr, hflawless.mp hs]
      · simp [hs, hr, mt hflawless.mpr hs]

end Acceptance.CommandLine
