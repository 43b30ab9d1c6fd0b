import Acceptance.CommandLine.Resolution
import Acceptance.CommandLine.Session
import Acceptance.Config.Printer

/-!
# The program (specification, section 4.7)

* `Finish`: how the program ends.
* `finishOf`: the end after a report, and after an error.
* `CommandLine.perform`: does what the command line asks for.

Results:
* `exitCode_le`: an exit code is at most two.
-/

namespace Acceptance.CommandLine

/-- How the program ends: with an exit code and what it printed, or on the spot. -/
inductive Finish where
  | exited (code : Nat) (output errors : String)
  | crashed
deriving DecidableEq, Repr

/-- The exit code after a report. -/
def exitCodeOf (r : Suite.Report) : Nat := if r.isSuccess then 0 else 1

/-- The end after an error. -/
def failed (e : Error) : Finish := .exited 2 "" ("error: " ++ e.message ++ "\n")

/-- The end after a run. -/
def finishOf : Except Stop Suite.Report → Finish
  | .ok r => .exited (exitCodeOf r) (r.message ++ "\n") ""
  | .error (.error e) => failed e
  | .error .crash => .crashed

variable {ρ κ : Type}

/-- Does what the command line asks for (section 4.7). -/
def perform (sys : Store.Systems κ) (runtime : Container.Runtime ρ) (l : CommandLine)
    (s : Session ρ κ) : Finish × Session ρ κ :=
  let lookup := fun name => s.machine.valueOf name
  match l with
  | .run o =>
    match o.resolve lookup s.machine with
    | .error e => (failed e, s)
    | .ok c => let (r, s) := execute sys runtime c s; (finishOf r, s)
  | .showConfig o =>
    match o.resolve lookup s.machine with
    | .error e => (failed e, s)
    | .ok c => match c.render with
      | .error e => (failed e, s)
      | .ok text => (.exited 0 (text ++ "\n") "", s)

theorem exitCode_le {r : Except Stop Suite.Report} {code : Nat} {output errors : String}
    (h : finishOf r = .exited code output errors) : code ≤ 2 := by
  rcases r with (e | _) | r
  · simp only [finishOf, failed, Finish.exited.injEq] at h
    omega
  · cases h
  · simp only [finishOf, exitCodeOf, Finish.exited.injEq] at h
    split at h <;> omega

end Acceptance.CommandLine
