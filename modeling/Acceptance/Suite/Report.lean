import Acceptance.Case

/-!
# Reports (specification, section 4.6)

* `Status`: a case passed, or failed for a reason.
* `Outcome`: the status of a case and how long it took.
* `Report`: the outcomes of a run; `Report.isSuccess`, `Report.failures`, `Report.outcome?`.
* `Report.message`: the text of a report.

Results:
* `isSuccess_iff`: a run without outcomes is no success.
* `passed_iff`: when an outcome counts as passed.
-/

namespace Acceptance.Suite

/-- The status of a case. -/
inductive Status where
  | passed
  | failed (reason : String)
deriving DecidableEq, Repr

/-- The outcome of a case; the time it took is in microseconds. -/
structure Outcome where
  case : Case
  status : Status
  elapsed : Nat
deriving DecidableEq, Repr

/-- Whether a case passed. -/
def Outcome.passed (o : Outcome) : Bool := o.status == .passed

/-- The time a case took, in whole milliseconds. -/
def Outcome.milliseconds (o : Outcome) : Nat := o.elapsed / 1000

/-- The outcomes of a run, in the order of the cases. -/
structure Report where
  image : String
  outcomes : List Outcome
deriving DecidableEq, Repr

namespace Report

/-- Whether at least one case ran and none failed. -/
def isSuccess (r : Report) : Bool := !r.outcomes.isEmpty && r.outcomes.all Outcome.passed

/-- The outcomes of the cases that failed. -/
def failures (r : Report) : List Outcome := r.outcomes.filter fun o => !o.passed

/-- The first outcome of a case. -/
def outcome? (c : Case) (r : Report) : Option Outcome := r.outcomes.find? fun o => o.case == c

/-- The line of an outcome. -/
def outcomeLine (o : Outcome) : String :=
  let time := " (" ++ toString o.milliseconds ++ "ms)"
  match o.status with
  | .passed => "  PASS " ++ o.case.name ++ time
  | .failed reason => "  FAIL " ++ o.case.name ++ time ++ ": " ++ reason

/-- The text of a report. -/
def message (r : Report) : String :=
  let failed := r.failures.length
  "acceptance report for " ++ r.image ++ "\n" ++
    String.join (r.outcomes.map fun o => outcomeLine o ++ "\n") ++
    toString (r.outcomes.length - failed) ++ " passed, " ++ toString failed ++ " failed"

theorem isSuccess_iff {r : Report} :
    r.isSuccess = true ↔ r.outcomes ≠ [] ∧ ∀ o ∈ r.outcomes, o.passed = true := by
  simp [isSuccess]

end Report

theorem Outcome.passed_iff {o : Outcome} : o.passed = true ↔ o.status = .passed := by
  simp [passed]

end Acceptance.Suite
