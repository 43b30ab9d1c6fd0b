import Acceptance.Error

/-!
# The cases of the suite (specification, section 4.6)

* `Case`: the four cases; `Case.name`: their names.
* `Case.named`: the case of a name.
-/

namespace Acceptance

/-- What is tried on a destination: that it has a specification, that a check succeeds, that a check
fails, and that what is written can be read back. -/
inductive Case where
  | spec
  | checkSuccess
  | checkFailure
  | syncRoundTrip
deriving DecidableEq, Repr

namespace Case

/-- All cases, in the order in which they run by default. -/
def all : List Case := [spec, checkSuccess, checkFailure, syncRoundTrip]

/-- The name of a case. -/
def name : Case → String
  | spec => "spec"
  | checkSuccess => "check_success"
  | checkFailure => "check_failure"
  | syncRoundTrip => "sync_round_trip"

/-- The cases by their names. -/
def table : List (String × Case) := all.map fun c => (c.name, c)

/-- Whether a case runs with the configuration that is expected to work. -/
def needsConfig (c : Case) : Bool := c == checkSuccess || c == syncRoundTrip

/-- The case of a name. -/
def named (s : String) : Except Error Case :=
  match table.lookup s with
  | some c => .ok c
  | none => .error (.config (.unknownCase s))

end Case
end Acceptance
