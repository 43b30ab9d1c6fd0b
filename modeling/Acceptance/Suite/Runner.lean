import Acceptance.Fixture
import Acceptance.Record.Comparison
import Acceptance.Suite.Report
import Acceptance.Suite.Roles

/-!
# Running the suite (specification, section 4.6)

The image and the configurations are found out once. Then every case gets a place of its own, is
prepared, tried, and cleaned up after. An error in how the suite was set up ends the run; all other
errors only fail their case.

* `Plan`: what a run does: the cases in order, whether the first failure ends it, and the fixture.
* `roundTrip`, `body`: what is tried in a case.
* `attempt`, `judge`, `runCase`: the course of a case.
* `run`: the course of a run.

Results:
* `judge_passed_iff`: a case passes only if nothing at all went wrong.
* `judge_error_iff`: only errors of the set-up end a run.
-/

namespace Acceptance.Suite

variable {σ : Type}

/-- What a run does. -/
structure Plan where
  cases : List Case
  failFast : Bool
  fixture : Fixture

/-- All cases to the end, with the built-in fixture. -/
def Plan.standard : Plan := ⟨Case.all, false, Fixture.builtin⟩

/-- The configurations that the cases of a run need. -/
structure Configs where
  config : Option Json
  failConfig : Option Json

/-- A configuration that has to have been found out. -/
def required : Option Json → Except Error Json
  | some v => .ok v
  | none => .error (.lifecycle "connector config was not resolved")

/-! ## What is tried -/

/-- Whether a state that was emitted is the one expected. -/
def sameState (expected : Json) : Option Json → Bool
  | some v => v.same expected
  | none => false

/-- Whether the state that was emitted last is the one that was sent last, if one was. -/
def settles (sent emitted : List Message) : Bool :=
  match Message.lastState sent with
  | some expected => sameState expected (Message.lastState emitted)
  | none => true

/-- What became of the records of a stream. -/
def judgeStream (e : Fixture.Expectation) (actual : List Json) : Status :=
  if actual.isEmpty && !e.records.isEmpty then
    .failed ("no records retrieved for stream " ++ e.stream ++ " (" ++ toString e.records.length ++
      " expected)")
  else
    let c := Record.compare e.records actual
    if c.isMatch then .passed else .failed ("stream " ++ e.stream ++ ": " ++ c.message)

/-- Reads the streams back one after another, up to the first that is not as expected. -/
def readBack (subject : Subject σ) (place : Place) : List Fixture.Expectation → Act σ Status
  | [] => pure .passed
  | e :: r => do
    let actual ← subject.retrieve place e.stream e.space e.schema
    match judgeStream e actual with
    | .passed => readBack subject place r
    | .failed reason => pure (.failed reason)

/-- Writes the fixture and reads it back. -/
def roundTrip (cast : Cast σ) (fixture : Fixture) (config : Json) (place : Place) :
    Act σ Status := do
  let emitted ← cast.launcher.write place config fixture.catalog fixture.messages
  if settles fixture.messages emitted then readBack cast.subject place fixture.expected
  else pure (.failed "destination did not emit the final STATE message")

/-- What a specification is worth. -/
def judgeSpec (spec : Json) : Status :=
  match spec.get? "connectionSpecification" with
  | some (.obj _) => .passed
  | _ => .failed "spec has no connectionSpecification object"

/-- What an answer is worth that should be a success. -/
def judgeSuccess (c : Message.Connection) : Status :=
  match c.verdict with
  | .succeeded => .passed
  | .failed =>
    .failed ("expected check to succeed, destination reported: " ++ c.message.getD "no message")

/-- What an answer is worth that should be a failure. -/
def judgeFailure (c : Message.Connection) : Status :=
  match c.verdict with
  | .succeeded => .failed "expected check to fail with the failing config, but it succeeded"
  | .failed => .passed

/-- What is tried in a case. -/
def body (cast : Cast σ) (fixture : Fixture) (configs : Configs) (place : Place) :
    Case → Act σ Status
  | .spec => do return judgeSpec (← cast.launcher.spec place)
  | .checkSuccess => do
    let config ← Act.give (required configs.config)
    return judgeSuccess (← cast.launcher.check place config)
  | .checkFailure => do
    let config ← Act.give (required configs.failConfig)
    return judgeFailure (← cast.launcher.check place config)
  | .syncRoundTrip => do
    let config ← Act.give (required configs.config)
    roundTrip cast fixture config place

/-! ## The course of a case -/

/-- The error of a case that could not be prepared. -/
def setUpError (e : Error) : Error :=
  if e.isConfiguration then e else .lifecycle ("setup failed: " ++ e.message)

/-- Prepares a case and tries it. -/
def attempt (cast : Cast σ) (fixture : Fixture) (configs : Configs) (place : Place) (c : Case) :
    Act σ Status := do
  match ← (cast.subject.setUp place).result with
  | .ok () => body cast fixture configs place c
  | .error e => Act.fail (setUpError e)

/-- What the attempt and the cleaning up amount to together. -/
def judge (tried : Except Error Status) (cleared : Except Error Unit) : Except Error Status :=
  match tried with
  | .error e =>
    if e.isConfiguration then .error e
    else match cleared with
      | .ok () => .ok (.failed e.message)
      | .error d => .ok (.failed (e.message ++ "; tear down failed: " ++ d.message))
  | .ok .passed => match cleared with
    | .ok () => .ok .passed
    | .error d => .ok (.failed ("tear down failed: " ++ d.message))
  | .ok (.failed reason) => match cleared with
    | .ok () => .ok (.failed reason)
    | .error d => .ok (.failed (reason ++ "; tear down failed: " ++ d.message))

/-- The course of a case in its place: it is cleaned up after whatever happened. -/
def runIn (cast : Cast σ) (fixture : Fixture) (configs : Configs) (place : Place) (c : Case) :
    Act σ Status := do
  let tried ← (attempt cast fixture configs place c).result
  let cleared ← (cast.subject.tearDown place).result
  Act.give (judge tried cleared)

/-- The course of a case (section 4.6): a place of its own, the set-up, what is tried, and the
clean-up whatever came of it. Its place is taken back in the end, also if the run ends with it. -/
def runCase (cast : Cast σ) (fixture : Fixture) (configs : Configs) (c : Case) : Act σ Outcome := do
  let start ← Act.look fun s => .ok (cast.site.clock s)
  let (root, place) ← cast.site.openPlace
  let status ← (runIn cast fixture configs place c).result
  let stop ← Act.look fun s => .ok (cast.site.clock s)
  Act.step fun s => ((), cast.site.closePlace root s)
  return ⟨c, ← Act.give status, stop - start⟩

/-! ## The course of a run -/

/-- The cases in order, up to the first failure if that ends the run. -/
def runCases (cast : Cast σ) (plan : Plan) (configs : Configs) : List Case → Act σ (List Outcome)
  | [] => pure []
  | c :: r => do
    let o ← runCase cast plan.fixture configs c
    if plan.failFast && !o.passed then pure [o]
    else return o :: (← runCases cast plan configs r)

/-- Finds something out if it is needed. -/
def whenNeeded (needed : Bool) (a : Act σ Json) : Act σ (Option Json) :=
  if needed then do return some (← a) else pure none

/-- The configurations that some cases need. -/
def resolve (subject : Subject σ) (cases : List Case) : Act σ Configs := do
  let config ← whenNeeded (cases.any Case.needsConfig) subject.config
  let failConfig ← whenNeeded (cases.contains .checkFailure) subject.failConfig
  return ⟨config, failConfig⟩

/-- A run (section 4.6): the image, then the configurations that the cases need, then the cases. -/
def run (cast : Cast σ) (plan : Plan) : Act σ Report := do
  let image ← cast.subject.imageName
  let configs ← resolve cast.subject plan.cases
  let outcomes ← runCases cast plan configs plan.cases
  return ⟨image, outcomes⟩

theorem judge_passed_iff {tried : Except Error Status} {cleared : Except Error Unit} :
    judge tried cleared = .ok .passed ↔ tried = .ok .passed ∧ cleared = .ok () := by
  cases tried with
  | error e =>
    -- Whatever became of the clean-up, an error ends the run or makes a failure.
    refine iff_of_false ?_ ?_
    · cases he : e.isConfiguration with
      | true => simp [judge, he]
      | false => cases cleared <;> simp [judge, he]
    · rintro ⟨h, -⟩
      cases h
  | ok status =>
    cases status with
    | passed => cases cleared <;> simp [judge]
    | failed reason => cases cleared <;> simp [judge]

theorem judge_error_iff {tried : Except Error Status} {cleared : Except Error Unit} {e : Error} :
    judge tried cleared = .error e ↔ tried = .error e ∧ e.isConfiguration = true := by
  cases tried with
  | error d =>
    cases hd : d.isConfiguration with
    | true =>
      simp only [judge, hd, if_true, Except.error.injEq]
      constructor
      · rintro rfl
        exact ⟨rfl, hd⟩
      · exact And.left
    | false =>
      refine iff_of_false ?_ ?_
      · cases cleared <;> simp [judge, hd]
      · rintro ⟨h, he⟩
        cases h
        rw [hd] at he
        cases he
  | ok status =>
    cases status with
    | passed => cases cleared <;> simp [judge]
    | failed reason => cases cleared <;> simp [judge]

end Acceptance.Suite
