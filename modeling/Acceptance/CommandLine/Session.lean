import Acceptance.Container.Launcher
import Acceptance.Destination.Subject
import Acceptance.Fixture
import Acceptance.Host.Workspace
import Acceptance.Store.Source
import Acceptance.Suite.Runner

/-!
# Running the suite that a configuration describes (specification, section 4.7)

* `Session`: the state of a run: the machine, the container runtime, the scratch directories that
  were provided, and the idle connections.
* `Prepared`, `prepare`: what has to be there before the first container starts.
* `cast`: those who take part in the run.
* `execute`: the run.

Results:
* `execute_of_prepare_stop`: what is not prepared does not run, and leaves the session as it was.
-/

namespace Acceptance.CommandLine

open Host (Machine)

/-- The state of a run, with a container runtime of state `ρ` and connections of type `κ`. -/
structure Session (ρ κ : Type) where
  machine : Machine
  runtime : ρ
  ledger : Destination.Ledger
  pool : Store.Pool κ

namespace Session

variable {ρ κ : Type}

/-- A session that begins. -/
def start (m : Machine) (w : ρ) : Session ρ κ := ⟨m, w, .empty, .empty⟩

/-- The session with another machine. -/
def setMachine (m : Machine) (s : Session ρ κ) : Session ρ κ := { s with machine := m }

/-- What a launcher works on. -/
def launching (s : Session ρ κ) : Machine × ρ := (s.machine, s.runtime)

/-- The session after a launcher worked on it. -/
def setLaunching (x : Machine × ρ) (s : Session ρ κ) : Session ρ κ :=
  { s with machine := x.1, runtime := x.2 }

/-- What a subject works on. -/
def providing (s : Session ρ κ) : Destination.Ledger × Machine := (s.ledger, s.machine)

/-- The session after a subject worked on it. -/
def setProviding (x : Destination.Ledger × Machine) (s : Session ρ κ) : Session ρ κ :=
  { s with ledger := x.1, machine := x.2 }

/-- What a store works on. -/
def fetching (s : Session ρ κ) : Store.Pool κ × Machine := (s.pool, s.machine)

/-- The session after a store worked on it. -/
def setFetching (x : Store.Pool κ × Machine) (s : Session ρ κ) : Session ρ κ :=
  { s with pool := x.1, machine := x.2 }

end Session

/-- What a run needs beforehand. -/
structure Prepared where
  fixture : Fixture
  source : Option Store.Source
  image : String

/-- What is said to be missing where a case reads records back and nothing says where from. -/
def missingStore : String := "[records] store (required by " ++ Case.syncRoundTrip.name ++ ")"

/-- What has to be there before the first container starts. -/
def prepare (c : Config) (m : Machine) : Except Stop Prepared :=
  match Fixture.load c.test m with
  | .error e => .error (.error e)
  | .ok fixture =>
    match Store.Source.ofRecords c.records with
    | .error s => .error s
    | .ok source =>
      if source.isNone && c.runner.cases.contains .syncRoundTrip then
        .error (.error (.notConfigured missingStore))
      else match Destination.imageName c.test with
        | .error e => .error (.error e)
        | .ok image => .ok ⟨fixture, source, image⟩

variable {ρ κ : Type}

/-- Those who take part in a run. -/
def cast (sys : Store.Systems κ) (runtime : Container.Runtime ρ) (c : Config) (p : Prepared) :
    Suite.Cast (Session ρ κ) where
  subject := Destination.subject c.test
    (p.source.map fun s => s.store sys Session.fetching Session.setFetching)
    Session.providing Session.setProviding
  launcher := Container.launcher runtime p.image c.docker Session.launching Session.setLaunching
  site := Host.site Session.machine Session.setMachine

/-- What a run does. -/
def plan (c : Config) (p : Prepared) : Suite.Plan := ⟨c.runner.cases, c.runner.failFast, p.fixture⟩

/-- Runs the suite that a configuration describes. -/
def execute (sys : Store.Systems κ) (runtime : Container.Runtime ρ) (c : Config)
    (s : Session ρ κ) : Except Stop Suite.Report × Session ρ κ :=
  match prepare c s.machine with
  | .error stop => (.error stop, s)
  | .ok p =>
    let (r, s) := (Suite.run (cast sys runtime c p) (plan c p)).run s
    (r.mapError .error, s)

theorem execute_of_prepare_stop {sys : Store.Systems κ} {runtime : Container.Runtime ρ} {c : Config}
    {s : Session ρ κ} {stop : Stop} (h : prepare c s.machine = .error stop) :
    execute sys runtime c s = (.error stop, s) := by
  simp [execute, h]

end Acceptance.CommandLine
