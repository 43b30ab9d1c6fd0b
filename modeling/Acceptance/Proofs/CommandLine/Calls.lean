import Acceptance.CommandLine.Session
import Acceptance.Proofs.Container.Simulation

/-!
# The calls of the container runtime

A runtime that keeps a list of its calls is the same runtime as seen from a run.

* `Runtime.logged`: the runtime with such a list.
* `Session.logged`, `Session.plain`: the session that begins one, and the session without it.
* `calls`: the calls that a run makes.

Results:
* `simulates_cast`: keeping the list changes nothing for those who take part in a run.
* `execute_logged`: nor in a run.
-/

namespace Acceptance

open Act (Simulates simulates_self simulates_give simulates_fail simulates_look)

/-! ## Jobs -/

namespace Container

variable {ρ : Type}

/-- A container runtime that keeps a list of its calls, the last one last. -/
def Runtime.logged (runtime : Runtime ρ) : Runtime (ρ × List Invocation) where
  call i s :=
    let (ending, m, w) := runtime.call i (s.1, s.2.1)
    (ending, m, w, s.2.2 ++ [i])

theorem simulates_logged (runtime : Runtime ρ) : runtime.logged.Simulates Prod.fst runtime :=
  ⟨fun _ _ _ => rfl⟩

end Container

/-! ## Runs -/

namespace CommandLine

open Container (Invocation)

variable {ρ κ : Type}

namespace Session

/-- The session with an empty list of calls. -/
def logged (s : Session ρ κ) : Session (ρ × List Invocation) κ :=
  ⟨s.machine, (s.runtime, []), s.ledger, s.pool⟩

/-- The session without the list of calls. -/
def plain (s : Session (ρ × List Invocation) κ) : Session ρ κ :=
  ⟨s.machine, s.runtime.1, s.ledger, s.pool⟩

/-- The calls of the container runtime up to now. -/
def calls (s : Session (ρ × List Invocation) κ) : List Invocation := s.runtime.2

theorem plain_logged (s : Session ρ κ) : s.logged.plain = s := rfl

end Session

theorem simulates_launching (runtime : Container.Runtime ρ) (image : String) (s : Config.Container)
    (localRoot : String) (r : Container.Request) :
    Simulates (Session.plain (κ := κ))
      (Act.within Session.launching Session.setLaunching
        (Container.perform runtime.logged image s localRoot r))
      (Act.within Session.launching Session.setLaunching
        (Container.perform runtime image s localRoot r)) :=
  (Container.simulates_perform (Container.simulates_logged runtime) image s localRoot r).within
    (fun _ => rfl) fun _ _ => rfl

theorem simulates_providing {α : Type} (a : Act (Destination.Ledger × Host.Machine) α) :
    Simulates (Session.plain (ρ := ρ) (κ := κ))
      (Act.within Session.providing Session.setProviding a)
      (Act.within Session.providing Session.setProviding a) :=
  (simulates_self _).within (fun _ => rfl) fun _ _ => rfl

theorem simulates_retrieve (sys : Store.Systems κ) (source : Option Store.Source) (stream : String)
    (space : Option String) :
    Simulates (Session.plain (ρ := ρ))
      (Destination.retrieve (source.map fun s => s.store sys Session.fetching Session.setFetching)
        stream space)
      (Destination.retrieve (source.map fun s => s.store sys Session.fetching Session.setFetching)
        stream space) := by
  cases source with
  | none => exact simulates_fail _
  | some s => exact ⟨fun _ => rfl⟩

theorem simulates_subject (t : Config.Target) (sys : Store.Systems κ)
    (source : Option Store.Source) :
    (Destination.subject t
        (source.map fun s => s.store sys Session.fetching Session.setFetching)
        Session.providing Session.setProviding).Simulates (Session.plain (ρ := ρ))
      (Destination.subject t
        (source.map fun s => s.store sys Session.fetching Session.setFetching)
        Session.providing Session.setProviding) where
  imageName := simulates_give _
  config := simulates_look fun _ => rfl
  failConfig := simulates_look fun _ => rfl
  setUp _ := by
    simp only [Destination.subject]
    exact simulates_providing _
  tearDown _ := by
    simp only [Destination.subject]
    exact simulates_providing _
  retrieve _ stream space _ := simulates_retrieve sys source stream space

theorem simulates_launcher (runtime : Container.Runtime ρ) (image : String) (s : Config.Container) :
    (Container.launcher runtime.logged image s Session.launching Session.setLaunching).Simulates
      (Session.plain (κ := κ))
      (Container.launcher runtime image s Session.launching Session.setLaunching) where
  spec _ := (simulates_launching _ _ _ _ _).bind fun _ => simulates_give _
  check _ _ := (simulates_launching _ _ _ _ _).bind fun _ => simulates_give _
  write _ _ _ _ := (simulates_launching _ _ _ _ _).bind fun _ => simulates_give _

theorem simulates_site :
    (Host.site Session.machine Session.setMachine).Simulates (Session.plain (ρ := ρ) (κ := κ))
      (Host.site Session.machine Session.setMachine) where
  openPlace := by
    simp only [Host.site]
    exact (simulates_self _).within (fun _ => rfl) fun _ _ => rfl
  closePlace _ _ := rfl
  clock _ := rfl

variable (sys : Store.Systems κ) (runtime : Container.Runtime ρ) (c : Config) (p : Prepared)

/-- Those who take part in a run do the same whether or not calls are listed. -/
theorem simulates_cast :
    (cast sys runtime.logged c p).Simulates Session.plain (cast sys runtime c p) where
  subject := simulates_subject c.test sys p.source
  launcher := simulates_launcher runtime p.image c.docker
  site := simulates_site

/-- The calls of the container runtime in a run. -/
def callsOf (s : Session ρ κ) : List Invocation := (execute sys runtime.logged c s.logged).2.calls

/-- **Listing the calls changes nothing in a run**: it comes to the same, and leaves the same
session. -/
theorem execute_logged (s : Session ρ κ) :
    execute sys runtime c s = ((execute sys runtime.logged c s.logged).1,
      (execute sys runtime.logged c s.logged).2.plain) := by
  cases hp : prepare c s.machine with
  | error stop =>
    have hlogged : prepare c s.logged.machine = .error stop := hp
    rw [execute_of_prepare_stop hp, execute_of_prepare_stop hlogged, Session.plain_logged]
  | ok p =>
    have hlogged : prepare c s.logged.machine = .ok p := hp
    have hrun := (Suite.simulates_run (simulates_cast sys runtime c p) (plan c p)).run_eq s.logged
    rw [Session.plain_logged] at hrun
    simp only [execute, hp, hlogged, hrun]

end CommandLine
end Acceptance
