import Acceptance.Container.Job
import Acceptance.Proofs.Suite.Simulation

/-!
# Container runtimes that know more

A container runtime whose state holds more than that of another, and which does the same.

* `Runtime.Simulates`: a runtime does what another one does, on a state that holds more.

Results:
* `simulates_perform`: jobs come to the same under both.
-/

namespace Acceptance.Container

open Act (Simulates simulates_self simulates_give simulates_step)
open Host (Machine)

variable {ρ ρ' : Type} {k : ρ' → ρ}

/-- A runtime does what another one does, on a state that holds more: `k` gives the part that the other
one works on. -/
structure Runtime.Simulates (k : ρ' → ρ) (b : Runtime ρ') (a : Runtime ρ) : Prop where
  call_eq (i : Invocation) (m : Machine) (w : ρ') :
    a.call i (m, k w) = ((b.call i (m, w)).1, (b.call i (m, w)).2.1, k (b.call i (m, w)).2.2)

/-- The state under one runtime as one under the other. -/
def onRuntime (k : ρ' → ρ) (s : Machine × ρ') : Machine × ρ := (s.1, k s.2)

theorem simulates_onFirst {α : Type} (k : ρ' → ρ) (a : Act Machine α) :
    Simulates (onRuntime k) a.onFirst a.onFirst :=
  (simulates_self _).within (fun _ => rfl) fun _ _ => rfl

variable {a : Runtime ρ} {b : Runtime ρ'} (h : b.Simulates k a) (image : String)
  (s : Config.Container) (localRoot : String) (r : Request)

include h

theorem simulates_performIn (job : String) :
    Simulates (onRuntime k) (performIn b image s job localRoot r)
      (performIn a image s job localRoot r) :=
  (simulates_onFirst k _).bind fun _ =>
    (simulates_step fun t => h.call_eq _ t.1 t.2).bind fun _ => simulates_give _

/-- **Jobs come to the same under both runtimes.** -/
theorem simulates_perform :
    Simulates (onRuntime k) (perform b image s localRoot r) (perform a image s localRoot r) :=
  (simulates_onFirst k _).bind fun job =>
    (simulates_performIn h image s localRoot r job).result.bind fun _ =>
      (simulates_step fun _ => rfl).bind fun _ => simulates_give _

end Acceptance.Container
