import Acceptance.Host.Machine
import Acceptance.Suite.Roles

/-!
# Workspaces (specification, section 4.6)

The place of a case on a machine: a temporary directory with the case's own directory in it, which
goes away with everything below it when it is taken back.

* `openWorkspace`, `closeWorkspace`.
* `site`: the places of a machine.
-/

namespace Acceptance.Host

/-- The start of the names of workspaces. -/
def workspaceStem : String := "dat-harness-"

/-- The root of a new workspace, and the place in it. -/
def openWorkspace : Act Machine (String × Suite.Place) := do
  let root ← Machine.makeTemporary workspaceStem
  let localRoot := Path.join root "local"
  match ← (Machine.makeDirectories localRoot).result with
  | .ok () => return (root, ⟨localRoot⟩)
  | .error e => do
    Act.step fun m => ((), m.discard root)
    Act.fail e

/-- Takes a workspace back by its root. -/
def closeWorkspace (root : String) (m : Machine) : Machine := m.discard root

/-- The places of a machine, which is a part of a larger state. -/
def site {σ : Type} (get : σ → Machine) (set : Machine → σ → σ) : Suite.Site σ where
  openPlace := Act.within get set openWorkspace
  closePlace root s := set (closeWorkspace root (get s)) s
  clock s := (get s).clock

end Acceptance.Host
