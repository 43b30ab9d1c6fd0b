import Acceptance.Act
import Acceptance.Catalog
import Acceptance.Message.Basic

/-!
# Who takes part in a run (specification, section 4.2)

The suite knows the destination under test only through two roles, and gets a place for every case
from a third. Each of them may keep a state and may fail.

* `Place`: what a case is given: a directory of its own.
* `Subject`: what is particular to a destination.
* `Launcher`: runs the commands of a destination.
* `Site`: provides places, and takes them back.
* `Cast`: the three together.
-/

namespace Acceptance.Suite

/-- The directory that a case may use for the state of a destination. -/
structure Place where
  localRoot : String
deriving DecidableEq, Repr

/-- What is particular to a destination. -/
structure Subject (σ : Type) where
  /-- The image of the destination. -/
  imageName : Act σ String
  /-- A configuration that a check is expected to accept. -/
  config : Act σ Json
  /-- A configuration that a check is expected to refuse. -/
  failConfig : Act σ Json
  /-- Prepares a case. -/
  setUp : Place → Act σ Unit
  /-- Takes back what was prepared. -/
  tearDown : Place → Act σ Unit
  /-- The records that the destination holds for a stream, by its name, its namespace and its
  schema. -/
  retrieve : Place → String → Option String → Json → Act σ (List Json)

/-- Runs the commands of a destination. -/
structure Launcher (σ : Type) where
  /-- The specification of the destination. -/
  spec : Place → Act σ Json
  /-- The answer of the destination to a configuration. -/
  check : Place → Json → Act σ Message.Connection
  /-- Writes messages, and gives what the destination says meanwhile. -/
  write : Place → Json → Catalog → List Message → Act σ (List Message)

/-- Provides the places of cases. -/
structure Site (σ : Type) where
  /-- A place and the root it lies in. -/
  openPlace : Act σ (String × Place)
  /-- Takes a place back, by its root. -/
  closePlace : String → σ → σ
  /-- The time, in microseconds. -/
  clock : σ → Nat

/-- Those who take part in a run. -/
structure Cast (σ : Type) where
  subject : Subject σ
  launcher : Launcher σ
  site : Site σ

end Acceptance.Suite
