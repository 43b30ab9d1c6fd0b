import Acceptance.Config.Basic
import Acceptance.Destination.Scratch
import Acceptance.Json.Reader
import Acceptance.Store.Basic
import Acceptance.Suite.Roles

/-!
# The destination that a configuration describes (specification, section 4.1)

* `document`: the object in a file.
* `imageName`, `config`, `failConfig`: what the configuration says about the destination.
* `retrieval`: what goes wrong while records are retrieved.
* `subject`: the destination as a subject of the suite.

Results:
* `retrieval_isConfiguration`: nothing that goes wrong in a store aborts a run.
-/

namespace Acceptance.Destination

open Host (Machine)

/-- The object in a file. -/
def document (path : String) (m : Machine) : Except Error Json :=
  match m.readText path with
  | .error e => .error e
  | .ok text =>
    match Json.parse text with
    | .error f => .error (.json f)
    | .ok v => if v.isObject then .ok v else .error (.config (.notAnObject path))

/-- The image, which must not be blank. -/
def imageName (t : Config.Target) : Except Error String :=
  match t.imageName with
  | some n => if Text.isBlankText n.toList then .error (.notConfigured "image_name") else .ok n
  | none => .error (.notConfigured "image_name")

/-- The document that a setting names. -/
def namedDocument (setting : String) (path : Option String) (m : Machine) : Except Error Json :=
  match path with
  | some p => document p m
  | none => .error (.notConfigured setting)

/-- The document that a check is expected to accept. -/
def config (t : Config.Target) : Machine → Except Error Json :=
  namedDocument "config_path" t.configPath

/-- The document that a check is expected to refuse. -/
def failConfig (t : Config.Target) : Machine → Except Error Json :=
  namedDocument "fail_config_path" t.failConfigPath

/-- Whatever goes wrong in a store is an error of retrieval. -/
def retrieval : Error → Error
  | .retrieval p => .retrieval p
  | e => .retrieval (.stated e.message)

variable {σ : Type}

/-- The records of a stream in a store, if there is one. -/
def retrieve (store : Option (Store σ)) (stream : String) (space : Option String) :
    Act σ (List Json) :=
  match store with
  | none => Act.fail (.notConfigured "record store")
  | some s => .of fun x => let (r, x) := (s.fetch stream space).run x; (r.mapError retrieval, x)

/-- The destination as a subject of the suite. -/
def subject (t : Config.Target) (store : Option (Store σ)) (get : σ → Ledger × Machine)
    (set : Ledger × Machine → σ → σ) : Suite.Subject σ where
  imageName := Act.give (imageName t)
  config := Act.look fun s => config t (get s).2
  failConfig := Act.look fun s => failConfig t (get s).2
  setUp place := Act.within get set (setUp (scratchName t.imageName) place.localRoot)
  tearDown place := Act.within get set (tearDown place.localRoot)
  retrieve _ stream space _ := retrieve store stream space

theorem retrieval_isConfiguration (e : Error) : (retrieval e).isConfiguration = false := by
  cases e <;> rfl

end Acceptance.Destination
