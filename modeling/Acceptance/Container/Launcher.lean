import Acceptance.Container.Job
import Acceptance.Suite.Roles

/-!
# Destinations in containers (specification, section 4.4)

What the output of a destination means for each command.

* `firstOf`: the first message of a kind.
* `specOf`, `connectionOf`, `emittedOf`: the answers to the three commands.
* `launcher`: runs the commands of an image.

Results:
* `connectionOf_eq_ok_iff`: a status counts whatever the exit code.
* `specOf_eq_ok_iff`, `emittedOf_eq_ok_iff`: a specification and what is emitted count exactly if the
  exit code is zero.
-/

namespace Acceptance.Container

open Host (Machine)

/-- The first message of a kind. -/
def firstOf (k : Message.Kind) (o : Output) : Option Message := o.messages.find? fun m => m.kind == k

/-- Whether a command came to a good end. -/
def Output.succeeded (o : Output) : Bool := o.code == some 0

/-- The error of a command that came to a bad end. -/
def exited (image : String) (c : Command) (o : Output) : Error :=
  .launch (.exited image c.name o.code o.tail)

/-- The specification in an output. -/
def specOf (image : String) (o : Output) : Except Error Json :=
  if !o.succeeded then .error (exited image .spec o)
  else match (firstOf .spec o).bind (·.spec) with
    | some v => .ok v
    | none => .error (.launch (.silent image "SPEC"))

/-- The status in an output. -/
def connectionOf (image : String) (o : Output) : Except Error Message.Connection :=
  match (firstOf .connectionStatus o).bind (·.connection) with
  | some c => .ok c
  | none =>
    if !o.succeeded then .error (exited image .check o)
    else .error (.launch (.silent image "CONNECTION_STATUS"))

/-- What was emitted during a write. -/
def emittedOf (image : String) (o : Output) : Except Error (List Message) :=
  if !o.succeeded then .error (exited image .write o) else .ok o.messages

/-- The request for a specification. -/
def specRequest : Request := ⟨.spec, none, none, none⟩

/-- The request for a check. -/
def checkRequest (config : Json) : Request := ⟨.check, some config, none, none⟩

/-- The request for a write. -/
def writeRequest (config : Json) (catalog : Catalog) (ms : List Message) : Request :=
  ⟨.write, some config, some catalog, some (Message.write ms)⟩

variable {ρ σ : Type}

/-- Runs the commands of an image. -/
def launcher (runtime : Runtime ρ) (image : String) (s : Config.Container)
    (get : σ → Machine × ρ) (set : Machine × ρ → σ → σ) : Suite.Launcher σ where
  spec place := do
    let o ← Act.within get set (perform runtime image s place.localRoot specRequest)
    Act.give (specOf image o)
  check place config := do
    let o ← Act.within get set (perform runtime image s place.localRoot (checkRequest config))
    Act.give (connectionOf image o)
  write place config catalog ms := do
    let o ← Act.within get set
      (perform runtime image s place.localRoot (writeRequest config catalog ms))
    Act.give (emittedOf image o)

theorem specOf_eq_ok_iff {image : String} {o : Output} {v : Json} :
    specOf image o = .ok v ↔ o.code = some 0 ∧ (firstOf .spec o).bind (·.spec) = some v := by
  unfold specOf Output.succeeded
  by_cases hcode : o.code = some 0
  · cases hfirst : (firstOf .spec o).bind (·.spec) <;> simp [hcode]
  · simp [hcode]

theorem connectionOf_eq_ok_iff {image : String} {o : Output} {c : Message.Connection} :
    connectionOf image o = .ok c ↔ (firstOf .connectionStatus o).bind (·.connection) = some c := by
  unfold connectionOf
  cases hfirst : (firstOf .connectionStatus o).bind (·.connection) with
  | some d => simp
  | none => by_cases hcode : o.succeeded = true <;> simp [hcode]

theorem emittedOf_eq_ok_iff {image : String} {o : Output} {ms : List Message} :
    emittedOf image o = .ok ms ↔ o.code = some 0 ∧ o.messages = ms := by
  unfold emittedOf Output.succeeded
  by_cases h : o.code = some 0 <;> simp [h]

end Acceptance.Container
