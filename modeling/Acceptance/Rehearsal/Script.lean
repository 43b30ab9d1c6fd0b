import Acceptance.Message.Codec
import Acceptance.Store.Basic
import Acceptance.Suite.Roles

/-!
# Scripted roles

A subject and a launcher that answer from a script, for rehearsing the course of a run.

* `answerAt`: the answers of a script in their order; the last one repeats.
* `Table`, `answerOf`: the records of streams, given beforehand.
* `SubjectScript`, `LauncherScript`, `Progress`: what they answer, and how far they have come.
* `scriptedSubject`, `scriptedLauncher`, `scriptedStore`.
-/

namespace Acceptance.Rehearsal

/-- The answer to the call number `n`, counted from zero. -/
def answerAt {α : Type} (n : Nat) (script : List α) : Option α := script[n]?.or script.getLast?

/-- The answer for one stream. -/
structure Table where
  stream : String
  space : Option String
  answer : Except Error (List Json)

/-- The answer of the first table of a stream. -/
def answerOf (stream : String) (space : Option String) (ts : List Table) :
    Except Error (List Json) :=
  match ts.find? fun t => t.stream == stream && t.space == space with
  | some t => t.answer
  | none => .error (.retrieval (.stated ("raw table for " ++ stream ++ " not found")))

/-- Where records come from: tables, or whatever has been written. -/
inductive Source where
  | written
  | tables (ts : List Table)

/-- What a subject answers. -/
structure SubjectScript where
  image : Except Error String
  config : Except Error Json
  failConfig : Except Error Json
  setUps : List (Except Error Unit)
  tearDowns : List (Except Error Unit)
  source : Source

/-- What a launcher answers. A write without an answer of its own gives back the states. -/
structure LauncherScript where
  specs : List (Except Error Json)
  checks : List (Except Error Message.Connection)
  writes : List (Except Error (Option (List Message)))

/-- How many calls there were, and the messages that were written. -/
structure Progress where
  setUps : Nat
  tearDowns : Nat
  specs : Nat
  checks : Nat
  writes : Nat
  written : List Message

/-- No calls so far. -/
def Progress.start : Progress := ⟨0, 0, 0, 0, 0, []⟩

/-- A record as a destination gives it back: with the time it was emitted at. -/
def stored (r : Message.Record) : Json :=
  match r.data with
  | .obj ms =>
    .obj (Json.insertMember "_airbyte_emitted_at" (.num (.int (.ofInt64 r.emittedAt))) ms)
  | v => v

/-- The records of a stream among messages, as a destination gives them back. -/
def storedOf (stream : String) (space : Option String) (ms : List Message) : List Json :=
  (ms.filterMap (·.record)).filterMap fun r =>
    if r.stream == stream && r.space == space then some (stored r) else none

variable {σ : Type}

/-- A call that is counted and answered from a script; without a script all is well. -/
def counted {α : Type} (count : Progress → Nat) (next : Progress → Progress)
    (script : List (Except Error α)) (otherwise : Except Error α) : Act (σ × Progress) α :=
  .of fun (s, p) => ((answerAt (count p) script).getD otherwise, s, next p)

/-- A subject that answers from a script. -/
def scriptedSubject (script : SubjectScript) : Suite.Subject (σ × Progress) where
  imageName := Act.give script.image
  config := Act.give script.config
  failConfig := Act.give script.failConfig
  setUp _ := counted (·.setUps) (fun p => { p with setUps := p.setUps + 1 }) script.setUps (.ok ())
  tearDown _ :=
    counted (·.tearDowns) (fun p => { p with tearDowns := p.tearDowns + 1 }) script.tearDowns
      (.ok ())
  retrieve _ stream space _ := .look fun (_, p) =>
    match script.source with
    | .written => .ok (storedOf stream space p.written)
    | .tables ts => answerOf stream space ts

/-- A launcher that answers from a script. -/
def scriptedLauncher (script : LauncherScript) : Suite.Launcher (σ × Progress) where
  spec _ :=
    counted (·.specs) (fun p => { p with specs := p.specs + 1 }) script.specs (.ok .null)
  check _ _ :=
    counted (·.checks) (fun p => { p with checks := p.checks + 1 }) script.checks
      (.ok ⟨.succeeded, none⟩)
  write _ _ _ ms := do
    let answer ← counted (·.writes)
      (fun p => { p with writes := p.writes + 1, written := p.written ++ ms }) script.writes
      (.ok none)
    return answer.getD (ms.filter fun m => m.kind == .state)

/-- A store that answers from tables. -/
def scriptedStore (schema : String) (ts : List Table) : Store σ where
  schema := schema
  fetch stream space := Act.give (answerOf stream space ts)

end Acceptance.Rehearsal
