import Acceptance.Suite.Roles

/-!
# Traces of a run

* `Call`: a call to the subject or the launcher, with its arguments; `Call.Answer`: what it is
  answered with.
* `Exchange`: a place that was opened or a call that was made, with the answer.
* `Cast.noted`: the same cast, keeping a list of notes on what is exchanged with it.
* `Event`, `Cast.recorded`: notes of the calls, and whether their places were there when they were
  made.
* `Cast.transcribed`: notes of the exchanges themselves.

Results:
* `run_noted`: noting a piece of work changes neither its result nor its state.
-/

namespace Acceptance.Suite

/-- A call, with its arguments. -/
inductive Call where
  | imageName
  | config
  | failConfig
  | setUp (place : Place)
  | tearDown (place : Place)
  | retrieve (place : Place) (stream : String) (space : Option String) (schema : Json)
  | spec (place : Place)
  | check (place : Place) (config : Json)
  | write (place : Place) (config : Json) (catalog : Catalog) (messages : List Message)

/-- The place of a call, if it has one. -/
def Call.place? : Call → Option Place
  | imageName | config | failConfig => none
  | setUp p | tearDown p | retrieve p _ _ _ | spec p | check p _ | write p _ _ _ => some p

/-- What a call is answered with. -/
def Call.Answer : Call → Type
  | imageName => String
  | config | failConfig | spec _ => Json
  | setUp _ | tearDown _ => Unit
  | retrieve .. => List Json
  | check .. => Message.Connection
  | write .. => List Message

/-- A place that was opened, or a call that was made, with the answer. -/
inductive Exchange where
  | opened (answer : Except Error (String × Place))
  | called (call : Call) (answer : Except Error call.Answer)

variable {σ ν α : Type}

/-- A piece of work, on which notes are made: of its result, and of the state it started from. -/
def noted (note : Except Error α → σ → List ν) (a : Act σ α) : Act (σ × List ν) α :=
  .of fun (s, ns) => let (r, t) := a.run s; (r, t, ns ++ note r s)

/-- A subject on whose exchanges notes are made. -/
def Subject.noted (note : Exchange → σ → List ν) (b : Subject σ) : Subject (σ × List ν) where
  imageName := Suite.noted (fun r => note (.called .imageName r)) b.imageName
  config := Suite.noted (fun r => note (.called .config r)) b.config
  failConfig := Suite.noted (fun r => note (.called .failConfig r)) b.failConfig
  setUp p := Suite.noted (fun r => note (.called (.setUp p) r)) (b.setUp p)
  tearDown p := Suite.noted (fun r => note (.called (.tearDown p) r)) (b.tearDown p)
  retrieve p stream space schema :=
    Suite.noted (fun r => note (.called (.retrieve p stream space schema) r))
      (b.retrieve p stream space schema)

/-- A launcher on whose exchanges notes are made. -/
def Launcher.noted (note : Exchange → σ → List ν) (l : Launcher σ) : Launcher (σ × List ν) where
  spec p := Suite.noted (fun r => note (.called (.spec p) r)) (l.spec p)
  check p c := Suite.noted (fun r => note (.called (.check p c) r)) (l.check p c)
  write p c k ms := Suite.noted (fun r => note (.called (.write p c k ms) r)) (l.write p c k ms)

/-- A site on whose places notes are made. -/
def Site.noted (note : Exchange → σ → List ν) (s : Site σ) : Site (σ × List ν) where
  openPlace := Suite.noted (fun r => note (.opened r)) s.openPlace
  closePlace root x := (s.closePlace root x.1, x.2)
  clock x := s.clock x.1

/-- A cast on whose exchanges notes are made. -/
def Cast.noted (note : Exchange → σ → List ν) (c : Cast σ) : Cast (σ × List ν) :=
  ⟨c.subject.noted note, c.launcher.noted note, c.site.noted note⟩

/-- A call, and whether its place was there when it was made. -/
structure Event where
  call : Call
  stands : Bool

/-- A cast whose calls are noted. -/
def Cast.recorded (stands : Place → σ → Bool) (c : Cast σ) : Cast (σ × List Event) :=
  c.noted fun
    | .opened _, _ => []
    | .called call _, s => [⟨call, match call.place? with
      | some p => stands p s
      | none => false⟩]

/-- A cast whose exchanges are noted. -/
def Cast.transcribed (c : Cast σ) : Cast (σ × List Exchange) := c.noted fun x _ => [x]

theorem run_noted (note : Except Error α → σ → List ν) (a : Act σ α) (s : σ) (ns : List ν) :
    (noted note a).run (s, ns) = ((a.run s).1, (a.run s).2, ns ++ note (a.run s).1 s) := rfl

end Acceptance.Suite
