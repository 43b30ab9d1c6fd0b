import Acceptance.Proofs.Catalog
import Acceptance.Proofs.Container.Simulation
import Acceptance.Proofs.Container.Verdicts
import Acceptance.Proofs.Host.Contents

/-!
# What a container is given

A command reaches its container with the documents that it was asked for with: they lie in the
directory of the job, the arguments name them, and they say what was asked.

* `Runtime.watched`: a container runtime that keeps a list of its calls, and of what the containers
  find on the machine.
* `Query.documents`: the documents that a command comes with.
* `Query.Portable`: the commands whose documents can be read back.
* `Delivered`: a container is given what was asked.

Results:
* `holds_putDocuments`: the directory of a job holds the documents of its command.
* `perform_watched`: a job calls the container runtime once, unless its directory cannot be prepared.
* `ask_delivered`: and then the container is given what was asked.
-/

namespace Acceptance.Container

open Act (Simulates simulates_give)
open Host (Machine)
open Text.Utf8 (encode)

variable {ρ : Type}

/-! ## Watching -/

/-- A container runtime that keeps a list of its calls, each with the machine that the container
finds. -/
def Runtime.watched (runtime : Runtime ρ) : Runtime (ρ × List (Invocation × Machine)) where
  call i s :=
    let (ending, m, w) := runtime.call i (s.1, s.2.1)
    (ending, m, w, s.2.2 ++ [(i, s.1)])

theorem simulates_watched (runtime : Runtime ρ) : runtime.watched.Simulates Prod.fst runtime :=
  ⟨fun _ _ _ => rfl⟩

/-! ## What is asked -/

namespace Query

/-- The configuration that a command is put with. -/
def config? : Query → Option Json
  | spec => none
  | check config => some config
  | write config _ _ => some config

/-- The catalog that a command is put with. -/
def catalog? : Query → Option Catalog
  | write _ catalog _ => some catalog
  | _ => none

/-- The messages that a command is put with. -/
def messages? : Query → Option (List Message)
  | write _ _ ms => some ms
  | _ => none

/-- The word for a command. -/
def word : Query → String
  | spec => "spec"
  | check _ => "check"
  | write .. => "write"

/-- The documents that a command comes with: the option that names each of them to the destination,
and its file in the directory of the job. -/
def documents : Query → List (String × String)
  | spec => []
  | check _ => [("--config", "config.json")]
  | write .. => [("--config", "config.json"), ("--catalog", "catalog.json")]

/-- The files that are written for a command. -/
def files : Query → List (String × List UInt8)
  | spec => []
  | check config => [(configFile, encode config.render)]
  | write config catalog _ =>
    [(configFile, encode config.render), (catalogFile, encode catalog.toJson.render)]

/-- A command whose documents can be read back: their floating-point numbers can, their objects are in
order, and no more arrays and objects stand inside one another than a reader enters. -/
structure Portable (q : Query) : Prop where
  config : ∀ v ∈ q.config?, v.Stable ∧ v.Ordered ∧ v.depth ≤ Json.maxDepth
  catalog : ∀ c ∈ q.catalog?, c.Portable

end Query

/-- A container is given what was asked: `i` is the call of the container runtime, `job` the directory
of the job, and `m` the machine as the container finds it. -/
structure Delivered (image : String) (s : Config.Container) (place : Suite.Place) (q : Query)
    (job : String) (i : Invocation) (m : Machine) : Prop where
  /-- The runtime is the one that is configured, -/
  binary : i.binary = s.binary
  /-- and so is the time it may take. -/
  limit : i.limit = s.timeout
  /-- The arguments are those of every call, with the directories of the job and of the case, then
  those of the network, those that are configured besides, the image, the word for the command, and
  for each document its option and its path in the container. -/
  arguments : i.arguments =
    ["run", "--rm", "-i", "--init", "-v", job ++ ":/data", "-v", place.localRoot ++ ":/local",
      "-w", "/data"] ++ s.network.elim [] (fun n => ["--network", n]) ++ s.extraArguments ++
      [image, q.word] ++ q.documents.flatMap fun d => [d.1, "/data/" ++ d.2]
  /-- The input are the messages of a write; the other commands have none. -/
  input : i.input = q.messages?.map Message.write
  /-- In the directory of the job lie the documents of the command, and nothing else. -/
  held (name : String) : Path.Plain name →
    (m.files.exists m.directory (Path.join job name) = true ↔ name ∈ q.documents.map (·.2))
  /-- The configuration is read from its file as it was asked. -/
  config : ∀ v ∈ q.config?, ∃ text,
    m.readText (Path.join job "config.json") = .ok text ∧ Json.parse text = .ok v
  /-- The catalog is read from its file as it was asked. -/
  catalog : ∀ c ∈ q.catalog?, Catalog.ofFile (Path.join job "catalog.json") m = .ok c

/-! ## Preparing a job -/

variable {m m' : Machine} {job : String} {q : Query}

theorem plain_configFile : Path.Plain configFile := by
  constructor <;> decide

theorem plain_catalogFile : Path.Plain catalogFile := by
  constructor <;> decide

/-- **The directory of a job holds the documents of its command.** -/
theorem holds_putDocuments (h : m.Holds job []) (hrun : (putDocuments job q.request).run m = (.ok (), m')) :
    m'.directory = m.directory ∧ m'.Holds job q.files := by
  obtain ⟨⟨⟩, m₁, hconfig, hcatalog⟩ := Act.run_bind_eq_ok_iff.mp hrun
  cases q with
  | spec =>
    cases hconfig
    cases hcatalog
    exact ⟨rfl, h⟩
  | check config =>
    cases hcatalog
    exact h.writeFile plain_configFile rfl hconfig
  | write config catalog ms =>
    obtain ⟨hdirectory₁, h₁⟩ := h.writeFile plain_configFile rfl hconfig
    obtain ⟨hdirectory, h'⟩ := h₁.writeFile plain_catalogFile rfl hcatalog
    exact ⟨hdirectory.trans hdirectory₁, h'⟩

theorem io_of_putDocument {job file : String} {v? : Option Json} {e : Error}
    (h : (putDocument job file v?).run m = (.error e, m')) : ∃ c, e = .io c := by
  cases v? with
  | none => cases h
  | some v => exact Machine.io_of_run_writeFile h

theorem io_of_putDocuments {r : Request} {e : Error}
    (h : (putDocuments job r).run m = (.error e, m')) : ∃ c, e = .io c := by
  rw [putDocuments, Act.run_bind] at h
  rcases hconfig : (putDocument job configFile r.config).run m with ⟨d | x, m₁⟩
  · rw [hconfig] at h
    cases h
    exact io_of_putDocument hconfig
  · rw [hconfig] at h
    exact io_of_putDocument h

/-- **A job calls the container runtime once**, when there is a directory for it and its documents have
been put there; otherwise it fails without a call. -/
theorem perform_watched (runtime : Runtime ρ) (image : String) (s : Config.Container)
    (localRoot : String) (r : Request) (m : Machine) (w : ρ) :
    (∃ c m', (perform runtime.watched image s localRoot r).run (m, w, []) =
        (.error (.io c), m', w, [])) ∨
      ∃ job m₁ m₂ result m' w', (Machine.makeTemporary jobStem).run m = (.ok job, m₁) ∧
        (putDocuments job r).run m₁ = (.ok (), m₂) ∧
        (perform runtime.watched image s localRoot r).run (m, w, []) =
          (result, m', w', [(invocation image s job localRoot r, m₂)]) := by
  rcases hmake : (Machine.makeTemporary jobStem).run m with ⟨e | job, m₁⟩
  · obtain ⟨c, rfl⟩ := Machine.io_of_run_makeTemporary hmake
    refine Or.inl ⟨c, m₁, ?_⟩
    rw [perform, Act.run_bind, Act.run_onFirst, hmake]
  · have hperform : (perform runtime.watched image s localRoot r).run (m, w, []) =
        (((performIn runtime.watched image s job localRoot r).run (m₁, w, [])).1,
          ((performIn runtime.watched image s job localRoot r).run (m₁, w, [])).2.1.discard job,
          ((performIn runtime.watched image s job localRoot r).run (m₁, w, [])).2.2) := by
      rw [perform, Act.run_bind, Act.run_onFirst, hmake]
      rfl
    rw [hperform, performIn, Act.run_bind, Act.run_onFirst]
    rcases hput : (putDocuments job r).run m₁ with ⟨e | ⟨⟩, m₂⟩
    · obtain ⟨c, rfl⟩ := io_of_putDocuments hput
      exact Or.inl ⟨c, _, rfl⟩
    · exact Or.inr ⟨job, m₁, m₂, _, _, _, rfl, hput, rfl⟩

/-! ## Delivery -/

theorem documentArguments_eq (q : Query) :
    documentArguments q.request.command = q.documents.flatMap fun d => [d.1, "/data/" ++ d.2] := by
  have hconfig : dataDirectory ++ "/" ++ configFile = "/data/" ++ "config.json" := by decide
  have hcatalog : dataDirectory ++ "/" ++ catalogFile = "/data/" ++ "catalog.json" := by decide
  unfold documentArguments
  rw [hconfig, hcatalog]
  cases q <;> rfl

theorem arguments_request (image : String) (s : Config.Container) (job localRoot : String)
    (q : Query) : arguments image s job localRoot q.request.command =
      ["run", "--rm", "-i", "--init", "-v", job ++ ":/data", "-v", localRoot ++ ":/local",
        "-w", "/data"] ++ s.network.elim [] (fun n => ["--network", n]) ++ s.extraArguments ++
        [image, q.word] ++ q.documents.flatMap fun d => [d.1, "/data/" ++ d.2] := by
  have hword : q.request.command.name = q.word := by cases q <;> rfl
  have hnetwork : networkArguments s.network = s.network.elim [] fun n => ["--network", n] := by
    cases s.network <;> rfl
  have hmount (outside inside : String) : outside ++ ":" ++ inside = outside ++ (":" ++ inside) :=
    String.append_assoc
  rw [arguments, mount, mount, hmount, hmount, hnetwork, hword, documentArguments_eq]
  rfl

theorem readText_of_holds {file text : String} (h : m.Holds job q.files)
    (hfile : q.files.lookup file = some (encode text)) :
    m.readText (Path.join job file) = .ok text :=
  Message.readText_of_read (h.read hfile)

/-- The container of a job is given what was asked, if the directory of the job holds the documents. -/
theorem delivered_of_holds (image : String) (s : Config.Container) (place : Suite.Place)
    (hq : q.Portable) (h : m.Holds job q.files) :
    Delivered image s place q job (invocation image s job place.localRoot q.request) m where
  binary := rfl
  limit := rfl
  arguments := arguments_request image s job place.localRoot q
  input := by cases q <;> rfl
  held name hname := by
    rw [h.exists_iff hname]
    cases q <;> rfl
  config v hv := by
    have hfile : q.files.lookup configFile = some (encode v.render) := by
      cases q <;> cases hv <;> rfl
    obtain ⟨hstable, hordered, hdepth⟩ := hq.config v hv
    exact ⟨v.render, readText_of_holds h hfile, Json.parse_render hstable hordered hdepth⟩
  catalog c hc := by
    have hfile : q.files.lookup catalogFile = some (encode c.toJson.render) := by
      cases q <;> cases hc
      rfl
    exact bind_eq_ok_iff.mpr ⟨_, readText_of_holds h hfile, Catalog.ofText_render (hq.catalog c hc)⟩

/-- **A container is given what was asked.** A command calls the container runtime once, and the call
and the directory of the job, which was not there before, are as they were asked for; or it fails
without a call, since there is no place for the documents. Watching for this changes nothing. -/
theorem ask_delivered (runtime : Runtime ρ) (image : String) (s : Config.Container)
    (place : Suite.Place) (hq : q.Portable) (hm : m.files.Grounded) (w : ρ) :
    let asked := (q.ask (launcher runtime.watched image s id fun t _ => t) place).run (m, w, [])
    (q.ask (launcher runtime image s id fun t _ => t) place).run (m, w) =
        (asked.1, asked.2.1, asked.2.2.1) ∧
      ((∃ c, asked.1 = .error (.io c)) ∧ asked.2.2.2 = [] ∨
        ∃ job i m', asked.2.2.2 = [(i, m')] ∧ m.files.exists m.directory job = false ∧
          Delivered image s place q job i m') := by
  have hsame : Simulates (onRuntime Prod.fst)
      (q.ask (launcher runtime.watched image s id fun t _ => t) place)
      (q.ask (launcher runtime image s id fun t _ => t) place) := by
    have hperform :=
      simulates_perform (simulates_watched runtime) image s place.localRoot q.request
    rw [ask_launcher, ask_launcher]
    refine (hperform.within (f := onRuntime Prod.fst) ?_ ?_).bind fun _ => simulates_give _
    · exact fun _ => rfl
    · exact fun _ _ => rfl
  refine ⟨hsame.run_eq (m, w, []), ?_⟩
  rw [ask_launcher, Act.run_bind, Act.run_within]
  rcases perform_watched runtime image s place.localRoot q.request m w with
    ⟨c, m', hperform⟩ | ⟨job, m₁, m₂, result, m', w', hmake, hput, hperform⟩
  · refine Or.inl ?_
    show _ ∧ _
    rw [id, hperform]
    exact ⟨⟨c, rfl⟩, rfl⟩
  · obtain ⟨hnew, -, hempty⟩ := Machine.holds_makeTemporary hm hmake
    obtain ⟨-, hholds⟩ := holds_putDocuments hempty hput
    refine Or.inr ⟨job, _, m₂, ?_, hnew, delivered_of_holds image s place hq hholds⟩
    rw [id, hperform]
    cases result <;> rfl

/-- A write with a number in its configuration that prints with a sign, and with a stream in an empty
namespace. -/
def oddWrite : Query :=
  .write (.obj [("rate", Message.negativeZero)])
    ⟨[⟨⟨"rates", some "", .obj [("type", .str "object")], [.incremental]⟩, .incremental,
      .appendDedup⟩]⟩ [.ofRecord Message.oddRecord]

/-- Containers with a network and with an argument besides. -/
def hosted : Config.Container :=
  { Config.Container.standard with network := some "host", extraArguments := ["--memory=1g"] }

theorem portable_oddWrite : oddWrite.Portable where
  config := by
    rintro v ⟨⟩
    exact ⟨by simp [Message.stable_negativeZero],
      Json.ordered_obj.mpr ⟨List.pairwise_singleton _ _, by simp [Message.negativeZero]⟩, by decide⟩
  catalog := by
    rintro c ⟨⟩
    refine ⟨?_, by decide, List.forall_mem_singleton.mpr ?_⟩
    · simp [Catalog.toJson, Catalog.Entry.toJson, Catalog.Stream.toJson, Json.member?]
    · exact Json.ordered_obj.mpr ⟨List.pairwise_singleton _ _, by simp⟩

theorem grounded_bareMachine : bareMachine.files.Grounded :=
  Host.FileTree.grounded_of_entries (List.forall_mem_singleton.mpr rfl)

theorem ask_delivered_oddWrite :
    oddWrite.Portable ∧ bareMachine.files.Grounded ∧
      ∃ job i m', ((oddWrite.ask (launcher (recital grudging).watched "rates" hosted id fun t _ => t)
        ⟨"/tmp"⟩).run (bareMachine, (), [])).2.2.2 = [(i, m')] ∧
        Delivered "rates" hosted ⟨"/tmp"⟩ oddWrite job i m' := by
  refine ⟨portable_oddWrite, grounded_bareMachine, ?_⟩
  obtain ⟨-, ⟨-, hnone⟩ | ⟨job, i, m', hcalls, -, hdelivered⟩⟩ :=
    ask_delivered (recital grudging) "rates" hosted ⟨"/tmp"⟩ portable_oddWrite grounded_bareMachine ()
  · have hcalled : ((oddWrite.ask (launcher (recital grudging).watched "rates" hosted id fun t _ => t)
        ⟨"/tmp"⟩).run (bareMachine, (), [])).2.2.2.length = 1 := by decide +kernel
    rw [hnone] at hcalled
    cases hcalled
  · exact ⟨job, i, m', hcalls, hdelivered⟩

end Acceptance.Container
