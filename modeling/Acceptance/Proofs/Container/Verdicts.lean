import Acceptance.Container.Launcher
import Acceptance.Proofs.Message.Noise

/-!
# Verdicts on processes

What is made of a process that came to its end, for each of the three commands, and that it does not
depend on what else the process printed.

* `Process`: what a process printed, and how it ended; `Process.Disturbed`: the same with one more
  line that is no message.
* `Query`: a command with its arguments; `Query.answer`: what a launcher answers.
* `Finishes`: a command comes to the end of its process.
* `Query.Means`: when an answer is what a process said.

Results:
* `answer_of_finishes`: an answer depends on what the process said only.
* `answer_verdicts`: when there is which answer, and that noise does not change it.
-/

namespace Acceptance

/-- A message is the first one of its kind among some messages. -/
def Message.IsFirst (k : Kind) (m : Message) (ms : List Message) : Prop :=
  m.kind = k ∧ ∃ before after, ms = before ++ m :: after ∧ ∀ x ∈ before, x.kind ≠ k

namespace Container

open Host (Machine)
open Message (Noise StartsLine IsFirst)
open Text.Utf8 (decodeLossy)

/-! ## Processes -/

/-- What a process printed to its output and as errors, and its exit code if it has one. -/
structure Process where
  output : List UInt8
  errors : List UInt8
  code : Option Int

/-- The messages in the output. -/
def Process.messages (p : Process) : List Message := Message.ofOutput (decodeLossy p.output)

/-- What is kept of a process. -/
def Process.said (p : Process) : Output := ⟨p.messages, p.code, tail (decodeLossy p.errors)⟩

/-- The second process printed one more line, which is no message, and did the same otherwise. -/
def Process.Disturbed (p q : Process) : Prop :=
  ∃ before noise after, StartsLine before ∧ Noise noise ∧ p.output = before ++ after ∧
    q = ⟨before ++ (noise ++ 0x0a :: after), p.errors, p.code⟩

theorem Process.Disturbed.said_eq {p q : Process} (h : p.Disturbed q) : q.said = p.said := by
  obtain ⟨before, noise, after, hb, hn, hp, rfl⟩ := h
  rw [said, said, messages, messages, hp, Message.ofOutput_noise hb hn after]

/-! ## Queries -/

/-- A command with its arguments. -/
inductive Query where
  | spec
  | check (config : Json)
  | write (config : Json) (catalog : Catalog) (messages : List Message)

namespace Query

/-- What a command is answered with. -/
abbrev Answer : Query → Type
  | spec => Json
  | check _ => Message.Connection
  | write .. => List Message

/-- The request that a command is. -/
def request : Query → Request
  | spec => specRequest
  | check config => checkRequest config
  | write config catalog ms => writeRequest config catalog ms

/-- The answer in an output. -/
def answerOf (image : String) : (q : Query) → Output → Except Error q.Answer
  | spec => specOf image
  | check _ => connectionOf image
  | write .. => emittedOf image

/-- Puts a command to a launcher. -/
def ask {σ : Type} (l : Suite.Launcher σ) (place : Suite.Place) : (q : Query) → Act σ q.Answer
  | spec => l.spec place
  | check config => l.check place config
  | write config catalog ms => l.write place config catalog ms

/-- An answer is what a process said: a specification or a status is that of the first message of its
kind, and a process that ended badly counts for a status only. -/
def Means : (q : Query) → Process → q.Answer → Prop
  | spec, p, v => p.code = some 0 ∧ ∃ m, IsFirst .spec m p.messages ∧ m.spec = some v
  | check _, p, c => ∃ m, IsFirst .connectionStatus m p.messages ∧ m.connection = some c
  | write .., p, ms => p.code = some 0 ∧ ms = p.messages

end Query

theorem firstOf_eq_some_iff {k : Message.Kind} {o : Output} {m : Message} :
    firstOf k o = some m ↔ IsFirst k m o.messages := by
  simp [firstOf, IsFirst, List.find?_eq_some_iff_append]

theorem firstOf_bind_eq_some_iff {α : Type} {k : Message.Kind} {o : Output}
    {payload : Message → Option α} {a : α} : (firstOf k o).bind payload = some a ↔
      ∃ m, IsFirst k m o.messages ∧ payload m = some a := by
  simp only [Option.bind_eq_some_iff, firstOf_eq_some_iff]

theorem Query.means_check_iff {config : Json} {p : Process} {c : Message.Connection} :
    (check config).Means p c ↔
      (firstOf .connectionStatus p.said).bind (·.connection) = some c := by
  rw [firstOf_bind_eq_some_iff]
  rfl

/-- An answer is found in what a process said exactly if the process means it. -/
theorem Query.answerOf_eq_ok_iff {image : String} {q : Query} {p : Process} {a : q.Answer} :
    q.answerOf image p.said = .ok a ↔ q.Means p a := by
  cases q with
  | spec => exact specOf_eq_ok_iff.trans (and_congr Iff.rfl firstOf_bind_eq_some_iff)
  | check config => exact connectionOf_eq_ok_iff.trans means_check_iff.symm
  | write config catalog ms => exact emittedOf_eq_ok_iff.trans (and_congr Iff.rfl eq_comm)

theorem launch_of_specOf {image : String} {o : Output} {e : Error}
    (h : specOf image o = .error e) : ∃ f, e = .launch f := by
  unfold specOf at h
  split at h
  · exact ⟨_, (Except.error.inj h).symm⟩
  · split at h
    · cases h
    · exact ⟨_, (Except.error.inj h).symm⟩

theorem launch_of_connectionOf {image : String} {o : Output} {e : Error}
    (h : connectionOf image o = .error e) : ∃ f, e = .launch f := by
  unfold connectionOf at h
  split at h
  · cases h
  · split at h
    · exact ⟨_, (Except.error.inj h).symm⟩
    · exact ⟨_, (Except.error.inj h).symm⟩

theorem launch_of_emittedOf {image : String} {o : Output} {e : Error}
    (h : emittedOf image o = .error e) : ∃ f, e = .launch f := by
  unfold emittedOf at h
  split at h
  · exact ⟨_, (Except.error.inj h).symm⟩
  · cases h

/-- Where there is no answer, the launch has failed. -/
theorem Query.launch_of_answerOf {image : String} {q : Query} {o : Output} {e : Error}
    (h : q.answerOf image o = .error e) : ∃ f, e = .launch f := by
  cases q with
  | spec => exact launch_of_specOf h
  | check config => exact launch_of_connectionOf h
  | write config catalog ms => exact launch_of_emittedOf h

/-- What a process means does not depend on its errors. -/
theorem Query.Means.congr {q : Query} {p p' : Process} {a : q.Answer} (h : q.Means p a)
    (houtput : p'.output = p.output) (hcode : p'.code = p.code) : q.Means p' a := by
  have hmessages : p'.messages = p.messages := by rw [Process.messages, houtput, Process.messages]
  cases q <;> simpa only [Means, hmessages, hcode] using h

/-! ## Launchers -/

variable {ρ σ : Type} {runtime : Runtime ρ} {image : String} {s : Config.Container}
  {localRoot : String} {r : Request} {t : Machine × ρ} {p : Process}

/-- What a request asks for comes to the end of its process: there is a directory for the job, its
documents are put into it, and the container runtime then ends with what the process printed. -/
def Finishes (runtime : Runtime ρ) (image : String) (s : Config.Container) (localRoot : String)
    (r : Request) (t : Machine × ρ) (p : Process) : Prop :=
  ∃ job u v, (Machine.makeTemporary jobStem).onFirst.run t = (.ok job, u) ∧
    (putDocuments job r).onFirst.run u = (.ok (), v) ∧
    (runtime.call (invocation image s job localRoot r) v).1 = .finished p.output p.errors p.code

/-- A job whose process comes to its end gives what the process said. -/
theorem perform_of_finishes (h : Finishes runtime image s localRoot r t p) :
    ((perform runtime image s localRoot r).run t).1 = .ok p.said := by
  obtain ⟨job, u, v, hjob, hput, hcall⟩ := h
  have hin : ((performIn runtime image s job localRoot r).run u).1 = .ok p.said := by
    rw [performIn, Act.run_bind, hput]
    -- The documents are in their places, and the ending of the call is all that still counts.
    show outputOf _ _ _ _ (runtime.call (invocation image s job localRoot r) v).1 = _
    rw [hcall]
    rfl
  rw [perform, Act.run_bind, hjob]
  exact hin

variable (get : σ → Machine × ρ) (set : Machine × ρ → σ → σ) (place : Suite.Place) (q : Query)

/-- What the launcher of an image answers. -/
def Query.answer (runtime : Runtime ρ) (image : String) (s : Config.Container)
    (get : σ → Machine × ρ) (set : Machine × ρ → σ → σ) (place : Suite.Place) (q : Query) (x : σ) :
    Except Error q.Answer :=
  ((q.ask (launcher runtime image s get set) place).run x).1

theorem ask_launcher : q.ask (launcher runtime image s get set) place = (do
    let o ← Act.within get set (perform runtime image s place.localRoot q.request)
    Act.give (q.answerOf image o)) := by
  cases q <;> simp only [Query.ask, launcher, Query.request, Query.answerOf]

/-- **An answer depends on what the process said only.** -/
theorem answer_of_finishes {x : σ}
    (h : Finishes runtime image s place.localRoot q.request (get x) p) :
    q.answer runtime image s get set place x = q.answerOf image p.said := by
  rw [Query.answer, ask_launcher, Act.run_bind, Act.run_within, perform_of_finishes h]
  rfl

/-- **The verdict on a process that comes to its end.** There is an answer exactly if the process
means it, and otherwise the launch has failed. Let there be a second process, perhaps of another
runtime and in another place: if it printed one more line that is no message, it is answered in the
same way, and if it printed other errors, there still is the same answer if there was one. -/
theorem answer_verdicts {x : σ} (h : Finishes runtime image s place.localRoot q.request (get x) p) :
    (∀ a, q.answer runtime image s get set place x = .ok a ↔ q.Means p a) ∧
    (∀ e, q.answer runtime image s get set place x = .error e → ∃ f, e = .launch f) ∧
    ∀ {ρ' σ' : Type} (runtime' : Runtime ρ') (get' : σ' → Machine × ρ')
      (set' : Machine × ρ' → σ' → σ') (place' : Suite.Place) (x' : σ') (p' : Process),
      Finishes runtime' image s place'.localRoot q.request (get' x') p' →
        (p.Disturbed p' → q.answer runtime' image s get' set' place' x' =
          q.answer runtime image s get set place x) ∧
        (p'.output = p.output → p'.code = p.code →
          ∀ a, q.answer runtime image s get set place x = .ok a →
            q.answer runtime' image s get' set' place' x' = .ok a) := by
  rw [answer_of_finishes get set place q h]
  refine ⟨fun a => Query.answerOf_eq_ok_iff, fun e => Query.launch_of_answerOf, ?_⟩
  intro ρ' σ' runtime' get' set' place' x' p' h'
  rw [answer_of_finishes get' set' place' q h']
  refine ⟨fun hd => ?_, fun houtput hcode a ha => ?_⟩
  · rw [hd.said_eq]
  · rw [Query.answerOf_eq_ok_iff] at ha ⊢
    exact ha.congr houtput hcode

/-- A runtime under which every process is the same. -/
def recital (p : Process) : Runtime Unit where
  call _ t := (.finished p.output p.errors p.code, t)

/-- A machine with a place for temporary directories. -/
def bareMachine : Machine := .fresh ⟨[(["tmp"], .directory)]⟩

/-- A process that says that a check has succeeded, and then ends badly. -/
def grudging : Process where
  output := Text.Utf8.encode (String.ofList (Message.write [.ofConnection ⟨.succeeded, none⟩]))
  errors := []
  code := some 1

/-- The same, with a part of a character on a line of its own before. -/
def grumbling : Process := { grudging with output := 0xe2 :: 0x82 :: 0x0a :: grudging.output }

theorem eq_ok_of_toOption {α τ : Type} {y : Except Error α × τ} {a : α}
    (h : y.1.toOption = some a) : y = (.ok a, y.2) := by
  obtain ⟨e | b, u⟩ := y
  · cases h
  · cases h
    rfl

/-- What comes of making a directory for a job there. -/
def jobMade : Except Error String × Machine × Unit :=
  (Machine.makeTemporary jobStem).onFirst.run (bareMachine, ())

theorem finishes_recital (p : Process) : Finishes (recital p) "rates" .standard "/tmp"
    (Query.check (.obj [])).request (bareMachine, ()) p := by
  have hjob : jobMade.1.toOption = some "/tmp/dat-job-0" := by decide +kernel
  have hput : ((putDocuments "/tmp/dat-job-0" (Query.check (.obj [])).request).onFirst.run
      jobMade.2).1.toOption = some () := by decide +kernel
  exact ⟨"/tmp/dat-job-0", jobMade.2, _, eq_ok_of_toOption hjob, eq_ok_of_toOption hput, rfl⟩

theorem means_grudging : (Query.check (.obj [])).Means grudging ⟨.succeeded, none⟩ := by
  have hfirst : (firstOf .connectionStatus grudging.said).bind (·.connection) =
      some ⟨.succeeded, none⟩ := by decide +kernel
  exact Query.means_check_iff.mpr hfirst

theorem disturbed_grudging : grudging.Disturbed grumbling := by
  refine ⟨[], [0xe2, 0x82], grudging.output, Or.inl rfl, ⟨by decide, fun m hm => ?_⟩, rfl, rfl⟩
  have hnone : (Message.ofLine (Text.trim (decodeLossy [0xe2, 0x82]))).toOption.isNone = true := by
    decide +kernel
  rw [hm] at hnone
  cases hnone

theorem answer_grumbling :
    (Query.check (.obj [])).answer (recital grumbling) "rates" .standard id (fun t _ => t) ⟨"/tmp"⟩
      (bareMachine, ()) = .ok ⟨.succeeded, none⟩ := by
  obtain ⟨hmeans, -, hsame⟩ := answer_verdicts id (fun t _ => t) ⟨"/tmp"⟩ (.check (.obj []))
    (finishes_recital grudging)
  obtain ⟨heq, -⟩ := hsame (recital grumbling) id (fun t _ => t) ⟨"/tmp"⟩ (bareMachine, ()) grumbling
    (finishes_recital grumbling)
  rw [heq disturbed_grudging]
  exact (hmeans _).mpr means_grudging

end Container
end Acceptance
