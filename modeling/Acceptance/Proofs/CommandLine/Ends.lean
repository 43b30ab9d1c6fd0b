import Acceptance.Proofs.CommandLine.ExitCode

/-!
# How the program ends

Whatever the configuration, the environment, the files and the destination are, the program ends with
an exit code, but for one kind of configuration: a limit on the calls at once that is more than there
can be slots. The limit is brought up to one from below, and is not looked at from above.

* `BlamesConfiguration`: what goes wrong, if anything, is said to be wrong with the configuration.
* `Overreaches`: a configuration with such a limit, which is not refused for something else before.
* `Ends`: how the program, and a run, may end.

Results:
* `blames_configuration`, `blames_prepare`, `blames_render`: what is refused is refused as a
  configuration.
* `prepare_eq_crash_iff`: preparations end the program exactly if the configuration overreaches.
* `tail_eq`: of a text as many lines are kept as there can be, counted from the end.
* `perform_ends`: all of it.
-/

namespace Acceptance

/-! ## What is refused -/

/-- What goes wrong, if anything, is said to be wrong with the configuration. -/
def BlamesConfiguration {α : Type} (x : Except Error α) : Prop :=
  ∀ e, x = .error e → e.isConfiguration = true

section Rules

variable {α β ε : Type}

theorem blames_ok (a : α) : BlamesConfiguration (.ok a) := nofun

theorem blames_error {e : Error} (h : e.isConfiguration = true) :
    BlamesConfiguration (.error e : Except Error α) := by
  rintro e' he
  rwa [← Except.error.inj he]

theorem blames_bind {x : Except Error α} {f : α → Except Error β} (hx : BlamesConfiguration x)
    (hf : ∀ a, BlamesConfiguration (f a)) : BlamesConfiguration (x >>= f) := by
  cases x with
  | error e => exact blames_error (hx e rfl)
  | ok a => exact hf a

theorem blames_mapError {x : Except ε α} {f : ε → Error} (hf : ∀ d, (f d).isConfiguration = true) :
    BlamesConfiguration (x.mapError f) := by
  cases x with
  | error d => exact blames_error (hf d)
  | ok a => exact blames_ok a

end Rules

variable (m : Host.Machine)

theorem blames_readText (path : String) : BlamesConfiguration (m.readText path) :=
  blames_mapError fun _ => rfl

/-! ### Configurations -/

theorem Config.blames_ofText (path text : String) : BlamesConfiguration (ofText path text) := by
  rw [ofText]
  split
  · exact blames_mapError fun _ => rfl
  · exact blames_mapError fun _ => rfl

theorem Config.blames_ofFile (path : String) : BlamesConfiguration (ofFile path m) := by
  refine blames_bind (blames_readText m path) fun text => ?_
  refine blames_bind (blames_ofText path text) fun c => ?_
  split <;> exact blames_ok _

theorem Config.blames_load (named : Option String) : BlamesConfiguration (load named m) := by
  rw [load]
  split
  · exact blames_ofFile m _
  · exact blames_ok _

theorem Config.blames_render (c : Config) : BlamesConfiguration c.render := by
  rw [render]
  split
  · exact blames_ok _
  · exact blames_error rfl

/-! ### Fixtures -/

theorem Message.blames_ofNumberedLines (path : String) (n : Nat) (ls : List (List Char)) :
    BlamesConfiguration (ofNumberedLines path n ls) := by
  induction ls generalizing n with
  | nil => exact blames_ok _
  | cons l ls ih =>
    rw [ofNumberedLines]
    split
    · exact ih (n + 1)
    · split
      · exact blames_error rfl
      · exact blames_bind (ih (n + 1)) fun ms => blames_ok _

theorem Config.Target.blames_fixturePaths (t : Config.Target) :
    BlamesConfiguration t.fixturePaths := by
  rw [fixturePaths]
  split
  · exact blames_ok _
  · exact blames_ok _
  · exact blames_error rfl
  · exact blames_error rfl

theorem Fixture.blames_validate (f : Fixture) : BlamesConfiguration f.validate := by
  rw [validate]
  split
  · exact blames_error rfl
  · exact blames_ok _

theorem Fixture.blames_load (t : Config.Target) : BlamesConfiguration (load t m) := by
  have hchecked (f : Fixture) : BlamesConfiguration (do f.validate; .ok f) :=
    blames_bind f.blames_validate fun _ => blames_ok f
  refine blames_bind t.blames_fixturePaths fun paths => ?_
  dsimp only
  split
  · next catalog messages =>
    have hcatalog : BlamesConfiguration (Catalog.ofFile catalog m) :=
      blames_bind (blames_readText m catalog) fun text => blames_mapError fun _ => rfl
    have hmessages : BlamesConfiguration (Message.ofFile messages m) :=
      blames_bind (blames_readText m messages) fun text =>
        Message.blames_ofNumberedLines messages 1 _
    exact blames_bind hcatalog fun c => blames_bind hmessages fun ms => hchecked _
  · exact hchecked builtin

/-! ### Stores and images -/

theorem Store.Source.ofRecords_eq_crash_iff {r : Config.Records} :
    ofRecords r = .error .crash ↔
      r.kind = .duckdb ∧ r.path.isSome ∧ mostSlots < r.maxConcurrency := by
  constructor
  · intro h
    rcases ofRecords_cases r with ⟨e, -, he⟩ | ⟨hk, hp, hlimit, -⟩ | ⟨source, hs, -⟩
    · rw [h] at he
      cases he
    · exact ⟨hk, hp, hlimit⟩
    · rw [h] at hs
      cases hs
  · rintro ⟨hk, hp, hlimit⟩
    obtain ⟨path, hp⟩ := Option.isSome_iff_exists.mp hp
    rcases slots_cases r.maxConcurrency with ⟨-, hslots⟩ | ⟨hle, -⟩
    · simp only [ofRecords, hk, hp, hslots]
    · omega

theorem Destination.blames_imageName (t : Config.Target) : BlamesConfiguration (imageName t) := by
  rw [imageName]
  split
  · split
    · exact blames_error rfl
    · exact blames_ok _
  · exact blames_error rfl

namespace CommandLine

open Store (mostSlots)
open Container (tail tailLines)

/-! ## Preparations -/

/-- A store in a file, with a limit on the calls at once that is more than there can be slots, in a
configuration whose fixture is in order. -/
structure Overreaches (c : Config) (m : Host.Machine) : Prop where
  fixture : ∃ f, Fixture.load c.test m = .ok f
  kind : c.records.kind = .duckdb
  path : c.records.path.isSome
  limit : mostSlots < c.records.maxConcurrency

variable {c : Config} {m : Host.Machine}

/-- What comes of preparations that come to nothing. -/
theorem prepare_eq_error {stop : Stop} (h : prepare c m = .error stop) :
    stop = .crash ∧ Overreaches c m ∨ ∃ e, stop = .error e ∧ e.isConfiguration = true := by
  rw [prepare] at h
  cases hf : Fixture.load c.test m with
  | error e =>
    rw [hf] at h
    cases h
    exact Or.inr ⟨e, rfl, Fixture.blames_load m c.test e hf⟩
  | ok f =>
    simp only [hf] at h
    rcases Store.Source.ofRecords_cases c.records with
      ⟨e, he, hs⟩ | ⟨hk, hp, hlimit, hs⟩ | ⟨source, hs, -⟩
    · rw [hs] at h
      cases h
      exact Or.inr ⟨e, rfl, he⟩
    · rw [hs] at h
      cases h
      exact Or.inl ⟨rfl, ⟨f, hf⟩, hk, hp, hlimit⟩
    · simp only [hs] at h
      split at h
      · cases h
        exact Or.inr ⟨_, rfl, rfl⟩
      · cases hi : Destination.imageName c.test with
        | error e =>
          rw [hi] at h
          cases h
          exact Or.inr ⟨e, rfl, Destination.blames_imageName c.test e hi⟩
        | ok image =>
          rw [hi] at h
          cases h

/-- **Preparations end the program exactly if the configuration overreaches.** -/
theorem prepare_eq_crash_iff : prepare c m = .error .crash ↔ Overreaches c m := by
  constructor
  · intro h
    rcases prepare_eq_error h with ⟨-, hc⟩ | ⟨e, he, -⟩
    · exact hc
    · cases he
  · rintro ⟨⟨f, hf⟩, hk, hp, hlimit⟩
    simp only [prepare, hf, Store.Source.ofRecords_eq_crash_iff.mpr ⟨hk, hp, hlimit⟩]

theorem blames_prepare {e : Error} (h : prepare c m = .error (.error e)) :
    e.isConfiguration = true := by
  rcases prepare_eq_error h with ⟨hcrash, -⟩ | ⟨e', he, hconf⟩
  · cases hcrash
  · cases he
    exact hconf

theorem blames_configuration (o : Options) (m : Host.Machine) :
    BlamesConfiguration (o.configuration m) := by
  rw [Options.configuration, Options.resolve]
  cases hload : Config.load o.file m with
  | error e => exact blames_error (Config.blames_load m o.file e hload)
  | ok c => exact blames_ok _

/-! ## Runs -/

variable {ρ κ : Type} {sys : Store.Systems κ} {runtime : Container.Runtime ρ} {s : Session ρ κ}

/-- Only the preparations of a run can end the program. -/
theorem execute_eq_crash_iff :
    (execute sys runtime c s).1 = .error .crash ↔ Overreaches c s.machine := by
  rw [← prepare_eq_crash_iff]
  cases hp : prepare c s.machine with
  | error stop => rw [execute_of_prepare_stop hp, Except.error.injEq, Except.error.injEq]
  | ok p =>
    refine iff_of_false ?_ nofun
    unfold execute
    simp only [hp]
    cases ((Suite.run (cast sys runtime c p) (plan c p)).run s).1 <;> nofun

theorem finishOf_eq_crashed_iff {r : Except Stop Suite.Report} :
    finishOf r = .crashed ↔ r = .error .crash := by
  rcases r with (e | _) | r <;> simp [finishOf, failed]

/-- The program ends on the spot exactly if it runs a configuration that overreaches. -/
theorem perform_eq_crashed_iff {l : CommandLine} :
    (perform sys runtime l s).1 = .crashed ↔
      ∃ o c, l = .run o ∧ o.configuration s.machine = .ok c ∧ Overreaches c s.machine := by
  cases l with
  | run o =>
    cases hc : o.configuration s.machine with
    | error e =>
      rw [perform_run_of_error hc]
      simp [failed, hc]
    | ok c =>
      rw [perform_run_of_ok hc, finishOf_eq_crashed_iff, execute_eq_crash_iff]
      simp [hc]
  | showConfig o =>
    refine iff_of_false (fun h => ?_) (by simp)
    simp only [perform] at h
    split at h
    · cases h
    · split at h <;> cases h

theorem code?_le {l : CommandLine} {code : Nat} (h : (perform sys runtime l s).1.code? = some code) :
    code ≤ 2 := by
  cases l with
  | run o =>
    cases hc : o.configuration s.machine with
    | error e =>
      rw [perform_run_of_error hc] at h
      exact Nat.le_of_eq (Option.some.inj h).symm
    | ok c =>
      rw [perform_run_of_ok hc] at h
      cases hr : finishOf (execute sys runtime c s).1 with
      | crashed =>
        rw [hr] at h
        cases h
      | exited code' output errors =>
        rw [hr] at h
        exact Option.some.inj h ▸ exitCode_le hr
  | showConfig o =>
    simp only [perform] at h
    split at h
    · exact Nat.le_of_eq (Option.some.inj h).symm
    · split at h
      · exact Nat.le_of_eq (Option.some.inj h).symm
      · exact (Option.some.inj h).symm ▸ Nat.zero_le 2

/-- **What is kept of a text are its last lines**, and all of them if there are few. -/
theorem tail_eq (t : List Char) :
    ∃ before kept, Text.lines t = before ++ kept ∧
      kept.length = min tailLines (Text.lines t).length ∧
      tail t = String.ofList (List.intercalate ['\n'] kept) := by
  refine ⟨_, _, (List.take_append_drop ((Text.lines t).length - tailLines) _).symm, ?_, rfl⟩
  rw [List.length_drop]
  omega

/-! ## All of it -/

/-- How the program, and a run, end from a session. -/
structure Ends (sys : Store.Systems κ) (runtime : Container.Runtime ρ) (s : Session ρ κ) : Prop where
  /-- The program ends on the spot exactly if it is to run a configuration that overreaches. -/
  crashed_iff : ∀ l, (perform sys runtime l s).1 = .crashed ↔
    ∃ o c, l = .run o ∧ o.configuration s.machine = .ok c ∧ Overreaches c s.machine
  /-- In all other cases it ends with an exit code, which is at most two. -/
  code : ∀ l, (perform sys runtime l s).1 ≠ .crashed →
    ∃ code ≤ 2, (perform sys runtime l s).1.code? = some code
  /-- A run ends with a report or an error, unless the configuration overreaches. -/
  executed : ∀ c, ¬Overreaches c s.machine →
    (∃ r, (execute sys runtime c s).1 = .ok r) ∨ ∃ e, (execute sys runtime c s).1 = .error (.error e)
  /-- And it does not if the configuration overreaches. -/
  crash : ∀ c, Overreaches c s.machine → (execute sys runtime c s).1 = .error .crash
  /-- A configuration that cannot be read, prepared or printed is refused as a configuration. -/
  blamed : (∀ o : Options, BlamesConfiguration (o.configuration s.machine)) ∧
    (∀ c e, prepare c s.machine = .error (.error e) →
      (execute sys runtime c s).1 = .error (.error e) ∧ e.isConfiguration = true) ∧
    ∀ c : Config, BlamesConfiguration c.render
  /-- The last lines of a text are among its lines. -/
  tail : ∀ t, ∃ before kept, Text.lines t = before ++ kept ∧
    kept.length = min tailLines (Text.lines t).length ∧
    tail t = String.ofList (List.intercalate ['\n'] kept)
  /-- No more outcomes of a report are failures than there are outcomes. -/
  failures : ∀ r : Suite.Report, r.failures.length ≤ r.outcomes.length

/-- **The program ends with an exit code, and a run with a report or an error, exactly if the
configuration does not overreach**; every other value that cannot be used is refused as a
configuration. -/
theorem perform_ends (sys : Store.Systems κ) (runtime : Container.Runtime ρ) (s : Session ρ κ) :
    Ends sys runtime s where
  crashed_iff _ := perform_eq_crashed_iff
  code l hl := by
    cases h : (perform sys runtime l s).1 with
    | crashed => exact absurd h hl
    | exited code output errors => exact ⟨code, code?_le (by rw [h]; rfl), rfl⟩
  executed c hc := by
    rcases h : (execute sys runtime c s).1 with (e | _) | r
    · exact Or.inr ⟨e, rfl⟩
    · exact absurd (execute_eq_crash_iff.mp h) hc
    · exact Or.inl ⟨r, rfl⟩
  crash _ := execute_eq_crash_iff.mpr
  blamed := ⟨fun o => blames_configuration o s.machine,
    fun c e h => ⟨by rw [execute_of_prepare_stop h], blames_prepare h⟩, Config.blames_render⟩
  tail := tail_eq
  failures r := List.length_filter_le _ r.outcomes

/-! ## A limit that is too large -/

/-- A configuration that asks for as many calls at once as the format has a number for. -/
def boundless : String :=
  "[test]\nimage_name = \"vendor/dest:1.0\"\n\n[records]\nkind = \"duckdb\"\n" ++
  "path = \"/tmp/absent.duckdb\"\nmax_concurrency = 9223372036854775807\n\n" ++
  "[runner]\ncases = [\"spec\"]\n"

/-- A machine with a configuration file. -/
def configured (text : String) : Host.Machine :=
  .fresh ⟨[(["h.toml"], .file (Text.Utf8.encode text))]⟩

/-- A run of the configuration in that file. -/
def fromFile : Options := { Options.empty with file := some "/h.toml" }

/-- The configuration is accepted, and running it ends the program on the spot, although no case has
any use for the store. -/
theorem perform_boundless :
    (Config.ofToml boundless).isOk = true ∧
      (perform Store.Systems.absent Container.Runtime.absent (.run fromFile)
        (.start (configured boundless) ())).1 = .crashed ∧
      ∃ c, fromFile.configuration (configured boundless) = .ok c ∧
        (execute Store.Systems.absent Container.Runtime.absent c
          (.start (configured boundless) ())).1 = .error .crash := by
  have hcrashed : (perform Store.Systems.absent Container.Runtime.absent (.run fromFile)
      (.start (configured boundless) ())).1 = .crashed := by decide +kernel
  obtain ⟨o, c, ho, hc, hover⟩ := perform_eq_crashed_iff.mp hcrashed
  cases ho
  exact ⟨by decide +kernel, hcrashed, c, hc, execute_eq_crash_iff.mpr hover⟩

end CommandLine
end Acceptance
