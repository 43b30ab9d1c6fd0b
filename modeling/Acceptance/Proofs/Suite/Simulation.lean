import Acceptance.Proofs.Suite.Likeness

/-!
# Casts that know more

A cast whose state holds more than that of another, and which answers as the other does. What more
it holds may be a count, or a list of what was done.

* `Act.Simulates`: one piece of work is another one on a state that holds more.
* `Cast.Simulates`: so is whatever a cast does.

Results:
* `Simulates.bind`, `Simulates.within`: work in steps, and on a part of the state, is simulated step
  by step and part by part.
* `Cast.Simulates.alike`: a cast that another one simulates is alike with it.
* `simulates_run`: a run is simulated if its cast is.
* `Cast.Simulates.transcript_eq`: and has the same transcript.
-/

namespace Acceptance

/-- `b` is `a` on a state that holds more: `f` gives the part that `a` works on. -/
structure Act.Simulates {σ τ α : Type} (f : τ → σ) (b : Act τ α) (a : Act σ α) : Prop where
  run_eq (t : τ) : a.run (f t) = ((b.run t).1, f (b.run t).2)

namespace Act

variable {σ σ' τ τ' α β : Type} {f : τ → σ}

theorem Simulates.bind {a : Act σ α} {b : Act τ α} {g : α → Act σ β} {h : α → Act τ β}
    (hab : Simulates f b a) (hgh : ∀ x, Simulates f (h x) (g x)) :
    Simulates f (b >>= h) (a >>= g) := by
  refine ⟨fun t => ?_⟩
  rw [run_bind, run_bind, hab.run_eq t]
  rcases b.run t with ⟨e | x, u⟩
  · rfl
  · exact (hgh x).run_eq u

theorem Simulates.result {a : Act σ α} {b : Act τ α} (h : Simulates f b a) :
    Simulates f b.result a.result := by
  refine ⟨fun t => ?_⟩
  rw [run_result, run_result, h.run_eq t]

theorem simulates_self (a : Act σ α) : Simulates id a a := ⟨fun _ => rfl⟩

theorem simulates_give (r : Except Error α) : Simulates f (give r) (give r) := ⟨fun _ => rfl⟩

theorem simulates_fail (e : Error) : Simulates f (fail e : Act τ α) (fail e) := ⟨fun _ => rfl⟩

theorem simulates_look {g : σ → Except Error α} {h : τ → Except Error α}
    (hgh : ∀ t, g (f t) = h t) : Simulates f (look h) (look g) := by
  refine ⟨fun t => ?_⟩
  show (g (f t), f t) = (h t, f t)
  rw [hgh t]

theorem simulates_step {g : σ → α × σ} {h : τ → α × τ}
    (hgh : ∀ t, g (f t) = ((h t).1, f (h t).2)) : Simulates f (step h) (step g) := by
  refine ⟨fun t => ?_⟩
  show (Except.ok (g (f t)).1, (g (f t)).2) = (.ok (h t).1, f (h t).2)
  rw [hgh t]

/-- Work on parts is simulated on the whole, where the part of what `f` gives is what `k` gives of
the part. -/
theorem Simulates.within {a : Act σ' α} {b : Act τ' α} {k : τ' → σ'} (h : Simulates k b a)
    {get : σ → σ'} {set : σ' → σ → σ} {get' : τ → τ'} {set' : τ' → τ → τ}
    (hget : ∀ t, get (f t) = k (get' t)) (hset : ∀ x t, f (set' x t) = set (k x) (f t)) :
    Simulates f (within get' set' b) (within get set a) := by
  refine ⟨fun t => ?_⟩
  rw [run_within, run_within, hget t, h.run_eq (get' t), hset]

theorem Simulates.alike {a : Act σ α} {b : Act τ α} (h : Simulates f b a) :
    Alike (fun s t => s = f t) Eq a b := by
  refine ⟨?_⟩
  rintro _ t rfl
  rw [h.run_eq t]
  exact ⟨agree_eq_iff.mpr rfl, rfl⟩

theorem Alike.simulates {a : Act σ α} {b : Act τ α} (h : Alike (fun s t => s = f t) Eq a b) :
    Simulates f b a := by
  refine ⟨fun t => ?_⟩
  obtain ⟨hagree, hstate⟩ := h.run (t := t) rfl
  exact Prod.ext (agree_eq_iff.mp hagree) hstate

end Act

namespace Suite

open Act (Simulates)

variable {σ τ α : Type} {f : τ → σ}

/-! ## Casts -/

/-- A subject answers as another one does, on a state that holds more. -/
structure Subject.Simulates (f : τ → σ) (b : Subject τ) (a : Subject σ) : Prop where
  imageName : Act.Simulates f b.imageName a.imageName
  config : Act.Simulates f b.config a.config
  failConfig : Act.Simulates f b.failConfig a.failConfig
  setUp (p : Place) : Act.Simulates f (b.setUp p) (a.setUp p)
  tearDown (p : Place) : Act.Simulates f (b.tearDown p) (a.tearDown p)
  retrieve (p : Place) (stream : String) (space : Option String) (schema : Json) :
    Act.Simulates f (b.retrieve p stream space schema) (a.retrieve p stream space schema)

/-- A launcher answers as another one does, on a state that holds more. -/
structure Launcher.Simulates (f : τ → σ) (b : Launcher τ) (a : Launcher σ) : Prop where
  spec (p : Place) : Act.Simulates f (b.spec p) (a.spec p)
  check (p : Place) (v : Json) : Act.Simulates f (b.check p v) (a.check p v)
  write (p : Place) (v : Json) (k : Catalog) (ms : List Message) :
    Act.Simulates f (b.write p v k ms) (a.write p v k ms)

/-- A site provides the places that another one does, on a state that holds more. -/
structure Site.Simulates (f : τ → σ) (b : Site τ) (a : Site σ) : Prop where
  openPlace : Act.Simulates f b.openPlace a.openPlace
  closePlace (root : String) (t : τ) : a.closePlace root (f t) = f (b.closePlace root t)
  clock (t : τ) : a.clock (f t) = b.clock t

/-- A cast does what another one does, on a state that holds more. -/
structure Cast.Simulates (f : τ → σ) (b : Cast τ) (a : Cast σ) : Prop where
  subject : b.subject.Simulates f a.subject
  launcher : b.launcher.Simulates f a.launcher
  site : b.site.Simulates f a.site

/-! ## Runs -/

/-- A cast that another one simulates is alike with it: states belong together if `f` gives the one of
the other, and places if they are the same. -/
theorem Cast.Simulates.alike {a : Cast σ} {b : Cast τ} (h : b.Simulates f a) :
    a.Alike True (fun s t => s = f t) Eq b where
  subject :=
    { imageName := h.subject.imageName.alike
      config := h.subject.config.alike
      failConfig := h.subject.failConfig.alike
      setUp := by
        rintro x _ rfl
        exact (h.subject.setUp x.2).alike
      tearDown := by
        rintro x _ rfl
        exact (h.subject.tearDown x.2).alike
      retrieve := by
        rintro x _ rfl stream space schema
        exact (h.subject.retrieve x.2 stream space schema).alike }
  launcher :=
    { spec := by
        rintro x _ rfl
        exact (h.launcher.spec x.2).alike
      check := by
        rintro x _ rfl v
        exact (h.launcher.check x.2 v).alike
      write := by
        rintro x _ rfl v k ms
        exact (h.launcher.write x.2 v k ms).alike }
  site :=
    { openPlace := h.site.openPlace.alike
      closePlace := by
        rintro x _ _ t rfl rfl
        exact h.site.closePlace x.1 t
      clock := by
        rintro - _ t rfl
        exact h.site.clock t }

/-- **A run is simulated if its cast is**: it comes to the same, and leaves a state of which `f`
gives what the other leaves. -/
theorem simulates_run {a : Cast σ} {b : Cast τ} (h : b.Simulates f a) (plan : Plan) :
    Simulates f (run b plan) (run a plan) :=
  ((alike_run h.alike plan).mono fun _ _ => Report.Alike.eq).simulates

/-! ## Transcripts -/

theorem simulates_noted {a : Act σ α} {b : Act τ α} (h : Simulates f b a)
    (note : Except Error α → Exchange) :
    Simulates (Prod.map f id) (noted (fun r _ => [note r]) b) (noted (fun r _ => [note r]) a) := by
  refine ⟨fun ⟨t, es⟩ => ?_⟩
  show (noted _ a).run (f t, es) = _
  rw [run_noted, run_noted, h.run_eq t]
  rfl

theorem Cast.Simulates.transcribed {a : Cast σ} {b : Cast τ} (h : b.Simulates f a) :
    b.transcribed.Simulates (Prod.map f id) a.transcribed where
  subject :=
    { imageName := simulates_noted h.subject.imageName _
      config := simulates_noted h.subject.config _
      failConfig := simulates_noted h.subject.failConfig _
      setUp := fun p => simulates_noted (h.subject.setUp p) _
      tearDown := fun p => simulates_noted (h.subject.tearDown p) _
      retrieve := fun p stream space schema =>
        simulates_noted (h.subject.retrieve p stream space schema) _ }
  launcher :=
    { spec := fun p => simulates_noted (h.launcher.spec p) _
      check := fun p v => simulates_noted (h.launcher.check p v) _
      write := fun p v k ms => simulates_noted (h.launcher.write p v k ms) _ }
  site :=
    { openPlace := simulates_noted h.site.openPlace _
      closePlace := fun root x => congrArg (·, x.2) (h.site.closePlace root x.1)
      clock := fun x => h.site.clock x.1 }

/-- A cast that simulates another one is told the same. -/
theorem Cast.Simulates.transcript_eq {a : Cast σ} {b : Cast τ} (h : b.Simulates f a) (plan : Plan)
    (t : τ) : transcript b plan t = transcript a plan (f t) := by
  have hrun := (simulates_run h.transcribed plan).run_eq (t, [])
  show _ = ((run a.transcribed plan).run (Prod.map f id (t, []))).2.2
  rw [hrun]
  rfl

end Suite
end Acceptance
