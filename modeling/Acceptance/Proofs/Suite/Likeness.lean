import Acceptance.Proofs.Suite.Lifecycle
import Mathlib.Data.List.Forall2

/-!
# Casts that are alike

Two casts that answer in the same way. Their states may be of different types, and their places may
have different names: a relation says which states belong together, and another which places do.

* `Agree`, `Act.Alike`: two results, and two pieces of work, that come to the same.
* `Cast.Alike`: whatever two casts do comes to the same. Whether their clocks show the same time is a
  part of that only if it is asked for.
* `Outcome.Alike`, `Report.Alike`: outcomes and reports that differ in nothing but the time taken.
* `Call.Alike`, `Exchange.Alike`: calls that differ in nothing but the names of places.

Results:
* `Alike.bind`: work in steps is alike step by step.
* `alike_run`: runs of casts that are alike come to the same.
* `Cast.Alike.calls_transcript`: and the same calls are made in them.
-/

namespace Acceptance

/-- Two results come to the same: values that `V` relates, or the same error. -/
inductive Agree {α β : Type} (V : α → β → Prop) : Except Error α → Except Error β → Prop
  | ok {x : α} {y : β} (h : V x y) : Agree V (.ok x) (.ok y)
  | error (e : Error) : Agree V (.error e) (.error e)

/-- Two pieces of work come to the same where they start from states that `R` relates, and leave such
states. -/
structure Act.Alike {σ τ α β : Type} (R : σ → τ → Prop) (V : α → β → Prop) (a : Act σ α)
    (b : Act τ β) : Prop where
  run {s : σ} {t : τ} (h : R s t) : Agree V (a.run s).1 (b.run t).1 ∧ R (a.run s).2 (b.run t).2

theorem agree_eq_iff {α : Type} {r r' : Except Error α} : Agree Eq r r' ↔ r = r' := by
  constructor
  · intro h
    cases h with
    | ok h => rw [h]
    | error e => rfl
  · rintro rfl
    cases r with
    | ok x => exact .ok rfl
    | error e => exact .error e

namespace Agree

variable {α β : Type} {V : α → β → Prop}

theorem of_ok {x : α} {r : Except Error β} (h : Agree V (.ok x) r) : ∃ y, r = .ok y ∧ V x y := by
  cases h with
  | ok h => exact ⟨_, rfl, h⟩

theorem of_error {e : Error} {r : Except Error β} (h : Agree V (.error e) r) : r = .error e := by
  cases h with
  | error => rfl

end Agree

namespace Act

variable {σ τ α β γ δ : Type} {R : σ → τ → Prop} {V : α → β → Prop} {W : γ → δ → Prop}

theorem Alike.bind {a : Act σ α} {b : Act τ β} {f : α → Act σ γ} {g : β → Act τ δ}
    (hab : Alike R V a b) (hfg : ∀ x y, V x y → Alike R W (f x) (g y)) :
    Alike R W (a >>= f) (b >>= g) := by
  refine ⟨fun {s t} hst => ?_⟩
  obtain ⟨hagree, hrel⟩ := hab.run hst
  rw [run_bind, run_bind]
  generalize a.run s = p at hagree hrel ⊢
  generalize b.run t = q at hagree hrel ⊢
  obtain ⟨r, s'⟩ := p
  obtain ⟨r', t'⟩ := q
  cases hagree with
  | ok hv => exact (hfg _ _ hv).run hrel
  | error e => exact ⟨.error e, hrel⟩

theorem Alike.mono {V' : α → β → Prop} {a : Act σ α} {b : Act τ β} (h : Alike R V a b)
    (hV : ∀ x y, V x y → V' x y) : Alike R V' a b := by
  refine ⟨fun {s t} hst => ?_⟩
  obtain ⟨hagree, hrel⟩ := h.run hst
  refine ⟨?_, hrel⟩
  generalize (a.run s).1 = r at hagree ⊢
  generalize (b.run t).1 = r' at hagree ⊢
  cases hagree with
  | ok hv => exact .ok (hV _ _ hv)
  | error e => exact .error e

/-- Errors that are looked at are the same errors. -/
theorem Alike.result {a : Act σ α} {b : Act τ α} (h : Alike R Eq a b) :
    Alike R Eq a.result b.result := by
  refine ⟨fun {s t} hst => ?_⟩
  obtain ⟨hagree, hrel⟩ := h.run hst
  rw [run_result, run_result]
  exact ⟨.ok (agree_eq_iff.mp hagree), hrel⟩

theorem alike_pure {x : α} {y : β} (h : V x y) : Alike R V (pure x) (pure y) :=
  ⟨fun hst => ⟨.ok h, hst⟩⟩

theorem alike_give (r : Except Error α) : Alike R Eq (give r) (give r) :=
  ⟨fun hst => ⟨agree_eq_iff.mpr rfl, hst⟩⟩

theorem alike_fail (e : Error) : Alike R V (fail e) (fail e) := ⟨fun hst => ⟨.error e, hst⟩⟩

theorem alike_look {f : σ → α} {g : τ → β} (h : ∀ {s t}, R s t → V (f s) (g t)) :
    Alike R V (look fun s => .ok (f s)) (look fun t => .ok (g t)) :=
  ⟨fun hst => ⟨.ok (h hst), hst⟩⟩

theorem alike_step {f : σ → α × σ} {g : τ → β × τ}
    (h : ∀ {s t}, R s t → V (f s).1 (g t).1 ∧ R (f s).2 (g t).2) : Alike R V (step f) (step g) :=
  ⟨fun hst => ⟨.ok (h hst).1, (h hst).2⟩⟩

end Act

namespace Suite

open Act (alike_pure alike_give alike_fail alike_look alike_step)

variable {σ τ α β : Type} {timed : Prop} {R : σ → τ → Prop}
  {N : String × Place → String × Place → Prop}

/-! ## Casts -/

/-- Two subjects answer in the same way; `N` relates the places that are opened in the same turn, each
with its root. -/
structure Subject.Alike (R : σ → τ → Prop) (N : String × Place → String × Place → Prop)
    (a : Subject σ) (b : Subject τ) : Prop where
  imageName : Act.Alike R Eq a.imageName b.imageName
  config : Act.Alike R Eq a.config b.config
  failConfig : Act.Alike R Eq a.failConfig b.failConfig
  setUp {x y : String × Place} (h : N x y) : Act.Alike R Eq (a.setUp x.2) (b.setUp y.2)
  tearDown {x y : String × Place} (h : N x y) : Act.Alike R Eq (a.tearDown x.2) (b.tearDown y.2)
  retrieve {x y : String × Place} (h : N x y) (stream : String) (space : Option String)
    (schema : Json) :
    Act.Alike R Eq (a.retrieve x.2 stream space schema) (b.retrieve y.2 stream space schema)

/-- Two launchers answer in the same way. -/
structure Launcher.Alike (R : σ → τ → Prop) (N : String × Place → String × Place → Prop)
    (a : Launcher σ) (b : Launcher τ) : Prop where
  spec {x y : String × Place} (h : N x y) : Act.Alike R Eq (a.spec x.2) (b.spec y.2)
  check {x y : String × Place} (h : N x y) (v : Json) :
    Act.Alike R Eq (a.check x.2 v) (b.check y.2 v)
  write {x y : String × Place} (h : N x y) (v : Json) (k : Catalog) (ms : List Message) :
    Act.Alike R Eq (a.write x.2 v k ms) (b.write y.2 v k ms)

/-- Two sites open places that belong together; if `timed` holds, their clocks show the same time. -/
structure Site.Alike (timed : Prop) (R : σ → τ → Prop)
    (N : String × Place → String × Place → Prop) (a : Site σ) (b : Site τ) : Prop where
  openPlace : Act.Alike R N a.openPlace b.openPlace
  closePlace {x y : String × Place} {s : σ} {t : τ} (h : N x y) (hst : R s t) :
    R (a.closePlace x.1 s) (b.closePlace y.1 t)
  clock (ht : timed) {s : σ} {t : τ} (hst : R s t) : a.clock s = b.clock t

/-- Two casts answer in the same way. -/
structure Cast.Alike (timed : Prop) (R : σ → τ → Prop)
    (N : String × Place → String × Place → Prop) (a : Cast σ) (b : Cast τ) : Prop where
  subject : a.subject.Alike R N b.subject
  launcher : a.launcher.Alike R N b.launcher
  site : a.site.Alike timed R N b.site

/-- The same outcome of the same case; if `timed` holds, it also took the same time. -/
structure Outcome.Alike (timed : Prop) (o o' : Outcome) : Prop where
  case : o.case = o'.case
  status : o.status = o'.status
  elapsed (ht : timed) : o.elapsed = o'.elapsed

/-- The same report; if `timed` holds, also with the same times. -/
structure Report.Alike (timed : Prop) (r r' : Report) : Prop where
  image : r.image = r'.image
  outcomes : List.Forall₂ (Outcome.Alike timed) r.outcomes r'.outcomes

theorem Outcome.Alike.passed {o o' : Outcome} (h : o.Alike timed o') : o.passed = o'.passed := by
  rw [Outcome.passed, Outcome.passed, h.status]

theorem Outcome.Alike.eq {o o' : Outcome} (h : o.Alike True o') : o = o' := by
  obtain ⟨case, status, elapsed⟩ := o
  obtain ⟨case', status', elapsed'⟩ := o'
  obtain ⟨rfl, rfl, he⟩ := h
  obtain rfl := he trivial
  rfl

theorem Report.Alike.eq {r r' : Report} (h : r.Alike True r') : r = r' := by
  obtain ⟨image, outcomes⟩ := r
  obtain ⟨image', outcomes'⟩ := r'
  obtain ⟨rfl, hos⟩ := h
  have heq : outcomes = outcomes' :=
    List.forall₂_eq_eq_eq ▸ hos.imp fun o o' => Outcome.Alike.eq
  rw [heq]

/-! ## Runs -/

section Runs

variable {a : Cast σ} {b : Cast τ} {fixture : Fixture} {configs : Configs} {plan : Plan}
  {x y : String × Place}

theorem alike_readBack (h : a.Alike timed R N b) (hxy : N x y) (es : List Fixture.Expectation) :
    Act.Alike R Eq (readBack a.subject x.2 es) (readBack b.subject y.2 es) := by
  induction es with
  | nil => exact alike_pure rfl
  | cons e es ih =>
    refine (h.subject.retrieve hxy _ _ _).bind ?_
    rintro actual _ rfl
    cases judgeStream e actual with
    | passed => exact ih
    | failed reason => exact alike_pure rfl

theorem alike_roundTrip (h : a.Alike timed R N b) (hxy : N x y) (config : Json) :
    Act.Alike R Eq (roundTrip a fixture config x.2) (roundTrip b fixture config y.2) := by
  refine (h.launcher.write hxy _ _ _).bind ?_
  rintro emitted _ rfl
  split
  · exact alike_readBack h hxy _
  · exact alike_pure rfl

theorem alike_body (h : a.Alike timed R N b) (hxy : N x y) (c : Case) :
    Act.Alike R Eq (body a fixture configs x.2 c) (body b fixture configs y.2 c) := by
  cases c with
  | spec =>
    refine (h.launcher.spec hxy).bind ?_
    rintro spec _ rfl
    exact alike_pure rfl
  | checkSuccess =>
    refine (alike_give _).bind ?_
    rintro config _ rfl
    refine (h.launcher.check hxy config).bind ?_
    rintro answer _ rfl
    exact alike_pure rfl
  | checkFailure =>
    refine (alike_give _).bind ?_
    rintro config _ rfl
    refine (h.launcher.check hxy config).bind ?_
    rintro answer _ rfl
    exact alike_pure rfl
  | syncRoundTrip =>
    refine (alike_give _).bind ?_
    rintro config _ rfl
    exact alike_roundTrip h hxy config

theorem alike_attempt (h : a.Alike timed R N b) (hxy : N x y) (c : Case) :
    Act.Alike R Eq (attempt a fixture configs x.2 c) (attempt b fixture configs y.2 c) := by
  refine (h.subject.setUp hxy).result.bind ?_
  rintro prepared _ rfl
  cases prepared with
  | error e => exact alike_fail _
  | ok u => exact alike_body h hxy c

theorem alike_runIn (h : a.Alike timed R N b) (hxy : N x y) (c : Case) :
    Act.Alike R Eq (runIn a fixture configs x.2 c) (runIn b fixture configs y.2 c) := by
  refine (alike_attempt h hxy c).result.bind ?_
  rintro tried _ rfl
  refine (h.subject.tearDown hxy).result.bind ?_
  rintro cleared _ rfl
  exact alike_give _

/-- A case comes to the same, also if its place has another name. -/
theorem alike_runCase (h : a.Alike timed R N b) (c : Case) :
    Act.Alike R (Outcome.Alike timed) (runCase a fixture configs c)
      (runCase b fixture configs c) := by
  have hclock : Act.Alike R (fun m n => timed → m = n) (Act.look fun s => .ok (a.site.clock s))
      (Act.look fun t => .ok (b.site.clock t)) :=
    alike_look fun hst ht => h.site.clock ht hst
  refine hclock.bind fun start start' hstart => h.site.openPlace.bind fun x y hxy => ?_
  refine (alike_runIn h hxy c).result.bind ?_
  rintro status _ rfl
  refine hclock.bind fun stop stop' hstop => ?_
  have hclose : Act.Alike R Eq (Act.step fun s => ((), a.site.closePlace x.1 s))
      (Act.step fun t => ((), b.site.closePlace y.1 t)) :=
    alike_step fun hst => ⟨rfl, h.site.closePlace hxy hst⟩
  refine hclose.bind fun _ _ _ => (alike_give status).bind ?_
  rintro verdict _ rfl
  exact alike_pure ⟨rfl, rfl, fun ht => by rw [hstart ht, hstop ht]⟩

theorem alike_runCases (h : a.Alike timed R N b) (cs : List Case) :
    Act.Alike R (List.Forall₂ (Outcome.Alike timed)) (runCases a plan configs cs)
      (runCases b plan configs cs) := by
  induction cs with
  | nil => exact alike_pure .nil
  | cons c cs ih =>
    refine (alike_runCase h c).bind fun o o' ho => ?_
    rw [ho.passed]
    split
    · exact alike_pure (.cons ho .nil)
    · exact ih.bind fun os os' hos => alike_pure (.cons ho hos)

theorem alike_whenNeeded (needed : Bool) {c : Act σ Json} {d : Act τ Json}
    (h : Act.Alike R Eq c d) : Act.Alike R Eq (whenNeeded needed c) (whenNeeded needed d) := by
  cases needed with
  | false => exact alike_pure rfl
  | true =>
    refine h.bind ?_
    rintro v _ rfl
    exact alike_pure rfl

theorem alike_resolve (h : a.Alike timed R N b) (cs : List Case) :
    Act.Alike R Eq (resolve a.subject cs) (resolve b.subject cs) := by
  refine (alike_whenNeeded _ h.subject.config).bind ?_
  rintro config _ rfl
  refine (alike_whenNeeded _ h.subject.failConfig).bind ?_
  rintro failConfig _ rfl
  exact alike_pure rfl

/-- **Runs of casts that are alike come to the same.** -/
theorem alike_run (h : a.Alike timed R N b) (plan : Plan) :
    Act.Alike R (Report.Alike timed) (run a plan) (run b plan) := by
  refine h.subject.imageName.bind ?_
  rintro image _ rfl
  refine (alike_resolve h plan.cases).bind ?_
  rintro configs _ rfl
  exact (alike_runCases h plan.cases).bind fun os os' hos => alike_pure ⟨rfl, hos⟩

end Runs

/-! ## Transcripts -/

/-- The same call, with the same arguments but for the names of places. -/
inductive Call.Alike (N : String × Place → String × Place → Prop) : Call → Call → Prop
  | imageName : Alike N .imageName .imageName
  | config : Alike N .config .config
  | failConfig : Alike N .failConfig .failConfig
  | setUp {x y : String × Place} (h : N x y) : Alike N (.setUp x.2) (.setUp y.2)
  | tearDown {x y : String × Place} (h : N x y) : Alike N (.tearDown x.2) (.tearDown y.2)
  | retrieve {x y : String × Place} (h : N x y) (stream : String) (space : Option String)
      (schema : Json) :
      Alike N (.retrieve x.2 stream space schema) (.retrieve y.2 stream space schema)
  | spec {x y : String × Place} (h : N x y) : Alike N (.spec x.2) (.spec y.2)
  | check {x y : String × Place} (h : N x y) (v : Json) : Alike N (.check x.2 v) (.check y.2 v)
  | write {x y : String × Place} (h : N x y) (v : Json) (k : Catalog) (ms : List Message) :
      Alike N (.write x.2 v k ms) (.write y.2 v k ms)

/-- The calls among some exchanges, in their order. -/
def calls (es : List Exchange) : List Call := es.filterMap fun
  | .called call _ => some call
  | .opened _ => none

/-- Two exchanges belong together: places are opened, or the same call is made. -/
inductive Exchange.Alike (N : String × Place → String × Place → Prop) : Exchange → Exchange → Prop
  | opened (r r' : Except Error (String × Place)) : Alike N (.opened r) (.opened r')
  | called {c d : Call} (h : c.Alike N d) (r : Except Error c.Answer) (r' : Except Error d.Answer) :
      Alike N (.called c r) (.called d r')

theorem calls_prefix {es fs : List Exchange} (h : es <+: fs) : calls es <+: calls fs :=
  h.filterMap _

theorem forall₂_calls {es fs : List Exchange} (h : List.Forall₂ (Exchange.Alike N) es fs) :
    List.Forall₂ (Call.Alike N) (calls es) (calls fs) := by
  induction h with
  | nil => exact .nil
  | cons hx hxs ih =>
    cases hx with
    | opened r r' => exact ih
    | called hc r r' => exact .cons hc ih

/-- States that belong together, each with a transcript. -/
def Transcribed (R : σ → τ → Prop) (N : String × Place → String × Place → Prop)
    (x : σ × List Exchange) (y : τ × List Exchange) : Prop :=
  R x.1 y.1 ∧ List.Forall₂ (Exchange.Alike N) x.2 y.2

theorem alike_noted {V : α → β → Prop} {c : Act σ α} {d : Act τ β} (h : Act.Alike R V c d)
    {note : Except Error α → Exchange} {note' : Except Error β → Exchange}
    (hnote : ∀ r r', (note r).Alike N (note' r')) :
    Act.Alike (Transcribed R N) V (noted (fun r _ => [note r]) c)
      (noted (fun r _ => [note' r]) d) := by
  refine ⟨?_⟩
  rintro ⟨s, es⟩ ⟨t, fs⟩ ⟨hst, hes⟩
  obtain ⟨hagree, hrel⟩ := h.run hst
  rw [run_noted, run_noted]
  exact ⟨hagree, hrel, List.rel_append hes (.cons (hnote _ _) .nil)⟩

/-- Casts that are alike are alike when they are transcribed. -/
theorem Cast.Alike.transcribed {a : Cast σ} {b : Cast τ} (h : a.Alike timed R N b) :
    a.transcribed.Alike timed (Transcribed R N) N b.transcribed where
  subject :=
    { imageName := alike_noted h.subject.imageName fun _ _ => .called .imageName _ _
      config := alike_noted h.subject.config fun _ _ => .called .config _ _
      failConfig := alike_noted h.subject.failConfig fun _ _ => .called .failConfig _ _
      setUp := fun hxy => alike_noted (h.subject.setUp hxy) fun _ _ => .called (.setUp hxy) _ _
      tearDown := fun hxy =>
        alike_noted (h.subject.tearDown hxy) fun _ _ => .called (.tearDown hxy) _ _
      retrieve := fun hxy stream space schema =>
        alike_noted (h.subject.retrieve hxy stream space schema) fun _ _ =>
          .called (.retrieve hxy stream space schema) _ _ }
  launcher :=
    { spec := fun hxy => alike_noted (h.launcher.spec hxy) fun _ _ => .called (.spec hxy) _ _
      check := fun hxy v =>
        alike_noted (h.launcher.check hxy v) fun _ _ => .called (.check hxy v) _ _
      write := fun hxy v k ms =>
        alike_noted (h.launcher.write hxy v k ms) fun _ _ => .called (.write hxy v k ms) _ _ }
  site :=
    { openPlace := alike_noted h.site.openPlace fun _ _ => .opened _ _
      closePlace := fun hxy hst => ⟨h.site.closePlace hxy hst.1, hst.2⟩
      clock := fun ht _ _ hst => h.site.clock ht hst.1 }

/-- Casts that are alike are called in the same way. -/
theorem Cast.Alike.calls_transcript {a : Cast σ} {b : Cast τ} (h : a.Alike timed R N b)
    (plan : Plan) {s : σ} {t : τ} (hst : R s t) :
    List.Forall₂ (Call.Alike N) (calls (transcript a plan s)) (calls (transcript b plan t)) :=
  forall₂_calls ((alike_run h.transcribed plan).run (s := (s, [])) (t := (t, [])) ⟨hst, .nil⟩).2.2

end Suite
end Acceptance
