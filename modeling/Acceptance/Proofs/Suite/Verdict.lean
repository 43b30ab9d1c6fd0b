import Acceptance.Proofs.Suite.Containment

/-!
# The verdict of a case

Three calls decide a case: it is prepared, tried if that succeeded, and cleaned up after. What it
comes to depends on what these came to and on nothing else.

* `Course`, `course`: what the calls of a case came to, made one after another.
* `Course.error?`, `Course.failure?`, `Course.complaint?`: the error that preparing or trying the case
  ended with, the text of what went wrong there, and that of what went wrong in cleaning up.
* `Mentions`: a text holds some other texts, one behind the other.

Results:
* `runCase_eq_judge`: the outcome of a case is judged from its course.
* `judge_eq_ok_failed`: what is judged a failure mentions all that went wrong.
* `runCase_verdict`: when a case ends the run, passes or fails, and what is told of it.
-/

namespace Acceptance.Suite

variable {σ : Type}

/-- What the calls of a case came to. A case that could not be prepared is not tried. -/
inductive Course where
  | unprepared (e : Error) (cleared : Except Error Unit)
  | tried (result : Except Error Status) (cleared : Except Error Unit)

/-- The calls of a case in its place, from a state. -/
def course (cast : Cast σ) (fixture : Fixture) (configs : Configs) (place : Place) (c : Case)
    (s : σ) : Course :=
  match (cast.subject.setUp place).run s with
  | (.error e, t) => .unprepared e ((cast.subject.tearDown place).run t).1
  | (.ok (), t) =>
    let (result, u) := (body cast fixture configs place c).run t
    .tried result ((cast.subject.tearDown place).run u).1

/-- The text of what went wrong in cleaning up. -/
def complaintOf : Except Error Unit → Option String
  | .error e => some e.message
  | .ok () => none

namespace Course

/-- What cleaning up came to. -/
def cleared : Course → Except Error Unit
  | unprepared _ cleared | tried _ cleared => cleared

/-- The error that preparing or trying the case ended with. -/
def error? : Course → Option Error
  | unprepared e _ | tried (.error e) _ => some e
  | tried (.ok _) _ => none

/-- The text of what went wrong in preparing or trying the case. -/
def failure? : Course → Option String
  | unprepared e _ | tried (.error e) _ => some e.message
  | tried (.ok (.failed reason)) _ => some reason
  | tried (.ok .passed) _ => none

/-- The text of what went wrong in cleaning up. -/
def complaint? (k : Course) : Option String := complaintOf k.cleared

/-- What the attempt at the case came to. -/
def attempted : Course → Except Error Status
  | unprepared e _ => .error (setUpError e)
  | tried result _ => result

end Course

/-- A text holds some others, each behind the one before it. -/
def Mentions (text : String) : List String → Prop
  | [] => True
  | t :: ts => ∃ before after, text = before ++ t ++ after ∧ Mentions after ts

/-! ## What is judged -/

theorem mentions_append {before t : String} : Mentions (before ++ t) [t] :=
  ⟨before, "", by simp, trivial⟩

/-- What went wrong in cleaning up is told behind what went wrong before. -/
theorem mentions_complaint {before t : String} (d : Error) :
    Mentions (before ++ t ++ "; tear down failed: " ++ d.message) [t, d.message] := by
  refine ⟨before, "; tear down failed: " ++ d.message, ?_, mentions_append⟩
  rw [String.append_assoc]

/-- An error that does not end the run is told, and then what went wrong in cleaning up. -/
theorem judge_error_mentions {e : Error} (he : e.isConfiguration = false) {before t : String}
    (hmessage : e.message = before ++ t) (cleared : Except Error Unit) :
    ∃ reason, judge (.error e) cleared = .ok (.failed reason) ∧
      Mentions reason (t :: (complaintOf cleared).toList) := by
  cases cleared with
  | ok u =>
    refine ⟨e.message, by simp [judge, he], ?_⟩
    rw [hmessage]
    exact mentions_append
  | error d =>
    refine ⟨e.message ++ "; tear down failed: " ++ d.message, by simp [judge, he], ?_⟩
    rw [hmessage]
    exact mentions_complaint d

/-- A failure is told, and then what went wrong in cleaning up. -/
theorem judge_failed_mentions (reason : String) (cleared : Except Error Unit) :
    ∃ told, judge (.ok (.failed reason)) cleared = .ok (.failed told) ∧
      Mentions told (reason :: (complaintOf cleared).toList) := by
  have hreason : reason = "" ++ reason := String.empty_append.symm
  cases cleared with
  | ok u =>
    refine ⟨reason, rfl, ?_⟩
    conv => enter [1]; rw [hreason]
    exact mentions_append
  | error d =>
    refine ⟨reason ++ "; tear down failed: " ++ d.message, rfl, ?_⟩
    conv => enter [1]; rw [hreason]
    exact mentions_complaint d

/-- Work in a place that was opened is the course of the case there, judged. -/
theorem runIn_eq_judge (cast : Cast σ) (fixture : Fixture) (configs : Configs) (place : Place)
    (c : Case) (s : σ) :
    ((runIn cast fixture configs place c).run s).1 =
      judge (course cast fixture configs place c s).attempted
        (course cast fixture configs place c s).cleared := by
  unfold runIn attempt course
  simp only [Act.run_bind, Act.run_result]
  rcases (cast.subject.setUp place).run s with ⟨e | ⟨⟩, t⟩
  · rfl
  · rfl

/-- **The outcome of a case is judged from its course**; only the time it took is not. -/
theorem runCase_eq_judge (cast : Cast σ) (fixture : Fixture) (configs : Configs) (c : Case)
    {s t : σ} {root : String} {place : Place}
    (hopen : cast.site.openPlace.run s = (.ok (root, place), t)) :
    ∃ elapsed, ((runCase cast fixture configs c).run s).1 =
      (judge (course cast fixture configs place c t).attempted
        (course cast fixture configs place c t).cleared).map fun status => ⟨c, status, elapsed⟩ := by
  rw [← runIn_eq_judge]
  unfold runCase
  simp only [Act.run_bind, Act.run_look, Act.run_result, Act.run_step, Act.run_give, hopen]
  rcases (runIn cast fixture configs place c).run t with ⟨e | status, u⟩
  · exact ⟨0, rfl⟩
  · exact ⟨_, rfl⟩

/-- The error of a case that could not be prepared tells why. -/
theorem setUpError_message {e : Error} (he : e.isConfiguration = false) :
    (setUpError e).message = "lifecycle error: setup failed: " ++ e.message := by
  rw [setUpError, he, if_neg Bool.false_ne_true]
  exact String.append_assoc.symm

/-- **Nothing that went wrong is left out of what is told of a failure.** -/
theorem judge_eq_ok_failed (k : Course) (hrun : ∀ e, k.error? = some e → e.isConfiguration = false)
    (hfailed : k ≠ .tried (.ok .passed) (.ok ())) :
    ∃ reason, judge k.attempted k.cleared = .ok (.failed reason) ∧
      Mentions reason (k.failure?.toList ++ k.complaint?.toList) := by
  cases k with
  | unprepared e cleared =>
    have he : e.isConfiguration = false := hrun e rfl
    exact judge_error_mentions (by rw [setUpError_isConfiguration, he]) (setUpError_message he)
      cleared
  | tried result cleared =>
    rcases result with e | (_ | reason)
    · exact judge_error_mentions (hrun e rfl) String.empty_append.symm cleared
    · cases cleared with
      | ok u => exact absurd rfl hfailed
      | error d => exact ⟨"tear down failed: " ++ d.message, rfl, mentions_append⟩
    · exact judge_failed_mentions reason cleared

/-! ## The verdict -/

/-- An error that ends the run is that of preparing or trying the case, as it is. -/
theorem judge_attempted_error_iff {k : Course} {e : Error} :
    judge k.attempted k.cleared = .error e ↔ k.error? = some e ∧ e.isConfiguration = true := by
  rw [judge_error_iff]
  refine and_congr_left fun he => ?_
  cases k with
  | unprepared d cleared =>
    simp only [Course.attempted, Course.error?, Except.error.injEq, Option.some.injEq]
    cases hd : d.isConfiguration with
    | true => rw [setUpError, if_pos hd]
    | false =>
      -- Neither error comes from how the suite was set up, so neither is `e`.
      refine iff_of_false ?_ ?_
      · rintro rfl
        rw [setUpError_isConfiguration, hd] at he
        cases he
      · rintro rfl
        rw [hd] at he
        cases he
  | tried result cleared =>
    cases result with
    | error d => simp [Course.attempted, Course.error?]
    | ok status => simp [Course.attempted, Course.error?]

theorem judge_attempted_passed_iff {k : Course} :
    judge k.attempted k.cleared = .ok .passed ↔ k = .tried (.ok .passed) (.ok ()) := by
  rw [judge_passed_iff]
  cases k with
  | unprepared e cleared => simp [Course.attempted]
  | tried result cleared => simp [Course.attempted, Course.cleared]

/-- What a case comes to, by what its calls came to. -/
structure Verdict (k : Course) (c : Case) (r : Except Error Outcome) : Prop where
  /-- The case ends the run exactly if preparing or trying it ended with an error that comes from how
  the suite was set up, and it ends the run with that error. -/
  error_iff : ∀ e, r = .error e ↔ k.error? = some e ∧ e.isConfiguration = true
  /-- It passes exactly if it was prepared, the attempt passed and it was cleaned up after. -/
  passed_iff : (∃ o, r = .ok o ∧ o.status = .passed) ↔ k = .tried (.ok .passed) (.ok ())
  /-- In all other cases it fails, and what is told mentions what went wrong in preparing or trying the
  case, and behind it what went wrong in cleaning up. -/
  failed : (∀ e, k.error? = some e → e.isConfiguration = false) →
    k ≠ .tried (.ok .passed) (.ok ()) →
      ∃ o reason, r = .ok o ∧ o.status = .failed reason ∧
        Mentions reason (k.failure?.toList ++ k.complaint?.toList)
  /-- An outcome is that of the case. -/
  case_eq : ∀ o, r = .ok o → o.case = c

/-- **The verdict of a case** whose place could be opened. -/
theorem runCase_verdict (cast : Cast σ) (fixture : Fixture) (configs : Configs) (c : Case)
    {s t : σ} {root : String} {place : Place}
    (hopen : cast.site.openPlace.run s = (.ok (root, place), t)) :
    Verdict (course cast fixture configs place c t) c ((runCase cast fixture configs c).run s).1 := by
  obtain ⟨elapsed, hrun⟩ := runCase_eq_judge cast fixture configs c hopen
  rw [hrun]
  generalize course cast fixture configs place c t = k
  have hmap_error (e : Error) (r : Except Error Status) :
      (r.map fun status => (⟨c, status, elapsed⟩ : Outcome)) = .error e ↔ r = .error e := by
    cases r <;> simp [Except.map]
  constructor
  case error_iff =>
    intro e
    rw [hmap_error, judge_attempted_error_iff]
  case passed_iff =>
    rw [← judge_attempted_passed_iff]
    cases hj : judge k.attempted k.cleared with
    | error e => simp [Except.map]
    | ok status => simp [Except.map]
  case failed =>
    intro herror hpassed
    obtain ⟨reason, hj, hmentions⟩ := judge_eq_ok_failed k herror hpassed
    exact ⟨⟨c, .failed reason, elapsed⟩, reason, by rw [hj]; rfl, rfl, hmentions⟩
  case case_eq =>
    intro o ho
    cases hj : judge k.attempted k.cleared with
    | error e =>
      rw [hj] at ho
      cases ho
    | ok status =>
      rw [hj] at ho
      cases ho
      rfl

/-! ## A case on fixed inputs -/

/-- A destination on a disk without space: it can neither be prepared nor cleaned up after. -/
def cramped : Cast Unit where
  subject :=
    { imageName := pure "cramped"
      config := pure (.obj [])
      failConfig := pure (.obj [])
      setUp := fun _ => Act.fail (.io (.number 28))
      tearDown := fun _ => Act.fail (.io (.number 5))
      retrieve := fun _ _ _ _ => pure [] }
  launcher :=
    { spec := fun _ => pure (.obj [("connectionSpecification", .obj [])])
      check := fun _ _ => pure ⟨.succeeded, none⟩
      write := fun _ _ _ ms => pure ms }
  site :=
    { openPlace := pure ("/tmp/a", ⟨"/tmp/a/local"⟩)
      closePlace := fun _ s => s
      clock := fun _ => 0 }

theorem runCase_verdict_cramped :
    cramped.site.openPlace.run () = (.ok ("/tmp/a", ⟨"/tmp/a/local"⟩), ()) ∧
      Verdict (course cramped .builtin ⟨none, none⟩ ⟨"/tmp/a/local"⟩ .spec ()) .spec
        ((runCase cramped .builtin ⟨none, none⟩ .spec).run ()).1 ∧
      ((runCase cramped .builtin ⟨none, none⟩ .spec).run ()).1.toOption.map (·.status) =
        some (.failed ("lifecycle error: setup failed: io error: No space left on device " ++
          "(os error 28); tear down failed: io error: Input/output error (os error 5)")) :=
  ⟨rfl, runCase_verdict cramped .builtin ⟨none, none⟩ .spec rfl, by decide +kernel⟩

end Acceptance.Suite
