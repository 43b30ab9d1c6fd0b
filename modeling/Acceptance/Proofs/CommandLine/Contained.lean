import Acceptance.CommandLine.Session

/-!
# What goes wrong in a case

Of all that is done in a case nothing fails with an error of how the suite was set up.

* `Act.Contained`: what goes wrong in a piece of work does not come from there.

Results:
* `contained_makeTemporary`, …: work on the machine is contained.
* `contained_perform`, `contained_launcher`: so is what is done in containers,
* `contained_setUp`, `contained_tearDown`, `contained_retrieve`: and what is done at the
  destination.
-/

namespace Acceptance

/-- What goes wrong in a piece of work does not come from how the suite was set up. -/
structure Act.Contained {σ α : Type} (a : Act σ α) : Prop where
  error : ∀ s e, (a.run s).1 = .error e → e.isConfiguration = false

namespace Act

variable {σ τ α β : Type}

theorem Contained.bind {a : Act σ α} {f : α → Act σ β} (ha : a.Contained)
    (hf : ∀ s x, (a.run s).1 = .ok x → (f x).Contained) : (a >>= f).Contained := by
  refine ⟨fun s e he => ?_⟩
  rw [run_bind] at he
  rcases hrun : a.run s with ⟨d | x, t⟩ <;> rw [hrun] at he
  · cases he
    exact ha.error s e (congrArg Prod.fst hrun)
  · exact (hf s x (congrArg Prod.fst hrun)).error t e he

theorem Contained.within {a : Act σ α} (ha : a.Contained) (get : τ → σ) (set : σ → τ → τ) :
    (within get set a).Contained := ⟨fun t e he => ha.error (get t) e he⟩

theorem contained_step (f : σ → α × σ) : (step f).Contained := ⟨nofun⟩

theorem contained_pure (x : α) : (pure x : Act σ α).Contained := ⟨nofun⟩

theorem contained_result (a : Act σ α) : a.result.Contained := contained_step a.run

theorem contained_give {r : Except Error α} (h : ∀ e, r = .error e → e.isConfiguration = false) :
    (give r : Act σ α).Contained := ⟨fun _ e he => h e he⟩

/-- What was looked at instead of ending the work is given in the end. -/
theorem contained_give_of_result {a : Act σ α} (ha : a.Contained) {s : σ} {r : Except Error α}
    (h : (a.result.run s).1 = .ok r) : (give r : Act τ α).Contained := by
  rw [run_result] at h
  refine contained_give fun e he => ha.error s e ?_
  rw [Except.ok.inj h, he]

end Act

open Act

/-! ## On the machine -/

namespace Host.Machine

theorem contained_makeTemporary (stem : String) : (makeTemporary stem).Contained := by
  refine ⟨fun m e he => ?_⟩
  simp only [makeTemporary, Act.run, Act.of] at he
  split at he
  · cases he
    rfl
  · cases he

theorem contained_writeFile (path : String) (octets : List UInt8) :
    (writeFile path octets).Contained := by
  refine ⟨fun m e he => ?_⟩
  simp only [writeFile, Act.run, Act.of] at he
  split at he
  · cases he
  · cases he
    rfl

theorem contained_makeDirectories (path : String) : (makeDirectories path).Contained := by
  refine ⟨fun m e he => ?_⟩
  simp only [makeDirectories, Act.run, Act.of] at he
  obtain ⟨c, -, rfl⟩ := mapError_eq_error_iff.mp he
  rfl

theorem contained_removeIfPresent (path : String) : (removeIfPresent path).Contained := by
  refine ⟨fun m e he => ?_⟩
  simp only [removeIfPresent, Act.run, Act.of] at he
  split at he
  · cases he
  · split at he
    · cases he
    · cases he
      rfl
  · cases he
    rfl

end Host.Machine

/-! ## In a container -/

namespace Container

open Host (Machine)

variable {ρ σ : Type} {image : String}

theorem contained_putDocument (job file : String) (v : Option Json) :
    (putDocument job file v).Contained := by
  cases v with
  | none => exact contained_pure ()
  | some v => exact Machine.contained_writeFile _ _

theorem contained_performIn (runtime : Runtime ρ) (image : String) (s : Config.Container)
    (job localRoot : String) (r : Request) :
    (performIn runtime image s job localRoot r).Contained := by
  unfold performIn
  refine .bind ?_ fun _ _ _ => .bind (contained_step _) fun _ ending _ => contained_give ?_
  · exact .within (.bind (contained_putDocument _ _ _) fun _ _ _ => contained_putDocument _ _ _) _ _
  · intro e he
    cases ending <;> cases he <;> rfl

theorem contained_perform (runtime : Runtime ρ) (image : String) (s : Config.Container)
    (localRoot : String) (r : Request) : (perform runtime image s localRoot r).Contained := by
  unfold perform
  refine .bind (.within (Machine.contained_makeTemporary jobStem) _ _) fun _ job _ =>
    .bind (contained_result _) fun t result hresult => .bind (contained_step _) fun _ _ _ => ?_
  exact contained_give_of_result (contained_performIn runtime image s job localRoot r) hresult

theorem specOf_contained {o : Output} {e : Error} (h : specOf image o = .error e) :
    e.isConfiguration = false := by
  unfold specOf at h
  split at h
  · cases h
    rfl
  · split at h
    · cases h
    · cases h
      rfl

theorem connectionOf_contained {o : Output} {e : Error} (h : connectionOf image o = .error e) :
    e.isConfiguration = false := by
  unfold connectionOf at h
  split at h
  · cases h
  · split at h
    · cases h
      rfl
    · cases h
      rfl

theorem emittedOf_contained {o : Output} {e : Error} (h : emittedOf image o = .error e) :
    e.isConfiguration = false := by
  unfold emittedOf at h
  split at h
  · cases h
    rfl
  · cases h

/-- The commands of a launcher are contained. -/
structure LauncherContained (l : Suite.Launcher σ) : Prop where
  spec : ∀ p, (l.spec p).Contained
  check : ∀ p v, (l.check p v).Contained
  write : ∀ p v k ms, (l.write p v k ms).Contained

/-- **What goes wrong with a container is contained**, whatever the runtime does. -/
theorem contained_launcher (runtime : Runtime ρ) (image : String) (s : Config.Container)
    (get : σ → Machine × ρ) (set : Machine × ρ → σ → σ) :
    LauncherContained (launcher runtime image s get set) where
  spec _ := .bind (.within (contained_perform runtime image s _ _) _ _) fun _ _ _ =>
    contained_give fun _ => specOf_contained
  check _ _ := .bind (.within (contained_perform runtime image s _ _) _ _) fun _ _ _ =>
    contained_give fun _ => connectionOf_contained
  write _ _ _ _ := .bind (.within (contained_perform runtime image s _ _) _ _) fun _ _ _ =>
    contained_give fun _ => emittedOf_contained

end Container

/-! ## At the destination -/

namespace Destination

variable {σ : Type}

theorem contained_setUp (name root : String) : (setUp name root).Contained := by
  unfold setUp
  refine .bind (.within (Host.Machine.contained_makeDirectories _) _ _) fun _ _ _ =>
    .bind (contained_step _) fun _ before _ => ?_
  split
  · split
    · exact contained_pure ()
    · exact .within (Host.Machine.contained_removeIfPresent _) _ _
  · exact contained_pure ()

theorem contained_tearDown (root : String) : (tearDown root).Contained := by
  unfold tearDown
  refine .bind (contained_step _) fun _ directory _ => ?_
  split
  · exact .within (Host.Machine.contained_removeIfPresent _) _ _
  · exact contained_pure ()

/-- **What goes wrong with a store is contained**, whatever the store does. -/
theorem contained_retrieve (store : Store σ) (stream : String) (space : Option String) :
    (retrieve (some store) stream space).Contained := by
  refine ⟨fun s e he => ?_⟩
  simp only [retrieve, Act.run, Act.of] at he
  obtain ⟨d, -, rfl⟩ := mapError_eq_error_iff.mp he
  exact retrieval_isConfiguration d

end Destination
end Acceptance
