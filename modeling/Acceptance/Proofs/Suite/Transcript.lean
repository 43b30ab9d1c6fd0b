import Acceptance.Suite.Runner
import Acceptance.Suite.Trace

/-!
# Transcripts of work

What is exchanged with a cast while a piece of work is done, as a list of exchanges. A piece of work
and the same work with a transcribed cast are told together: they give the same result and leave the
same state, and what was added to the transcript is of a certain form.

* `Tells`: that form, as a relation between the result and what was added.
* `Exchange.error?`: the error of an answer.

Results:
* `Tells.bind`: work done after other work adds to the transcript what comes after it.
* `tells_noted`, `Tells.map`: a call that is noted adds itself.
* `Tells.run_eq`: a transcript is kept beside the work, and does not change it.
-/

namespace Acceptance.Suite

variable {σ α β : Type}

/-- The error of an answer, if it is one. -/
def Exchange.error? : Exchange → Option Error
  | opened (.error e) | called _ (.error e) => some e
  | opened (.ok _) | called _ (.ok _) => none

/-- `b` does what `a` does and keeps a transcript: all that it adds satisfies `Q`, and `P` holds of the
result and of what was added. -/
def Tells (Q : Exchange → Prop) (a : Act σ α) (b : Act (σ × List Exchange) α)
    (P : Except Error α → List Exchange → Prop) : Prop :=
  ∀ s es, ∃ new, b.run (s, es) = ((a.run s).1, (a.run s).2, es ++ new) ∧
    (∀ x ∈ new, Q x) ∧ P (a.run s).1 new

variable {Q : Exchange → Prop} {a : Act σ α} {b : Act (σ × List Exchange) α}
  {P R : Except Error α → List Exchange → Prop}

namespace Tells

/-- Started with an empty transcript, the work ends with one of the form told. -/
theorem run_eq (h : Tells Q a b P) (s : σ) :
    ∃ es, b.run (s, []) = ((a.run s).1, (a.run s).2, es) ∧ (∀ x ∈ es, Q x) ∧ P (a.run s).1 es :=
  h s []

theorem mono (h : Tells Q a b P) (hPR : ∀ r es, P r es → R r es) : Tells Q a b R := by
  intro s es
  obtain ⟨new, hrun, hq, hp⟩ := h s es
  exact ⟨new, hrun, hq, hPR _ _ hp⟩

/-- The work that follows is told knowing what came before it. -/
theorem bind {f : α → Act σ β} {g : α → Act (σ × List Exchange) β}
    {S : Except Error β → List Exchange → Prop} (h : Tells Q a b P)
    (herror : ∀ e es, P (.error e) es → S (.error e) es)
    (hok : ∀ x es, P (.ok x) es → Tells Q (f x) (g x) fun r new => S r (es ++ new)) :
    Tells Q (a >>= f) (b >>= g) S := by
  intro s es
  obtain ⟨new, hrun, hq, hp⟩ := h s es
  rw [Act.run_bind, Act.run_bind, hrun]
  rcases ha : a.run s with ⟨e | x, t⟩ <;> rw [ha] at hp
  · exact ⟨new, rfl, hq, herror e new hp⟩
  · obtain ⟨more, hrun', hq', hs⟩ := hok x new hp t (es ++ new)
    refine ⟨new ++ more, ?_, ?_, hs⟩
    · simp only [hrun', List.append_assoc]
    · intro y hy
      rcases List.mem_append.mp hy with hy | hy
      · exact hq y hy
      · exact hq' y hy

/-- Work whose errors are looked at is told as the work itself. -/
theorem result (h : Tells Q a b P) :
    Tells Q a.result b.result fun r es => ∃ t, r = .ok t ∧ P t es := by
  intro s es
  obtain ⟨new, hrun, hq, hp⟩ := h s es
  refine ⟨new, ?_, hq, (a.run s).1, rfl, hp⟩
  rw [Act.run_result, Act.run_result, hrun]

end Tells

/-- A piece of work that is done without an exchange. -/
theorem tells_silent (h : ∀ s es, b.run (s, es) = ((a.run s).1, (a.run s).2, es)) :
    Tells Q a b fun r es => es = [] ∧ ∃ s, r = (a.run s).1 := by
  intro s es
  refine ⟨[], ?_, fun x hx => absurd hx List.not_mem_nil, rfl, s, rfl⟩
  rw [List.append_nil]
  exact h s es

/-- What is done after work that neither fails nor exchanges anything. -/
theorem Tells.after {f : α → Act σ β} {g : α → Act (σ × List Exchange) β}
    {S : Except Error β → List Exchange → Prop}
    (h : ∀ s es, b.run (s, es) = ((a.run s).1, (a.run s).2, es))
    (hok : ∀ s, ∃ x, (a.run s).1 = .ok x) (hf : ∀ x, Tells Q (f x) (g x) S) :
    Tells Q (a >>= f) (b >>= g) S := by
  refine (tells_silent h).bind ?_ ?_
  · rintro e es ⟨-, s, hs⟩
    obtain ⟨x, hx⟩ := hok s
    rw [hx] at hs
    cases hs
  · rintro x es ⟨rfl, -⟩
    exact hf x

theorem tells_pure (x : α) :
    Tells Q (pure x : Act σ α) (pure x) fun r es => r = .ok x ∧ es = [] := by
  refine (tells_silent fun _ _ => rfl).mono ?_
  rintro r es ⟨hes, s, rfl⟩
  exact ⟨rfl, hes⟩

theorem tells_give (t : Except Error α) :
    Tells Q (Act.give t : Act σ α) (Act.give t) fun r es => r = t ∧ es = [] := by
  refine (tells_silent fun _ _ => rfl).mono ?_
  rintro r es ⟨hes, s, rfl⟩
  exact ⟨rfl, hes⟩

theorem tells_fail (e : Error) :
    Tells Q (Act.fail e : Act σ α) (Act.fail e) fun r es => r = .error e ∧ es = [] :=
  tells_give (.error e)

/-- A call that is noted adds itself, with its answer. -/
theorem tells_noted {note : Except Error α → Exchange} (h : ∀ s, Q (note (a.run s).1)) :
    Tells Q a (noted (fun r _ => [note r]) a) fun r es => es = [note r] := by
  intro s es
  refine ⟨[note (a.run s).1], rfl, ?_, rfl⟩
  intro x hx
  rw [List.mem_singleton.mp hx]
  exact h s

/-- A call that is noted adds itself also where something is made of its answer. -/
theorem Tells.map {note : Except Error α → Exchange} (h : Tells Q a b fun r es => es = [note r])
    (f : α → β) :
    Tells Q (a >>= fun x => pure (f x)) (b >>= fun x => pure (f x)) fun r es =>
      ∃ answer, r = answer.map f ∧ es = [note answer] := by
  refine h.bind ?_ ?_
  · rintro e es rfl
    exact ⟨.error e, rfl, rfl⟩
  · rintro x es rfl
    refine (tells_pure _).mono ?_
    rintro r es ⟨rfl, rfl⟩
    exact ⟨.ok x, rfl, rfl⟩

end Acceptance.Suite
