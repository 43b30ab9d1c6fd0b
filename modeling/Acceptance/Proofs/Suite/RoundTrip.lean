import Acceptance.Suite.Runner
import Acceptance.Proofs.Record.Matching
import Mathlib.Data.List.Forall2

/-!
# The verdict of the round trip

When writing a fixture and reading it back counts as passed, whoever takes part in it.

* `Message.IsLastState`: a message is the last of the kind `state` among some.
* `Message.dataFor`: the data that a message holds for a stream.
* `SameRecords`: two lists hold the same records, each as often.
* `answers`: what a subject answers when streams are read back one after another.

Results:
* `settles_iff`, `judgeStream_passed_iff`, `readBack_passed_iff`: when the state is the one expected,
  when a stream is, and when all streams of a catalog are.
* `roundTrip_eq_passed_iff`: the round trip as a write and what is judged after it.
* `roundTrip_passed_iff`: the verdict.
-/

namespace Acceptance

/-! ## What a fixture asks for -/

namespace Message

/-- A message is the last of the kind `state`. -/
def IsLastState (m : Message) (ms : List Message) : Prop :=
  m.kind = .state ∧ ∃ before after, ms = before ++ m :: after ∧ ∀ x ∈ after, x.kind ≠ .state

/-- The data that a message holds for a stream. -/
def dataFor (stream : String) (space : Option String) (m : Message) : Option Json :=
  match m.kind, m.record with
  | .record, some r => if r.stream = stream ∧ r.space = space then some r.data else none
  | _, _ => none

theorem lastState_eq_some_iff {ms : List Message} {v : Json} :
    lastState ms = some v ↔ ∃ m : Message, m.IsLastState ms ∧ m.state = some v := by
  have hfind (m : Message) :
      (ms.reverse.find? fun m => m.kind == .state) = some m ↔ m.IsLastState ms := by
    rw [List.find?_eq_some_iff_append]
    unfold IsLastState
    refine and_congr beq_iff_eq ?_
    constructor
    · rintro ⟨as, bs, hms, has⟩
      refine ⟨bs.reverse, as.reverse, ?_, ?_⟩
      · rw [← List.reverse_reverse ms, hms]
        simp
      · intro x hx hk
        simpa [hk] using has x (List.mem_reverse.mp hx)
    · rintro ⟨before, after, rfl, hafter⟩
      refine ⟨after.reverse, before.reverse, by simp, ?_⟩
      intro x hx
      simpa using hafter x (List.mem_reverse.mp hx)
  unfold lastState
  constructor
  · intro h
    split at h
    · rename_i m hm
      exact ⟨m, (hfind m).mp hm, h⟩
    · cases h
  · rintro ⟨m, hm, hv⟩
    rw [(hfind m).mpr hm]
    exact hv

end Message

/-- The data that a stream is expected to hold is that of the messages that hold data for it. -/
theorem Fixture.dataOf_eq_filterMap (stream : String) (space : Option String) (ms : List Message) :
    dataOf stream space ms = ms.filterMap (Message.dataFor stream space) := by
  induction ms with
  | nil => rfl
  | cons m r ih =>
    unfold dataOf recordsOf at ih ⊢
    cases hk : m.kind with
    | record =>
      cases hr : m.record with
      | none => simpa [hk, hr, Message.dataFor] using ih
      | some x =>
        by_cases hx : x.stream = stream ∧ x.space = space
        · simpa [hk, hr, hx, Message.dataFor] using ih
        · have hb : (x.stream == stream && x.space == space) = false := by simpa using hx
          simpa [hk, hr, hx, hb, Message.dataFor] using ih
    | _ => simpa [hk, Message.dataFor] using ih

namespace Suite

variable {σ : Type}

/-- The same records on both sides, each as often, whatever their order. -/
def SameRecords (expected actual : List Json) : Prop :=
  (expected.map Record.fingerprint).Perm (actual.map Record.fingerprint)

/-! ## What is judged -/

/-- The last state has to come back if one was sent. -/
theorem settles_iff {sent emitted : List Message} :
    settles sent emitted = true ↔
      ∀ v, Message.lastState sent = some v →
        ∃ w, Message.lastState emitted = some w ∧ w.same v = true := by
  unfold settles
  cases Message.lastState sent with
  | none => simp
  | some v =>
    cases Message.lastState emitted with
    | none => simp [sameState]
    | some w => simp [sameState]

/-- Nothing read where something was expected is a difference like any other. -/
theorem judgeStream_passed_iff {x : Fixture.Expectation} {actual : List Json} :
    judgeStream x actual = .passed ↔ SameRecords x.records actual := by
  unfold judgeStream SameRecords
  by_cases he : actual.isEmpty && !x.records.isEmpty
  · rw [if_pos he]
    simp only [Bool.and_eq_true, List.isEmpty_iff, Bool.not_eq_true',
      List.isEmpty_eq_false_iff] at he
    obtain ⟨rfl, hne⟩ := he
    refine ⟨nofun, fun h => absurd ?_ hne⟩
    rw [List.map_nil, List.perm_nil, List.map_eq_nil_iff] at h
    exact h
  · rw [if_neg he, ← Record.isMatch_iff_perm]
    by_cases hm : (Record.compare x.records actual).isMatch <;> simp [hm]

/-- What a subject answers for the streams of a catalog, asked one after another. -/
def answers (subject : Subject σ) (place : Place) :
    List Catalog.Entry → σ → List (Except Error (List Json))
  | [], _ => []
  | e :: r, s =>
    let asked := (subject.retrieve place e.stream.name e.stream.space e.stream.schema).run s
    asked.1 :: answers subject place r asked.2

/-- An answer holds the records that some messages have for the stream of an entry. -/
def Holds (ms : List Message) (e : Catalog.Entry) (answer : Except Error (List Json)) : Prop :=
  ∃ actual, answer = .ok actual ∧
    SameRecords (ms.filterMap (Message.dataFor e.stream.name e.stream.space)) actual

/-- Reading back passes exactly if every stream of the catalog is answered as expected. -/
theorem readBack_passed_iff (subject : Subject σ) (place : Place) (es : List Catalog.Entry)
    (ms : List Message) (s : σ) :
    ((readBack subject place (Fixture.expected ⟨⟨es⟩, ms⟩)).run s).1 = .ok .passed ↔
      List.Forall₂ (Holds ms) es (answers subject place es s) := by
  induction es generalizing s with
  | nil => exact ⟨fun _ => .nil, fun _ => rfl⟩
  | cons e r ih =>
    show ((readBack subject place (_ :: Fixture.expected ⟨⟨r⟩, ms⟩)).run s).1 = _ ↔ _
    rw [readBack, Act.run_bind, answers, List.forall₂_cons, ← ih]
    rcases hasked : (subject.retrieve place e.stream.name e.stream.space e.stream.schema).run s
      with ⟨f | actual, t⟩
    · refine ⟨nofun, ?_⟩
      rintro ⟨⟨actual, ha, -⟩, -⟩
      cases ha
    · have hholds : Holds ms e (.ok actual) ↔ judgeStream ⟨e.stream.name, e.stream.space,
          e.stream.schema, Fixture.dataOf e.stream.name e.stream.space ms⟩ actual = .passed := by
        rw [judgeStream_passed_iff, Fixture.dataOf_eq_filterMap]
        unfold Holds
        simp
      rw [hholds]
      cases hj : judgeStream ⟨e.stream.name, e.stream.space, e.stream.schema,
          Fixture.dataOf e.stream.name e.stream.space ms⟩ actual with
      | passed => simp only [hj, true_and]
      | failed reason => simp [hj, Act.run_pure]

/-! ## The verdict -/

/-- The round trip passes exactly if the write succeeds, and then the state and the streams are those
expected. -/
theorem roundTrip_eq_passed_iff (cast : Cast σ) (fixture : Fixture) (config : Json) (place : Place)
    (s : σ) :
    ((roundTrip cast fixture config place).run s).1 = .ok .passed ↔
      ∃ emitted t,
        (cast.launcher.write place config fixture.catalog fixture.messages).run s =
          (.ok emitted, t) ∧
        settles fixture.messages emitted = true ∧
        List.Forall₂ (Holds fixture.messages) fixture.catalog.streams
          (answers cast.subject place fixture.catalog.streams t) := by
  unfold roundTrip
  rw [Act.run_bind]
  rcases (cast.launcher.write place config fixture.catalog fixture.messages).run s
    with ⟨e | emitted, t⟩
  · refine ⟨nofun, ?_⟩
    rintro ⟨emitted, u, hw, -⟩
    cases hw
  · have hread := readBack_passed_iff cast.subject place fixture.catalog.streams fixture.messages t
    by_cases hs : settles fixture.messages emitted = true
    · simp only [if_pos hs]
      constructor
      · intro h
        exact ⟨emitted, t, rfl, hs, hread.mp h⟩
      · rintro ⟨ms, u, hw, -, h⟩
        cases hw
        exact hread.mpr h
    · simp only [if_neg hs]
      constructor
      · intro h
        cases h
      · rintro ⟨ms, u, hw, hset, -⟩
        cases hw
        exact absurd hset hs

/-- **The verdict of the round trip.** It passes exactly if the fixture could be written, its last
state came back if it has one, and every stream of the catalog, asked for by its name, its namespace
and its schema, holds the records of the fixture for it and no others. -/
theorem roundTrip_passed_iff (cast : Cast σ) (fixture : Fixture) (config : Json) (place : Place)
    (s : σ) :
    ((roundTrip cast fixture config place).run s).1 = .ok .passed ↔
      ∃ emitted t,
        (cast.launcher.write place config fixture.catalog fixture.messages).run s =
          (.ok emitted, t) ∧
        (∀ (m : Message) (v : Json), m.IsLastState fixture.messages → m.state = some v →
          ∃ (n : Message) (w : Json), n.IsLastState emitted ∧ n.state = some w ∧
            w.same v = true) ∧
        List.Forall₂ (Holds fixture.messages) fixture.catalog.streams
          (answers cast.subject place fixture.catalog.streams t) := by
  rw [roundTrip_eq_passed_iff]
  refine exists_congr fun emitted => exists_congr fun t => and_congr_right fun _ =>
    and_congr_left fun _ => ?_
  rw [settles_iff]
  constructor
  · intro h m v hm hv
    obtain ⟨w, hw, hsame⟩ := h v (Message.lastState_eq_some_iff.mpr ⟨m, hm, hv⟩)
    obtain ⟨n, hn, hnw⟩ := Message.lastState_eq_some_iff.mp hw
    exact ⟨n, w, hn, hnw, hsame⟩
  · intro h v hv
    obtain ⟨m, hm, hmv⟩ := Message.lastState_eq_some_iff.mp hv
    obtain ⟨n, w, hn, hnw, hsame⟩ := h m v hm hmv
    exact ⟨w, Message.lastState_eq_some_iff.mpr ⟨n, hn, hnw⟩, hsame⟩

end Suite
end Acceptance
