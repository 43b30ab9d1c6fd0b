import Acceptance.Proofs.Suite.RoundTrip
import Mathlib.Algebra.BigOperators.Group.List.Basic
import Mathlib.Algebra.GroupWithZero.Nat
import Mathlib.Data.List.Nodup
import Mathlib.Data.List.Perm.Basic

/-!
# Records in groups

A fixture is in order when its catalog has a stream for every record, and then the expectations for
the streams hold all records that are written.

* `Catalog.Lists`: a catalog has a stream for a record.
* `Fixture.written`: the records of the messages that are of the kind `record`.
* `Fixture.Grouped`: nothing gets lost when the records are grouped by streams.

Results:
* `validate_eq_ok_iff_listed`, `validate_eq_error_iff`: when a fixture is in order, and what is said
  otherwise.
* `flatMap_filter_perm`: what is grouped by addresses holds a record once for each time its address
  occurs.
* `validate_grouped`: a fixture that is in order is grouped.
-/

namespace Acceptance

/-- The name and the namespace of the stream that an entry is for. -/
def Catalog.Entry.address (e : Catalog.Entry) : String × Option String :=
  (e.stream.name, e.stream.space)

/-- The name and the namespace of the stream that a record belongs to. -/
def Message.Record.address (r : Message.Record) : String × Option String := (r.stream, r.space)

/-- The name and the namespace of the stream that something is expected of. -/
def Fixture.Expectation.address (x : Fixture.Expectation) : String × Option String :=
  (x.stream, x.space)

/-- A catalog has an entry for the stream of a record. -/
def Catalog.Lists (c : Catalog) (r : Message.Record) : Prop :=
  ∃ e ∈ c.streams, e.address = r.address

/-- The record that is written with a message: only messages of the kind `record` write one. -/
def Message.written? (m : Message) : Option Message.Record :=
  if m.kind = .record then m.record else none

namespace Fixture

variable {f : Fixture}

/-- The records that are written with the messages of a fixture. -/
def written (f : Fixture) : List Message.Record := f.messages.filterMap Message.written?

/-! ## Fixtures in order -/

theorem lists_iff {c : Catalog} {r : Message.Record} : lists c r = true ↔ c.Lists r := by
  simp [lists, Catalog.find, List.find?_isSome, Catalog.Lists, Catalog.Entry.address,
    Message.Record.address]

theorem mem_recordsOf {ms : List Message} {r : Message.Record} :
    r ∈ recordsOf ms ↔ ∃ m ∈ ms, m.record = some r := by
  simp [recordsOf]

/-- **A fixture is in order exactly if its catalog has a stream for every record**, whatever the kind
of the message that carries it. -/
theorem validate_eq_ok_iff_listed :
    f.validate = .ok () ↔ ∀ m ∈ f.messages, ∀ r ∈ m.record, f.catalog.Lists r := by
  rw [validate_eq_ok_iff]
  constructor
  · intro h m hm r hr
    exact lists_iff.mp (h r (mem_recordsOf.mpr ⟨m, hm, hr⟩))
  · intro h r hr
    obtain ⟨m, hm, hrecord⟩ := mem_recordsOf.mp hr
    exact lists_iff.mpr (h m hm r hrecord)

/-- The messages before the one with a certain record of theirs. -/
theorem recordsOf_eq_append_cons_iff {ms : List Message} {before after : List Message.Record}
    {r : Message.Record} : recordsOf ms = before ++ r :: after ↔
      ∃ ms₁ m ms₂, ms = ms₁ ++ m :: ms₂ ∧ recordsOf ms₁ = before ∧ m.record = some r ∧
        recordsOf ms₂ = after := by
  constructor
  · intro h
    obtain ⟨ms₁, rest, rfl, hbefore, hrest⟩ := List.filterMap_eq_append_iff.mp h
    obtain ⟨none₁, m, ms₂, rfl, hnone, hm, hafter⟩ := List.filterMap_eq_cons_iff.mp hrest
    refine ⟨ms₁ ++ none₁, m, ms₂, (List.append_assoc _ _ _).symm, ?_, hm, hafter⟩
    rw [recordsOf, List.filterMap_append, hbefore, List.filterMap_eq_nil_iff.mpr hnone,
      List.append_nil]
  · rintro ⟨ms₁, m, ms₂, rfl, rfl, hm, rfl⟩
    rw [recordsOf, List.filterMap_append, List.filterMap_cons_some hm]
    rfl

/-- **What is said of a fixture that is not in order**: the first record without a stream. -/
theorem validate_eq_error_iff {e : Error} :
    f.validate = .error e ↔ ∃ before m after r, f.messages = before ++ m :: after ∧
      (∀ m' ∈ before, ∀ r' ∈ m'.record, f.catalog.Lists r') ∧ m.record = some r ∧
      ¬f.catalog.Lists r ∧ e = .config (.unlistedRecord r.stream r.space) := by
  have hfind (r : Message.Record) :
      (recordsOf f.messages).find? (fun r => !lists f.catalog r) = some r ↔
        ¬f.catalog.Lists r ∧ ∃ before m after, f.messages = before ++ m :: after ∧
          (∀ m' ∈ before, ∀ r' ∈ m'.record, f.catalog.Lists r') ∧ m.record = some r := by
    rw [List.find?_eq_some_iff_append, ← lists_iff]
    refine and_congr (by simp) ?_
    constructor
    · rintro ⟨rs, rs', hrs, hlisted⟩
      obtain ⟨before, m, after, hms, rfl, hm, -⟩ := recordsOf_eq_append_cons_iff.mp hrs
      refine ⟨before, m, after, hms, fun m' hm' r' hr' => lists_iff.mp ?_, hm⟩
      simpa using hlisted r' (mem_recordsOf.mpr ⟨m', hm', hr'⟩)
    · rintro ⟨before, m, after, hms, hlisted, hm⟩
      refine ⟨recordsOf before, recordsOf after,
        recordsOf_eq_append_cons_iff.mpr ⟨before, m, after, hms, rfl, hm, rfl⟩, fun r' hr' => ?_⟩
      obtain ⟨m', hm', hrecord⟩ := mem_recordsOf.mp hr'
      simpa using lists_iff.mpr (hlisted m' hm' r' hrecord)
  unfold validate
  cases hr : (recordsOf f.messages).find? (fun r => !lists f.catalog r) with
  | none =>
    refine ⟨nofun, ?_⟩
    rintro ⟨before, m, after, r, hms, hbefore, hm, hunlisted, -⟩
    rw [(hfind r).mpr ⟨hunlisted, before, m, after, hms, hbefore, hm⟩] at hr
    cases hr
  | some r =>
    obtain ⟨hunlisted, before, m, after, hms, hbefore, hm⟩ := (hfind r).mp hr
    constructor
    · intro h
      exact ⟨before, m, after, r, hms, hbefore, hm, hunlisted, (Except.error.inj h).symm⟩
    · rintro ⟨before', m', after', r', hms', hbefore', hm', hunlisted', rfl⟩
      have hr' := (hfind r').mpr ⟨hunlisted', before', m', after', hms', hbefore', hm'⟩
      rw [hr] at hr'
      cases hr'
      rfl

/-! ## Groups -/

/-- Nothing gets lost when the records of a fixture are grouped by the streams of its catalog. -/
structure Grouped (f : Fixture) : Prop where
  /-- There is one expectation for each entry of the catalog, in order, and its records are the data
  of the messages of the kind `record` for that stream, in order and as often as they are written. -/
  each : List.Forall₂ (fun (e : Catalog.Entry) (x : Expectation) =>
    x.address = e.address ∧ x.schema = e.stream.schema ∧
      x.records = f.messages.filterMap (Message.dataFor e.stream.name e.stream.space))
    f.catalog.streams f.expected
  /-- Every record that is written is expected of its stream. -/
  covered : ∀ m ∈ f.messages, m.kind = .record → ∀ r ∈ m.record,
    ∃ x ∈ f.expected, x.address = r.address ∧ r.data ∈ x.records
  /-- If no stream has two entries, then the expectations together hold every record that is written,
  each of them once and with its stream. -/
  parted : (f.catalog.streams.map (·.address)).Nodup →
    (f.expected.flatMap fun x => x.records.map fun v => (x.address, v)).Perm
      (f.written.map fun r => (r.address, r.data))
  /-- Their lengths then add up to the number of messages that write a record. -/
  counted : (f.catalog.streams.map (·.address)).Nodup →
    (f.expected.map (·.records.length)).sum =
      f.messages.countP fun m => m.kind == .record && m.record.isSome

/-- The data of a stream are those of the records that are written for it. -/
theorem filterMap_dataFor (e : Catalog.Entry) (f : Fixture) :
    f.messages.filterMap (Message.dataFor e.stream.name e.stream.space) =
      (f.written.filter fun r => r.address = e.address).map (·.data) := by
  rw [written, List.filter_filterMap, List.map_filterMap]
  refine List.filterMap_congr fun m _ => ?_
  unfold Message.dataFor Message.written?
  cases hk : m.kind with
  | record =>
    cases hr : m.record with
    | none => rfl
    | some r =>
      by_cases hx : r.stream = e.stream.name ∧ r.space = e.stream.space
      · simp [hx, Message.Record.address, Catalog.Entry.address, Option.filter_some]
      · simp [hx, Message.Record.address, Catalog.Entry.address, Option.filter_some]
  | _ => rfl

/-- A record is kept once for each address that is its own. -/
theorem flatMap_own (addresses : List (String × Option String)) (r : Message.Record) :
    (addresses.flatMap fun a => if r.address = a then [r] else []) =
      List.replicate (addresses.count r.address) r := by
  induction addresses with
  | nil => rfl
  | cons a as ih =>
    rw [List.flatMap_cons, ih]
    by_cases h : r.address = a
    · rw [if_pos h, h, List.count_cons_self, List.replicate_succ, List.singleton_append]
    · rw [if_neg h, List.count_cons_of_ne (Ne.symm h), List.nil_append]

/-- What is filtered for one address after the other holds each record as often as its address
occurs. -/
theorem flatMap_filter_perm (addresses : List (String × Option String))
    (rs : List Message.Record) :
    (addresses.flatMap fun a => rs.filter fun r => r.address = a).Perm
      (rs.flatMap fun r => List.replicate (addresses.count r.address) r) := by
  -- Going through the addresses and then the records comes to the same as the other way round.
  induction rs with
  | nil => simp
  | cons r rs ih =>
    have hsplit : (addresses.flatMap fun a => (r :: rs).filter fun r => r.address = a) =
        addresses.flatMap fun a =>
          (if r.address = a then [r] else []) ++ rs.filter fun r => r.address = a := by
      refine List.flatMap_congr fun a _ => ?_
      rw [List.filter_cons]
      by_cases h : r.address = a <;> simp [h]
    rw [hsplit, List.flatMap_cons, ← flatMap_own]
    exact (List.flatMap_append_perm _ _ _).symm.trans (ih.append_left _)

/-- If each of them occurs once, then it holds each record once. -/
theorem flatMap_filter_perm_self {addresses : List (String × Option String)}
    {rs : List Message.Record} (hd : addresses.Nodup) (hrs : ∀ r ∈ rs, r.address ∈ addresses) :
    (addresses.flatMap fun a => rs.filter fun r => r.address = a).Perm rs := by
  have honce : (rs.flatMap fun r => List.replicate (addresses.count r.address) r) = rs := by
    have hsingle : ∀ r ∈ rs, List.replicate (addresses.count r.address) r = [r] := fun r hr => by
      rw [List.count_eq_one_of_mem hd (hrs r hr), List.replicate_one]
    rw [List.flatMap_congr hsingle, List.flatMap_singleton']
  exact (flatMap_filter_perm addresses rs).trans (List.Perm.of_eq honce)

theorem mem_written {r : Message.Record} :
    r ∈ f.written ↔ ∃ m ∈ f.messages, m.kind = .record ∧ m.record = some r := by
  simp [written, Message.written?]

theorem address_mem_of_validate (h : f.validate = .ok ()) {r : Message.Record}
    (hr : r ∈ f.written) : r.address ∈ f.catalog.streams.map (·.address) := by
  obtain ⟨m, hm, -, hrecord⟩ := mem_written.mp hr
  exact List.mem_map.mpr (validate_eq_ok_iff_listed.mp h m hm r hrecord)

/-- The number of records that are written is that of the messages that write one. -/
theorem length_written (f : Fixture) :
    f.written.length = f.messages.countP fun m => m.kind == .record && m.record.isSome := by
  rw [written, List.length_filterMap_eq_countP]
  refine List.countP_congr fun m _ => ?_
  unfold Message.written?
  by_cases hk : m.kind = .record <;> simp [hk]

/-- The expectation for an entry of the catalog. -/
theorem expected_eq (f : Fixture) : f.expected = f.catalog.streams.map fun e =>
    ⟨e.stream.name, e.stream.space, e.stream.schema,
      (f.written.filter fun r => r.address = e.address).map (·.data)⟩ := by
  unfold expected
  refine List.map_congr_left fun e _ => ?_
  rw [dataOf_eq_filterMap, filterMap_dataFor]

/-- What is expected of the streams, each record with its stream, is what is filtered for their
addresses. -/
theorem flatMap_expected (f : Fixture) :
    (f.expected.flatMap fun x => x.records.map fun v => (x.address, v)) =
      ((f.catalog.streams.map (·.address)).flatMap fun a =>
        f.written.filter fun r => r.address = a).map fun r => (r.address, r.data) := by
  rw [expected_eq, List.flatMap_map, List.flatMap_map, List.map_flatMap]
  refine List.flatMap_congr fun e _ => ?_
  rw [List.map_map]
  refine List.map_congr_left fun r hr => ?_
  have haddress : r.address = e.address := by simpa using List.of_mem_filter hr
  rw [haddress]
  rfl

/-- **A fixture that is in order is grouped.** It is in order exactly if its catalog has a stream for
every record; otherwise the first record without one is reported. -/
theorem validate_grouped (f : Fixture) :
    (f.validate = .ok () ↔ ∀ m ∈ f.messages, ∀ r ∈ m.record, f.catalog.Lists r) ∧
    (∀ e, f.validate = .error e ↔ ∃ before m after r, f.messages = before ++ m :: after ∧
      (∀ m' ∈ before, ∀ r' ∈ m'.record, f.catalog.Lists r') ∧ m.record = some r ∧
      ¬f.catalog.Lists r ∧ e = .config (.unlistedRecord r.stream r.space)) ∧
    (f.validate = .ok () → f.Grouped) := by
  refine ⟨validate_eq_ok_iff_listed, fun e => validate_eq_error_iff, fun h => ?_⟩
  have hparted (hd : (f.catalog.streams.map (·.address)).Nodup) :
      (f.expected.flatMap fun x => x.records.map fun v => (x.address, v)).Perm
        (f.written.map fun r => (r.address, r.data)) := by
    rw [flatMap_expected]
    exact (flatMap_filter_perm_self hd fun r hr => address_mem_of_validate h hr).map _
  constructor
  · rw [expected_eq, List.forall₂_map_right_iff, List.forall₂_same]
    exact fun e _ => ⟨rfl, rfl, (filterMap_dataFor e f).symm⟩
  · intro m hm hk r hr
    have hwritten := mem_written.mpr ⟨m, hm, hk, hr⟩
    obtain ⟨e, he, haddress⟩ := List.mem_map.mp (address_mem_of_validate h hwritten)
    rw [expected_eq]
    refine ⟨_, List.mem_map_of_mem he, haddress, List.mem_map_of_mem ?_⟩
    exact List.mem_filter.mpr ⟨hwritten, by simpa using haddress.symm⟩
  · exact hparted
  · intro hd
    rw [← length_written, ← List.length_map, ← (hparted hd).length_eq, List.length_flatMap]
    simp

/-- Two streams of one name, the first without a namespace and the second with an empty one, and
records for both, one of which comes with a message of another kind. -/
def rates : Fixture where
  catalog := ⟨[⟨⟨"rates", none, .null, []⟩, .fullRefresh, .append⟩,
    ⟨⟨"rates", some "", .null, []⟩, .fullRefresh, .append⟩]⟩
  messages := [.ofRecord ⟨"rates", some "", .bool true, 0⟩, .ofRecord ⟨"rates", none, .null, 1⟩,
    { Message.ofState .null with record := some ⟨"rates", none, .bool false, 2⟩ },
    .ofRecord ⟨"rates", some "", .bool true, 3⟩]

theorem validate_grouped_rates : rates.validate = .ok () ∧ rates.Grouped ∧
    rates.expected.map (·.records) = [[.null], [.bool true, .bool true]] := by
  have hvalid : rates.validate = .ok () := rfl
  exact ⟨hvalid, (validate_grouped rates).2.2 hvalid, rfl⟩

end Fixture
end Acceptance
