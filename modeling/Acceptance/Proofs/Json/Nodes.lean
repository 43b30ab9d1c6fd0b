import Acceptance.Proofs.Json.RoundTrip
import Acceptance.Proofs.Schema

/-!
# Records read back

A record whose members hold its fields in order is read back from the text of an object.

* `nodeOf`, `nodes`: what a reader meets in the text of a value, and of the members of an object.

Results:
* `supplied_required`, `supplied_present`, `supplied_absent`: members that hold a field, and a field
  that is left out.
* `record_nodeOf`: a record is read from the object of its members.
* `list_nodeOf`: a list is read from the array of its items.
-/

namespace Acceptance.Json

open Schema (Field Supplied Distinct)

/-- What a reader meets in the text of a value, where it may enter `room` more arrays and objects. -/
def nodeOf (room : Nat) (v : Json) : Node := ⟨room, outlineOf v⟩

/-- What a reader meets in the text of some members. -/
def nodes (room : Nat) (ms : List (String × Json)) : List (Except Fault String × Node) :=
  ms.map fun m => (.ok m.1, nodeOf room m.2)

variable {room : Nat} {α σ : Type} {fields : List (Field Node Fault σ)} {draft final : σ}
  {ms : List (String × Json)} {name : String} {v : Json}

/-! ## Members and fields -/

/-- A member holds a field that has to be there. -/
theorem supplied_required {read : Node → Except Fault α} {put : α → σ → σ} {x : α}
    (hread : read (nodeOf room v) = .ok x) (h : Supplied fields (nodes room ms) (put x draft) final) :
    Supplied (.of [name] true read put :: fields) (nodes room ((name, v) :: ms)) draft final :=
  .given List.mem_cons_self (bind_eq_ok_iff.mpr ⟨x, hread, rfl⟩) h

theorem maybe_nodeOf {read : Node → Except Fault α} {x : α} (hv : v ≠ .null)
    (hread : read (nodeOf room v) = .ok x) :
    format.maybe read (nodeOf room v) = .ok (some x) := by
  have hoptional : format.optional (nodeOf room v) = .ok (some (nodeOf room v)) := by
    cases v with
    | null => exact absurd rfl hv
    | _ => rfl
  exact bind_eq_ok_iff.mpr ⟨_, hoptional, bind_eq_ok_iff.mpr ⟨x, hread, rfl⟩⟩

/-- A member other than null holds a field that need not be there. -/
theorem supplied_present {read : Node → Except Fault α} {put : Option α → σ → σ} {x : α}
    (hv : v ≠ .null) (hread : read (nodeOf room v) = .ok x)
    (h : Supplied fields (nodes room ms) (put (some x) draft) final) :
    Supplied (.of [name] false (format.maybe read) put :: fields) (nodes room ((name, v) :: ms))
      draft final :=
  .given List.mem_cons_self (bind_eq_ok_iff.mpr ⟨_, maybe_nodeOf hv hread, rfl⟩) h

/-- A field that need not be there is left out. -/
theorem supplied_absent {read : Node → Except Fault α} {put : Option α → σ → σ}
    (hput : put none draft = draft) (h : Supplied fields (nodes room ms) (put none draft) final) :
    Supplied (.of [name] false (format.maybe read) put :: fields) (nodes room ms) draft final :=
  .left rfl (hput ▸ h)

theorem choice_nodeOf {table : List (String × α)} {x : α} (h : table.lookup name = some x) :
    format.choice table (nodeOf room (.str name)) = .ok x := by
  have hname : format.name (nodeOf room (.str name)) = .ok (name, .ok ()) := rfl
  refine bind_eq_ok_iff.mpr ⟨_, hname, ?_⟩
  simp only [h]
  rfl

/-! ## Objects -/

theorem membersOf_eq_map : membersOf ms = ms.map fun m => (.ok m.1, outlineOf m.2) := by
  induction ms with
  | nil => rfl
  | cons m r ih => rw [membersOf, ih, List.map_cons]

theorem shape_nodeOf : format.shape (nodeOf (room + 1) (.obj ms)) =
    .members (nodes room ms) (.ok ()) := by
  show Schema.Shape.members ((membersOf ms).map _) _ = _
  rw [membersOf_eq_map, List.map_map]
  rfl

theorem depth_le_of_mem {m : String × Json} (h : m ∈ ms) : m.2.depth ≤ depthMembers ms := by
  induction h with
  | head r => exact Nat.le_max_left _ _
  | tail m' _ ih => exact Nat.le_trans ih (Nat.le_max_right _ _)

/-- **A record is read from the object of its members**, if there is room for them. -/
theorem record_nodeOf (hfields : Distinct fields) (hd : (obj ms).depth ≤ room)
    (h : ∀ room', (∀ m ∈ ms, m.2.depth ≤ room') → Supplied fields (nodes room' ms) draft final) :
    format.record fields draft (nodeOf room (.obj ms)) = .ok final := by
  cases room with
  | zero => exact absurd hd (Nat.not_succ_le_zero _)
  | succ room =>
    have hmembers : ∀ m ∈ ms, m.2.depth ≤ room := fun m hm =>
      Nat.le_trans (depth_le_of_mem hm) (Nat.le_of_succ_le_succ hd)
    exact Schema.record_supplied shape_nodeOf hfields (h room hmembers)

/-! ## Arrays -/

theorem outlinesOf_eq_map (xs : List Json) : outlinesOf xs = xs.map outlineOf := by
  induction xs with
  | nil => rfl
  | cons x r ih => rw [outlinesOf, ih, List.map_cons]

theorem items_nodeOf (xs : List Json) :
    format.items (nodeOf (room + 1) (.arr xs)) = .ok (xs.map (nodeOf room), .ok ()) := by
  show Except.ok ((outlinesOf xs).map _, _) = _
  rw [outlinesOf_eq_map, List.map_map]
  rfl

theorem depth_le_of_mem_items {x : Json} {xs : List Json} (h : x ∈ xs) :
    x.depth ≤ depthItems xs := by
  induction h with
  | head r => exact Nat.le_max_left _ _
  | tail y _ ih => exact Nat.le_trans ih (Nat.le_max_right _ _)

/-- **A list is read from the array of its items**, if there is room for them. -/
theorem list_nodeOf {read : Node → Except Fault α} {toJson : α → Json} {xs : List α}
    (hd : (arr (xs.map toJson)).depth ≤ room)
    (h : ∀ room', ∀ x ∈ xs, (toJson x).depth ≤ room' → read (nodeOf room' (toJson x)) = .ok x) :
    format.list read (nodeOf room (.arr (xs.map toJson))) = .ok xs := by
  cases room with
  | zero => exact absurd hd (Nat.not_succ_le_zero _)
  | succ room =>
    refine bind_eq_ok_iff.mpr ⟨_, items_nodeOf _, ?_⟩
    rw [List.map_map]
    refine bind_eq_ok_iff.mpr ⟨xs, Schema.mapM_eq_ok fun x hx => h room x hx ?_, rfl⟩
    exact Nat.le_trans (depth_le_of_mem_items (List.mem_map_of_mem hx))
      (Nat.le_of_succ_le_succ hd)

end Acceptance.Json
