import Acceptance.Proofs.Json.Spelling

/-!
# What is read can be passed over

A reader that succeeds has met no fault in the outline that it read, not even in the parts that it
had no use for.

* `Passes`: a reader takes in nothing that cannot be passed over.

Results:
* `passes_value`, `passes_text`, `passes_choice`, `Passes.maybe`: the readers of parts.
* `passes_record`: a record is read of what can be passed over, if its fields are.
* `compound_of_record`: and of an array or an object only.
-/

namespace Acceptance.Json

open Schema (Field readMembers readItems)

variable {α σ : Type} {room : Nat}

/-- A reader takes in nothing that cannot be passed over. -/
def Passes (read : Node → Except Fault α) : Prop :=
  ∀ n x, read n = .ok x → pass n.outline = .ok ()

/-! ## Parts -/

theorem passes_value : Passes Node.value := fun n _ h => pass_of_value n.outline h

theorem passes_text : Passes format.text := by
  rintro ⟨room, o⟩ x h
  cases o with
  | string s => rfl
  | _ => cases h

theorem passes_integerIn (low high : Int) : Passes (Node.integerIn low high) := by
  rintro ⟨room, o⟩ x h
  obtain ⟨i, hi, -⟩ := bind_eq_ok_iff.mp h
  cases o with
  | number n => rfl
  | _ => cases hi

/-- What may be absent is null, or is read. -/
theorem Passes.maybe {read : Node → Except Fault α} (h : Passes read) :
    Passes (format.maybe read) := by
  rintro ⟨room, o⟩ x hx
  obtain ⟨m, hm, hx⟩ := bind_eq_ok_iff.mp hx
  cases o with
  | null => rfl
  | _ =>
    cases hm
    obtain ⟨y, hy, -⟩ := bind_eq_ok_iff.mp hx
    exact h _ y hy

/-- A name is a string, or the one member of an object in which nothing else stands. -/
theorem passes_choice (table : List (String × α)) : Passes (format.choice table) := by
  rintro ⟨room, o⟩ x h
  obtain ⟨⟨name, more⟩, hname, h⟩ := bind_eq_ok_iff.mp h
  have hmore : more = .ok () := by
    simp only at h
    split at h
    · cases h
    · obtain ⟨_, hmore, -⟩ := bind_eq_ok_iff.mp h
      exact hmore
  cases o with
  | string s => rfl
  | object members ending =>
    cases room with
    | zero => cases hname
    | succ room =>
      rcases members with _ | ⟨⟨k, p⟩, r⟩
      · cases ending <;> cases hname
      · obtain ⟨_, -, hk⟩ := bind_eq_ok_iff.mp hname
        obtain ⟨-, rfl⟩ := Prod.mk.inj (Except.ok.inj hk)
        cases p with
        | null => cases r <;> cases ending <;> first | rfl | cases hmore
        | _ => cases hmore
  | _ => cases hname

/-! ## Records -/

variable {fields : List (Field Node Fault σ)} {draft final : σ}

/-- Each field takes in nothing that cannot be passed over. -/
def FieldsPass (fields : List (Field Node Fault σ)) : Prop :=
  ∀ f ∈ fields, ∀ draft, Passes fun n => f.read n draft

theorem FieldsPass.nil : FieldsPass ([] : List (Field Node Fault σ)) := nofun

theorem FieldsPass.cons {read : Node → Except Fault α} {put : α → σ → σ} {names : List String}
    {required : Bool} (hread : Passes read) (h : FieldsPass fields) :
    FieldsPass (.of names required read put :: fields) := by
  refine List.forall_mem_cons.mpr ⟨fun draft n x hx => ?_, h⟩
  obtain ⟨y, hy, -⟩ := bind_eq_ok_iff.mp hx
  exact hread n y hy

/-- Members that are read can be passed over. -/
theorem passMembers_of_readMembers (hf : FieldsPass fields)
    (members : List (Except Fault String × Outline)) {seen : List Nat} {final : List Nat × σ}
    (h : readMembers format fields (members.map fun m => (m.1, ⟨room, m.2⟩)) seen draft =
      .ok final) : passMembers members = .ok () := by
  induction members generalizing seen draft with
  | nil => rfl
  | cons m members ih =>
    obtain ⟨k, o⟩ := m
    rw [List.map_cons, readMembers] at h
    obtain ⟨name, -, h⟩ := bind_eq_ok_iff.mp h
    rw [passMembers, bind_eq_ok_iff]
    split at h
    · obtain ⟨_, ho, h⟩ := bind_eq_ok_iff.mp h
      exact ⟨(), ho, ih h⟩
    · split at h
      · cases h
      · split at h
        · cases h
        · rename_i f hget
          obtain ⟨next, ho, h⟩ := bind_eq_ok_iff.mp h
          exact ⟨(), hf f (List.mem_of_getElem? hget) draft _ next ho, ih h⟩

/-- Items that are read can be passed over, and nothing is wrong with the end of the array. -/
theorem passItems_of_readItems {ending : Except Fault Unit} (hf : FieldsPass fields)
    (items : List Outline)
    (h : readItems format ending surplusItem fields (items.map fun o => ⟨room, o⟩) draft =
      .ok final) : passItems items = .ok () ∧ ending = .ok () := by
  induction fields generalizing items draft with
  | nil =>
    cases items with
    | nil =>
      obtain ⟨_, he, -⟩ := bind_eq_ok_iff.mp h
      exact ⟨rfl, he⟩
    | cons o items => cases h
  | cons f fields ih =>
    cases items with
    | nil =>
      obtain ⟨_, he, -⟩ := bind_eq_ok_iff.mp h
      exact ⟨rfl, he⟩
    | cons o items =>
      obtain ⟨next, ho, h⟩ := bind_eq_ok_iff.mp h
      obtain ⟨hitems, he⟩ := ih (fun g hg => hf g (List.mem_cons_of_mem f hg)) items h
      refine ⟨?_, he⟩
      rw [passItems, bind_eq_ok_iff]
      exact ⟨(), hf f List.mem_cons_self draft _ next ho, hitems⟩

/-- **A record is read of what can be passed over**, if its fields are. -/
theorem passes_record (hf : FieldsPass fields) : Passes (format.record fields draft) := by
  rintro ⟨room, o⟩ x h
  cases room with
  | zero => cases o <;> cases h
  | succ room =>
    cases o with
    | array items ending =>
      obtain ⟨hitems, he⟩ := passItems_of_readItems hf items h
      exact bind_eq_ok_iff.mpr ⟨(), hitems, he⟩
    | object members ending =>
      obtain ⟨r, hmembers, h⟩ := bind_eq_ok_iff.mp h
      obtain ⟨_, he, -⟩ := bind_eq_ok_iff.mp h
      exact bind_eq_ok_iff.mpr ⟨(), passMembers_of_readMembers hf members hmembers, he⟩
    | _ => cases h

/-- A record is read of an array or an object. -/
theorem compound_of_record {n : Node} {x : σ} (h : format.record fields draft n = .ok x) :
    Compound n.outline := by
  obtain ⟨room, o⟩ := n
  cases o with
  | array items ending => trivial
  | object members ending => trivial
  | _ => cases h

end Acceptance.Json
