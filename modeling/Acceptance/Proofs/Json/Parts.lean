import Acceptance.Json.Reader
import Acceptance.Proofs.Json.Numerals

/-!
# Values and their parts

* `Part`: a value is another one or stands somewhere inside it.
* `Stable`: all floating-point numbers of a value are read back from their texts, as integers are
  anyway.
* `Ordered`: all objects of a value are in order.
* `depth`: how deep arrays and objects stand inside one another.
-/

namespace Acceptance.Json

/-- A value is another one, or a part of it. -/
inductive Part (v : Json) : Json → Prop
  | self : Part v v
  | item {x : Json} {xs : List Json} (hx : x ∈ xs) (h : Part v x) : Part v (.arr xs)
  | member {m : String × Json} {ms : List (String × Json)} (hm : m ∈ ms) (h : Part v m.2) :
      Part v (.obj ms)

/-- All floating-point numbers of a value are read back from their texts. -/
def Stable (v : Json) : Prop := ∀ x, Part (.num (.float x)) v → (Number.float x).Stable

/-- The members of all objects of a value stand in ascending order of their names. -/
def Ordered (v : Json) : Prop := ∀ ms, Part (.obj ms) v → Ascending ms

mutual

/-- How many arrays and objects stand inside one another, at most. -/
def depth : Json → Nat
  | null | bool _ | num _ | str _ => 0
  | arr xs => depthItems xs + 1
  | obj ms => depthMembers ms + 1

/-- The depth of the deepest item. -/
def depthItems : List Json → Nat
  | [] => 0
  | x :: r => max (depth x) (depthItems r)

/-- The depth of the deepest member. -/
def depthMembers : List (String × Json) → Nat
  | [] => 0
  | (_, x) :: r => max (depth x) (depthMembers r)

end

variable {xs : List Json} {ms : List (String × Json)}

/-! ## Parts of arrays and objects -/

namespace Stable

theorem num {n : Number} (h : (Json.num n).Stable) : n.Stable := by
  cases n with
  | int i => exact stable_int i
  | float x => exact h x .self

theorem of_num {n : Number} (h : n.Stable) : (Json.num n).Stable := by
  intro x hx
  cases hx with
  | self => exact h

theorem of_str (s : String) : (Json.str s).Stable := by
  intro x hx
  cases hx

theorem of_members (h : ∀ m ∈ ms, m.2.Stable) : (obj ms).Stable := by
  intro x hx
  cases hx with
  | member hm hp => exact h _ hm x hp

theorem of_items (h : ∀ v ∈ xs, v.Stable) : (arr xs).Stable := by
  intro x hx
  cases hx with
  | item hv hp => exact h _ hv x hp

theorem item {v : Json} (h : (arr xs).Stable) (hv : v ∈ xs) : v.Stable :=
  fun x hx => h x (.item hv hx)

theorem member {m : String × Json} (h : (obj ms).Stable) (hm : m ∈ ms) : m.2.Stable :=
  fun x hx => h x (.member hm hx)

end Stable

@[simp] theorem stable_null : null.Stable := by
  intro x hx
  cases hx

@[simp] theorem stable_bool (b : Bool) : (bool b).Stable := by
  intro x hx
  cases hx

@[simp] theorem stable_num {n : Number} : (num n).Stable ↔ n.Stable :=
  ⟨Stable.num, Stable.of_num⟩

@[simp] theorem stable_str (s : String) : (str s).Stable := .of_str s

@[simp] theorem stable_arr : (arr xs).Stable ↔ ∀ x ∈ xs, x.Stable :=
  ⟨fun h _ hx => h.item hx, .of_items⟩

@[simp] theorem stable_obj : (obj ms).Stable ↔ ∀ m ∈ ms, m.2.Stable :=
  ⟨fun h _ hm => h.member hm, .of_members⟩

namespace Ordered

theorem ascending (h : (obj ms).Ordered) : Ascending ms := h ms .self

theorem item {x : Json} (h : (arr xs).Ordered) (hx : x ∈ xs) : x.Ordered :=
  fun ns hn => h ns (.item hx hn)

theorem member {m : String × Json} (h : (obj ms).Ordered) (hm : m ∈ ms) : m.2.Ordered :=
  fun ns hn => h ns (.member hm hn)

theorem of_num (n : Number) : (Json.num n).Ordered := by
  intro ns hn
  cases hn

theorem of_str (s : String) : (Json.str s).Ordered := by
  intro ns hn
  cases hn

theorem of_items (h : ∀ x ∈ xs, x.Ordered) : (arr xs).Ordered := by
  intro ns hn
  cases hn with
  | item hx hp => exact h _ hx ns hp

theorem of_members (ha : Ascending ms) (h : ∀ m ∈ ms, m.2.Ordered) : (obj ms).Ordered := by
  intro ns hn
  cases hn with
  | self => exact ha
  | member hm hp => exact h _ hm ns hp

end Ordered

@[simp] theorem ordered_null : null.Ordered := by
  intro ns hn
  cases hn

@[simp] theorem ordered_bool (b : Bool) : (bool b).Ordered := by
  intro ns hn
  cases hn

@[simp] theorem ordered_num (n : Number) : (num n).Ordered := .of_num n

@[simp] theorem ordered_str (s : String) : (str s).Ordered := .of_str s

@[simp] theorem ordered_arr : (arr xs).Ordered ↔ ∀ x ∈ xs, x.Ordered :=
  ⟨fun h _ hx => h.item hx, .of_items⟩

@[simp] theorem ordered_obj : (obj ms).Ordered ↔ Ascending ms ∧ ∀ m ∈ ms, m.2.Ordered :=
  ⟨fun h => ⟨h.ascending, fun _ hm => h.member hm⟩, fun h => .of_members h.1 h.2⟩

end Acceptance.Json
