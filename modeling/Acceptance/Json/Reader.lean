import Acceptance.Json.Outline
import Acceptance.Schema

/-!
# Reading values out of JSON texts

* `Node`: an outline, and how many arrays and objects may still be entered.
* `value`: the value an outline stands for. Names of an object may repeat; the last one counts.
* `pass`: passing over an outline whose value is not wanted.
* `format`: JSON as a format that records are read from.
* `readText`: reads a whole text; nothing but blanks may follow.
* `parse`: the value of a text.

Results:
* `pass_of_value`: what has a value can be passed over.
-/

namespace Acceptance.Json

/-- The arrays and objects that may stand inside one another. -/
def maxDepth : Nat := 127

/-- An outline at a place where `room` more arrays and objects may be entered. -/
structure Node where
  room : Nat
  outline : Outline

/-- The end of a list of items. -/
def endOfItems : Option Fault → Except Fault Unit
  | none => .ok ()
  | some f => .error f

/-- The end of the members of an object, for a reader of members. -/
def Ending.asMembers : Ending → Except Fault Unit
  | .closed => .ok ()
  | .broken f => .error f
  | .nameless _ => .error .malformed

mutual

/-- The value of an outline. -/
def value (room : Nat) : Outline → Except Fault Json
  | .null => .ok .null
  | .bool b => .ok (.bool b)
  | .number n => n.map .num
  | .string s => s.map .str
  | .array items ending =>
    match room with
    | 0 => .error .malformed
    | room + 1 => do
      let xs ← valueItems room items
      endOfItems ending
      .ok (.arr xs)
  | .object members ending =>
    match room with
    | 0 => .error .malformed
    | room + 1 => do
      let ms ← valueMembers room members
      ending.asMembers
      .ok (ofMembers ms)
  | .broken b => .error b.taken

/-- The values of the items of an array. -/
def valueItems (room : Nat) : List Outline → Except Fault (List Json)
  | [] => .ok []
  | o :: r => do
    let x ← value room o
    let xs ← valueItems room r
    .ok (x :: xs)

/-- The members of an object, in the order of the text. -/
def valueMembers (room : Nat) :
    List (Except Fault String × Outline) → Except Fault (List (String × Json))
  | [] => .ok []
  | (k, o) :: r => do
    let k ← k
    let x ← value room o
    let xs ← valueMembers room r
    .ok ((k, x) :: xs)

end

mutual

/-- Passing over an outline: only what breaks the text off is a fault. -/
def pass : Outline → Except Fault Unit
  | .array items ending => do
    passItems items
    endOfItems ending
  | .object members ending => do
    passMembers members
    ending.asMembers
  | .broken b => .error b.passed
  | _ => .ok ()

/-- Passing over the items of an array. -/
def passItems : List Outline → Except Fault Unit
  | [] => .ok ()
  | o :: r => do
    pass o
    passItems r

/-- Passing over the members of an object. -/
def passMembers : List (Except Fault String × Outline) → Except Fault Unit
  | [] => .ok ()
  | (_, o) :: r => do
    pass o
    passMembers r

end

/-! ## Passing over -/

mutual

theorem pass_of_value {room : Nat} {v : Json} : (o : Outline) → value room o = .ok v →
    pass o = .ok ()
  | .null, _ => rfl
  | .bool _, _ => rfl
  | .number _, _ => rfl
  | .string _, _ => rfl
  | .broken b, h => by simp [value] at h
  | .array items ending, h => by
    cases room with
    | zero => simp [value] at h
    | succ room =>
      simp only [value] at h
      cases hx : valueItems room items with
      | error f => simp [hx, bind, Except.bind] at h
      | ok xs =>
        cases he : endOfItems ending with
        | error f => simp [hx, he, bind, Except.bind] at h
        | ok u => simp [pass, passItems_of_valueItems items hx, he, bind, Except.bind]
  | .object members ending, h => by
    cases room with
    | zero => simp [value] at h
    | succ room =>
      simp only [value] at h
      cases hx : valueMembers room members with
      | error f => simp [hx, bind, Except.bind] at h
      | ok xs =>
        cases he : ending.asMembers with
        | error f => simp [hx, he, bind, Except.bind] at h
        | ok u => simp [pass, passMembers_of_valueMembers members hx, he, bind, Except.bind]

theorem passItems_of_valueItems {room : Nat} {xs : List Json} : (items : List Outline) →
    valueItems room items = .ok xs → passItems items = .ok ()
  | [], _ => rfl
  | o :: r, h => by
    simp only [valueItems] at h
    cases hx : value room o with
    | error f => simp [hx, bind, Except.bind] at h
    | ok x =>
      cases hr : valueItems room r with
      | error f => simp [hx, hr, bind, Except.bind] at h
      | ok ys =>
        simp [passItems, pass_of_value o hx, passItems_of_valueItems r hr, bind, Except.bind]

theorem passMembers_of_valueMembers {room : Nat} {ms : List (String × Json)} :
    (members : List (Except Fault String × Outline)) → valueMembers room members = .ok ms →
    passMembers members = .ok ()
  | [], _ => rfl
  | (k, o) :: r, h => by
    simp only [valueMembers] at h
    cases k with
    | error f => simp [bind, Except.bind] at h
    | ok k =>
      cases hx : value room o with
      | error f => simp [hx, bind, Except.bind] at h
      | ok x =>
        cases hr : valueMembers room r with
        | error f => simp [hx, hr, bind, Except.bind] at h
        | ok ys =>
          have hm := passMembers_of_valueMembers r hr
          simp [passMembers, pass_of_value o hx, hm, bind, Except.bind]

end

/-! ## Records -/

/-- The fault that a reader reports of an outline of another kind than it wants. -/
def otherKind : Outline → Fault
  | .number (.error f) => f
  | .string (.error f) => f
  | .broken b => b.taken
  | _ => .unsuitable

/-- What an item after the last field of a sequence means. -/
def surplusItem : Except Fault Unit := .error .malformed

/-- The node as a record. -/
def Node.shape (n : Node) : Schema.Shape Node Fault :=
  match n.outline, n.room with
  | .array _ _, 0 => .other .malformed
  | .object _ _, 0 => .other .malformed
  | .array items ending, room + 1 =>
    .sequence (items.map fun o => ⟨room, o⟩) (endOfItems ending) surplusItem
  | .object members ending, room + 1 =>
    .members (members.map fun m => (m.1, ⟨room, m.2⟩)) ending.asMembers
  | o, _ => .other (otherKind o)

/-- The node as a list. -/
def Node.items (n : Node) : Except Fault (List Node × Except Fault Unit) :=
  match n.outline, n.room with
  | .array _ _, 0 => .error .malformed
  | .array items ending, room + 1 => .ok (items.map fun o => ⟨room, o⟩, endOfItems ending)
  | o, _ => .error (otherKind o)

/-- The node as a text. -/
def Node.text (n : Node) : Except Fault String :=
  match n.outline with
  | .string s => s
  | o => .error (otherKind o)

/-- The node as a truth value. -/
def Node.flag (n : Node) : Except Fault Bool :=
  match n.outline with
  | .bool b => .ok b
  | o => .error (otherKind o)

/-- The node as an integer. -/
def Node.integer (n : Node) : Except Fault Int :=
  match n.outline with
  | .number (.ok (.int i)) => .ok i.val
  | o => .error (otherKind o)

/-- The node as an integer of a range. -/
def Node.integerIn (low high : Int) (n : Node) : Except Fault Int := do
  let i ← n.integer
  if low ≤ i ∧ i < high then .ok i else .error .unsuitable

/-- The node as a name: a string, or an object with that name for its one member, which is null. -/
def Node.name (n : Node) : Except Fault (String × Except Fault Unit) :=
  match n.outline, n.room with
  | .string s, _ => return (← s, .ok ())
  | .object _ _, 0 => .error .malformed
  | .object [] .closed, _ => .error .malformed
  | .object [] (.broken f), _ => .error f
  | .object [] (.nameless f), _ => .error f
  | .object ((k, o) :: r) ending, _ + 1 => do
    let k ← k
    let rest : Except Fault Unit := do
      match o with
      | .null => .ok ()
      | o => .error (otherKind o)
      match r, ending with
      | [], .closed => .ok ()
      | [], .broken f => .error f
      | _, _ => .error .malformed
    .ok (k, rest)
  | .broken b, _ => .error b.named
  | _, _ => .error .malformed

/-- JSON as a format. -/
def format : Schema.Format Node Fault where
  unsuitable := .unsuitable
  shape := Node.shape
  items := Node.items
  optional n := match n.outline with
    | .null => .ok none
    | _ => .ok (some n)
  text := Node.text
  flag := Node.flag
  natural n := return (← n.integerIn 0 18446744073709551616).toNat
  name := Node.name
  pass n := Json.pass n.outline

/-- The value of a node. -/
def Node.value (n : Node) : Except Fault Json := Json.value n.room n.outline

/-- Reads a whole text. -/
def readText {α : Type} (read : Node → Except Fault α) (s : List Char) : Except Fault α := do
  let (o, more) := outline s
  let x ← read ⟨maxDepth, o⟩
  if more then .error .malformed else .ok x

/-- The value of a text. -/
def parse (s : String) : Except Fault Json := readText Node.value s.toList

end Acceptance.Json
