/-!
# Reading records out of documents

Records are read in the same way from every document format: a format says what a node of its
documents offers, and a record says which fields it has. Reading goes from left to right and stops at
the first failure.

* `Format`: what a format tells about its nodes `ν`, with its own failures `ε`.
* `Field`: a field of a record: its names, whether it has to be there, and how it is read into a
  draft of the record.
* `Format.record`: reads a record. Members of other names are passed over; a field that is given
  twice, by whatever name, is a failure. A record may also be written as the sequence of its fields.
* `Format.list`, `Format.choice`: lists, and names out of a table.
-/

namespace Acceptance.Schema

/-- What a node offers a reader of records: named members, a sequence in which the fields stand in
their order, or neither. An `ending` is what follows the last part, `surplus` what a sequence with
more items than fields means. -/
inductive Shape (ν ε : Type) where
  | members (ms : List (Except ε String × ν)) (ending : Except ε Unit)
  | sequence (items : List ν) (ending surplus : Except ε Unit)
  | other (failure : ε)

/-- A document format with nodes `ν` and failures `ε`. -/
structure Format (ν ε : Type) where
  /-- The failure of a node that is in order, but is not what was asked for. -/
  unsuitable : ε
  /-- The node as a record. -/
  shape : ν → Shape ν ε
  /-- The node as a list: its items, and what follows them. -/
  items : ν → Except ε (List ν × Except ε Unit)
  /-- The node where nothing may stand: absent, or a node to read. -/
  optional : ν → Except ε (Option ν)
  /-- The node as a text. -/
  text : ν → Except ε String
  /-- The node as a truth value. -/
  flag : ν → Except ε Bool
  /-- The node as an unsigned 64-bit number. -/
  natural : ν → Except ε Nat
  /-- The node as a name, and what else has to hold of it. -/
  name : ν → Except ε (String × Except ε Unit)
  /-- Passing over the node. -/
  pass : ν → Except ε Unit

/-- A field of a record whose draft is a `σ`. -/
structure Field (ν ε σ : Type) where
  names : List String
  required : Bool
  read : ν → σ → Except ε σ

variable {ν ε σ α : Type}

/-- The place of the field with a name. -/
def place? (fields : List (Field ν ε σ)) (name : String) : Option Nat :=
  fields.findIdx? fun f => f.names.contains name

/-- Reads members into a draft; `seen` holds the places of the fields read so far. -/
def readMembers (F : Format ν ε) (fields : List (Field ν ε σ)) :
    List (Except ε String × ν) → List Nat → σ → Except ε (List Nat × σ)
  | [], seen, draft => .ok (seen, draft)
  | (name, n) :: r, seen, draft => do
    let name ← name
    match place? fields name with
    | none =>
      F.pass n
      readMembers F fields r seen draft
    | some i =>
      if seen.contains i then .error F.unsuitable
      else
        match fields[i]? with
        | none => .error F.unsuitable
        | some f =>
          let draft ← f.read n draft
          readMembers F fields r (i :: seen) draft

/-- Reads the fields of a record from the items of a sequence. -/
def readItems (F : Format ν ε) (ending surplus : Except ε Unit) :
    List (Field ν ε σ) → List ν → σ → Except ε σ
  | [], [], draft => do
    ending
    .ok draft
  | [], _ :: _, draft => do
    surplus
    .ok draft
  | f :: fs, [], draft => do
    ending
    if (f :: fs).any (·.required) then .error F.unsuitable else .ok draft
  | f :: fs, n :: r, draft => do
    let draft ← f.read n draft
    readItems F ending surplus fs r draft

/-- Whether every required field is among the places seen. -/
def complete (fields : List (Field ν ε σ)) (seen : List Nat) : Bool :=
  fields.zipIdx.all fun (f, i) => !f.required || seen.contains i

/-- Reads a record into a draft. -/
def Format.record (F : Format ν ε) (fields : List (Field ν ε σ)) (draft : σ) (n : ν) :
    Except ε σ :=
  match F.shape n with
  | .members ms ending => do
    let (seen, draft) ← readMembers F fields ms [] draft
    ending
    if complete fields seen then .ok draft else .error F.unsuitable
  | .sequence items ending surplus => readItems F ending surplus fields items draft
  | .other failure => .error failure

/-- Reads a list, item by item. -/
def Format.list (F : Format ν ε) (read : ν → Except ε α) (n : ν) : Except ε (List α) := do
  let (items, ending) ← F.items n
  let xs ← items.mapM read
  ending
  .ok xs

/-- Reads what may be absent. -/
def Format.maybe (F : Format ν ε) (read : ν → Except ε α) (n : ν) : Except ε (Option α) := do
  match ← F.optional n with
  | none => .ok none
  | some m => return some (← read m)

/-- Reads a name out of a table. -/
def Format.choice (F : Format ν ε) (table : List (String × α)) (n : ν) : Except ε α := do
  let (name, rest) ← F.name n
  match table.lookup name with
  | none => .error F.unsuitable
  | some x =>
    rest
    .ok x

/-- A field that is read by a reader of its own and put into the draft. -/
def Field.of (names : List String) (required : Bool) (read : ν → Except ε α) (put : α → σ → σ) :
    Field ν ε σ :=
  ⟨names, required, fun n draft => return put (← read n) draft⟩

end Acceptance.Schema
