/-!
# TOML values and the tables of a document

* `Value`: the values. Floats and moments keep the characters they are written with.
* `Value.same`: whether two of them are one.
* `Item`: a value, a table or an array of tables, while a document is being put together. A table
  remembers how it came about, since that decides what may still be added to it.
* `Entries.descend`: reaches a table along a path of names and changes it there.

Results:
* `same_iff`: values are compared as a whole.
* `descend_nil`: the empty path leads to the table itself.
-/

namespace Acceptance.Toml

/-- A value. The entries of a table stand in the order of the text. -/
inductive Value where
  | string (s : String)
  | integer (i : Int)
  | float (digits : List Char)
  | bool (b : Bool)
  | moment (digits : List Char)
  | array (items : List Value)
  | table (entries : List (String × Value))
deriving Repr, Inhabited

namespace Value

mutual

/-- Whether two values are one. -/
def same : Value → Value → Bool
  | string s, string t => s == t
  | integer i, integer j => i == j
  | float c, float d => c == d
  | bool a, bool b => a == b
  | moment c, moment d => c == d
  | array xs, array ys => sameItems xs ys
  | table es, table fs => sameEntries es fs
  | _, _ => false

/-- Whether the items of two arrays are one. -/
def sameItems : List Value → List Value → Bool
  | [], [] => true
  | x :: xs, y :: ys => x.same y && sameItems xs ys
  | _, _ => false

/-- Whether the entries of two tables are one. -/
def sameEntries : List (String × Value) → List (String × Value) → Bool
  | [], [] => true
  | (k, x) :: es, (l, y) :: fs => k == l && x.same y && sameEntries es fs
  | _, _ => false

end

mutual

theorem same_iff : ∀ v w : Value, v.same w = true ↔ v = w
  | string _, w | integer _, w | float _, w | bool _, w | moment _, w => by cases w <;> simp [same]
  | array xs, w => by cases w <;> simp [same, sameItems_iff xs]
  | table es, w => by cases w <;> simp [same, sameEntries_iff es]

theorem sameItems_iff : ∀ xs ys : List Value, sameItems xs ys = true ↔ xs = ys
  | [], ys => by cases ys <;> simp [sameItems]
  | x :: xs, ys => by cases ys <;> simp [sameItems, same_iff x, sameItems_iff xs]

theorem sameEntries_iff : ∀ es fs : List (String × Value), sameEntries es fs = true ↔ es = fs
  | [], fs => by cases fs <;> simp [sameEntries]
  | (k, x) :: es, fs => by
    cases fs <;> simp [sameEntries, same_iff x, sameEntries_iff es, Prod.ext_iff]

end

instance : DecidableEq Value := fun v w => decidable_of_iff _ (same_iff v w)

end Value

/-- How a table came about: it was written out, or it lies on the path of a header, or on the path of
a dotted name. -/
inductive Origin where
  | written
  | implied
  | dotted
deriving DecidableEq, Repr

/-- A part of a document under way. The rows of an array of tables stand newest first. -/
inductive Item where
  | value (v : Value)
  | table (origin : Origin) (entries : List (String × Item))
  | tables (rows : List (List (String × Item)))
deriving Inhabited

/-- Named parts. -/
abbrev Entries := List (String × Item)

namespace Entries

/-- The entries with the part of one name replaced. -/
def replace (name : String) (x : Item) (es : Entries) : Entries :=
  es.map fun e => if e.1 = name then (name, x) else e

/-- The entries without the part of one name. -/
def remove (name : String) (es : Entries) : Entries := es.filter fun e => e.1 != name

/-- Changes the table at the end of a path. Tables that are missing on the way come about as the path
says: by a dotted name or by a header. A dotted name does not reach into a table that was written
out; a path through an array of tables reaches into its newest row. -/
def descend {α : Type} (dotted : Bool) (change : Origin → Entries → Option (α × Origin × Entries)) :
    List String → Origin → Entries → Option (α × Origin × Entries)
  | [], o, es => change o es
  | p :: ps, o, es =>
    match es.lookup p with
    | none => do
      let (a, o', sub) ← descend dotted change ps (if dotted then .dotted else .implied) []
      some (a, o, es ++ [(p, .table o' sub)])
    | some (.value _) => none
    | some (.tables []) => none
    | some (.tables (row :: rows)) => do
      let (a, _, row) ← descend dotted change ps .written row
      some (a, o, es.replace p (.tables (row :: rows)))
    | some (.table o' sub) =>
      if dotted && o' = .written then none
      else do
        let (a, o', sub) ← descend dotted change ps o' sub
        some (a, o, es.replace p (.table o' sub))

/-- The entries with one more value at a path of names, of which the last is new there. A path of
several names ends in a table that dotted names made, one of a single name does not. -/
def insert (names : List String) (v : Value) (o : Origin) (es : Entries) : Option Entries :=
  match names.reverse with
  | [] => none
  | name :: above => do
    let add (o : Origin) (es : Entries) : Option (Unit × Origin × Entries) :=
      if (o == .dotted) == above.isEmpty || (es.lookup name).isSome then none
      else some ((), o, es ++ [(name, .value v)])
    let (_, _, es) ← es.descend true add above.reverse o
    some es

end Entries

mutual

/-- The value that a part is in the end. -/
def Item.toValue : Item → Value
  | .value v => v
  | .table _ es => .table (entriesValue es)
  | .tables rows => .array (rowsValue rows).reverse

/-- The values of named parts. -/
def entriesValue : List (String × Item) → List (String × Value)
  | [] => []
  | (k, x) :: r => (k, x.toValue) :: entriesValue r

/-- The tables of an array, in the order of the rows. -/
def rowsValue : List (List (String × Item)) → List Value
  | [] => []
  | es :: r => .table (entriesValue es) :: rowsValue r

end

/-- A document under way: the tables finished, and the one that key lines go to at present, with the
path of its header. The table before all headers has the empty path. -/
structure Draft where
  root : Entries
  path : List String
  isRow : Bool
  current : Entries

namespace Draft

/-- Before the first line. -/
def empty : Draft := ⟨[], [], false, []⟩

/-- A key line. -/
def insert (names : List String) (v : Value) (d : Draft) : Option Draft := do
  some { d with current := ← d.current.insert names v .written }

/-- Puts the present table where its header says. -/
def finish (d : Draft) : Option Entries :=
  match d.path.reverse with
  | [] => some d.current
  | name :: above => do
    let place (o : Origin) (es : Entries) : Option (Unit × Origin × Entries) :=
      match es.lookup name, d.isRow with
      | none, false => some ((), o, es ++ [(name, .table .written d.current)])
      | none, true => some ((), o, es ++ [(name, .tables [d.current])])
      | some (.tables rows), true => some ((), o, es.replace name (.tables (d.current :: rows)))
      | some (.table .written _), false | some (.value _), _ | some (.tables _), false
      | some (.table _ _), true => none
      | some (.table _ _), false => some ((), o, es.replace name (.table .written d.current))
    let (_, _, root) ← d.root.descend false place above.reverse .written
    some root

/-- A header: the table before it is finished, and the new one takes over what lies below it
already. A row of an array starts empty. -/
def header (isRow : Bool) (path : List String) (d : Draft) : Option Draft := do
  let root ← d.finish
  match path.reverse with
  | [] => none
  | name :: above =>
    let take (o : Origin) (es : Entries) : Option (Entries × Origin × Entries) :=
      match es.lookup name, isRow with
      | none, false => some ([], o, es)
      | some (.table .implied sub), false => some (sub, o, es.remove name)
      | none, true => some ([], o, es ++ [(name, .tables [])])
      | some (.tables _), true => some ([], o, es)
      | _, _ => none
    let (current, _, root) ← root.descend false take above.reverse .written
    some ⟨root, path, isRow, current⟩

/-- The table of the whole document. -/
def toValue (d : Draft) : Option Value := do some (.table (entriesValue (← d.finish)))

end Draft

theorem Entries.descend_nil {α : Type} (dotted : Bool)
    (change : Origin → Entries → Option (α × Origin × Entries)) (o : Origin) (es : Entries) :
    es.descend dotted change [] o = change o es := by
  rw [descend]

end Acceptance.Toml
