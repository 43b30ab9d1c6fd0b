import Acceptance.Error
import Acceptance.Path
import Acceptance.Text.Utf8

/-!
# Trees of files

* `Entry`: a directory, or a file with its octets.
* `FileTree`: the entries by the names that lead to them from the root. The root is always there.
* `locate`: what a path leads to, seen from a directory.
* `read`, `readText`, `isFile`, `isDirectory`, `exists`: looking.
* `write`, `makeDirectory`, `makeDirectories`, `removeAll`: changing.

Results:
* `get?_put`, `get?_dropBelow`: what a change does to the entries.
-/

namespace Acceptance.Host

/-- The names that lead from the root to an entry. -/
abbrev Key := List String

/-- A directory, or a file. -/
inductive Entry where
  | directory
  | file (octets : List UInt8)
deriving DecidableEq

/-- Entries below the root. -/
structure FileTree where
  entries : List (Key × Entry)
deriving DecidableEq

/-- What a path leads to: an entry, or a free name in a directory that is there. -/
inductive Spot where
  | root
  | taken (key : Key) (entry : Entry)
  | free (key : Key)

namespace FileTree

/-- The entry of a key. -/
def get? (k : Key) (t : FileTree) : Option Entry :=
  if k.isEmpty then some .directory else t.entries.lookup k

/-- The tree with an entry put under a key. -/
def put (k : Key) (e : Entry) (t : FileTree) : FileTree :=
  if (t.entries.lookup k).isSome then
    ⟨t.entries.map fun x => if x.1 = k then (k, e) else x⟩
  else ⟨t.entries ++ [(k, e)]⟩

/-- The tree without an entry and what lies below it. -/
def dropBelow (k : Key) (t : FileTree) : FileTree :=
  ⟨t.entries.filter fun x => !(k.isPrefixOf x.1)⟩

/-- The entries that lie below a key, by the names from there on. -/
def below (k : Key) (t : FileTree) : List (Key × Entry) :=
  t.entries.filterMap fun (x, e) =>
    if k.isPrefixOf x && k.length < x.length then some (x.drop k.length, e) else none

/-- The tree with an entry and the directories above it. A directory leaves what is there. -/
def plant (k : Key) (e : Entry) (t : FileTree) : FileTree :=
  let t := (List.range k.length).foldl (fun t n =>
    if (t.get? (k.take n)).isSome then t else t.put (k.take n) .directory) t
  match e with
  | .directory => if (t.get? k).isSome then t else t.put k e
  | .file _ => t.put k e

/-! ## Paths -/

/-- Follows the pieces of a path from a directory on. Empty pieces and points stay where they are and
two points go up. A name may be free only at the very end. -/
def follow (t : FileTree) : Key → List (List Char) → Except Int Spot
  | here, [] => .ok (match here with | [] => .root | k => .taken k .directory)
  | here, p :: ps =>
    if p.isEmpty || p == ['.'] then follow t here ps
    else if p == ['.', '.'] then follow t here.dropLast ps
    else if 255 < Text.Utf8.octetCount p then .error Errno.nameTooLong
    else
      let k := here ++ [String.ofList p]
      match t.get? k with
      | some .directory => follow t k ps
      | some (.file octets) =>
        if ps.isEmpty then .ok (.taken k (.file octets)) else .error Errno.notDirectory
      | none => if ps.all List.isEmpty then .ok (.free k) else .error Errno.absent

/-- What a path leads to, seen from the directory `here`. -/
def locate (t : FileTree) (here : Key) (path : String) : Except IoCause Spot :=
  let cs := path.toList
  if cs.contains '\x00' then .error .nulInPath
  else if cs.isEmpty then .error (.number Errno.absent)
  else if 4096 ≤ Text.Utf8.octetCount cs then .error (.number Errno.nameTooLong)
  else (t.follow (if Path.isAbsolute path then [] else here) (Path.pieces cs)).mapError .number

/-- The entry that a path leads to. -/
def entryAt? (t : FileTree) (here : Key) (path : String) : Option Entry :=
  match t.locate here path with
  | .ok .root => some .directory
  | .ok (.taken _ e) => some e
  | _ => none

/-! ## Looking -/

/-- Whether a path leads anywhere. -/
def «exists» (t : FileTree) (here : Key) (path : String) : Bool := (t.entryAt? here path).isSome

/-- Whether a path leads to a file. -/
def isFile (t : FileTree) (here : Key) (path : String) : Bool :=
  match t.entryAt? here path with
  | some (.file _) => true
  | _ => false

/-- Whether a path leads to a directory. -/
def isDirectory (t : FileTree) (here : Key) (path : String) : Bool :=
  t.entryAt? here path == some .directory

/-- The octets of a file. -/
def read (t : FileTree) (here : Key) (path : String) : Except IoCause (List UInt8) := do
  match ← t.locate here path with
  | .root | .taken _ .directory => .error (.number Errno.isDirectory)
  | .taken _ (.file octets) => .ok octets
  | .free _ => .error (.number Errno.absent)

/-- The text of a file. -/
def readText (t : FileTree) (here : Key) (path : String) : Except IoCause String := do
  match Text.Utf8.decode? (← t.read here path) with
  | some s => .ok s
  | none => .error .notText

/-! ## Changing -/

/-- The tree with a file written. -/
def write (t : FileTree) (here : Key) (path : String) (octets : List UInt8) :
    Except IoCause FileTree := do
  match ← t.locate here path with
  | .root | .taken _ .directory => .error (.number Errno.isDirectory)
  | .taken k (.file _) | .free k => .ok (t.put k (.file octets))

/-- The tree with a new directory. -/
def makeDirectory (t : FileTree) (here : Key) (path : String) : Except IoCause FileTree := do
  match ← t.locate here path with
  | .root | .taken _ _ => .error (.number Errno.present)
  | .free k => .ok (t.put k .directory)

/-- The tree with a directory and all that are missing above it, of which there are fewer than the
fuel. A directory that is there already is no failure; what was made before one stays. -/
def makeDirectoriesFrom (here : Key) : Nat → FileTree → String → Except IoCause Unit × FileTree
  | 0, t, _ => (.ok (), t)
  | fuel + 1, t, path =>
    let settle (t : FileTree) (c : IoCause) : Except IoCause Unit × FileTree :=
      if t.isDirectory here path then (.ok (), t) else (.error c, t)
    if path.isEmpty then (.ok (), t)
    else
      match t.makeDirectory here path with
      | .ok t => (.ok (), t)
      | .error (.number n) =>
        if n = Errno.absent then
          match Path.parent? path with
          | none => (.error (.stated "failed to create whole tree"), t)
          | some above =>
            match makeDirectoriesFrom here fuel t above with
            | (.error c, t) => (.error c, t)
            | (.ok (), t) =>
              match t.makeDirectory here path with
              | .ok t => (.ok (), t)
              | .error c => settle t c
        else settle t (.number n)
      | .error c => settle t c

/-- The tree with a directory and all that are missing above it. -/
def makeDirectories (t : FileTree) (here : Key) (path : String) : Except IoCause Unit × FileTree :=
  makeDirectoriesFrom here (path.length + 2) t path

/-- The tree without a directory and what lies below it. A file is not removed in this way. -/
def removeAll (t : FileTree) (here : Key) (path : String) : Except IoCause FileTree := do
  match ← t.locate here path with
  | .root => .error (.number 16)
  | .taken k .directory => .ok (t.dropBelow k)
  | .taken _ (.file _) => .error (.number Errno.notDirectory)
  | .free _ => .error (.number Errno.absent)

/-! ## Laws -/

theorem lookup_map_replace (k : Key) (e : Entry) (es : List (Key × Entry))
    (h : (es.lookup k).isSome) (j : Key) :
    (es.map fun x => if x.1 = k then (k, e) else x).lookup j =
      if j = k then some e else es.lookup j := by
  induction es with
  | nil => simp at h
  | cons x r ih =>
    obtain ⟨a, b⟩ := x
    by_cases hak : a = k
    · subst hak
      by_cases hj : j = a
      · simp [hj]
      · have hj' : (j == a) = false := by simpa using hj
        simp only [List.map_cons, if_true, List.lookup_cons, hj', hj, if_false]
        by_cases hr : (r.lookup a).isSome
        · simpa [hj] using ih hr
        · have hne : ∀ x ∈ r, x.1 ≠ a := by
            intro x hx hxa
            apply hr
            rw [List.lookup_isSome_iff]
            exact ⟨x, hx, by simp [hxa]⟩
          congr 1
          conv => rhs; rw [← List.map_id r]
          apply List.map_congr_left
          intro x hx
          simp [hne x hx]
    · have hak' : (k == a) = false := by simpa using fun h => hak h.symm
      have hr : (r.lookup k).isSome := by simpa [List.lookup_cons, hak'] using h
      simp only [List.map_cons, hak, if_false, List.lookup_cons]
      by_cases hj : j = a
      · subst hj
        simp [hak]
      · have hj' : (j == a) = false := by simpa using hj
        simpa [hj'] using ih hr

theorem get?_put {k j : Key} {e : Entry} {t : FileTree} (hk : k ≠ []) :
    (t.put k e).get? j = if j = k then some e else t.get? j := by
  unfold get? put
  by_cases hj : j = []
  · subst hj
    simp [Ne.symm hk]
  · have hj' : j.isEmpty = false := by simpa using hj
    simp only [hj', Bool.false_eq_true, if_false]
    split
    · rename_i h
      simpa using lookup_map_replace k e t.entries h j
    · rename_i h
      simp only [Option.isSome_iff_ne_none, ne_eq, Classical.not_not] at h
      rw [List.lookup_append]
      by_cases hjk : j = k
      · subst hjk
        simp [h]
      · have : (j == k) = false := by simpa using hjk
        simp only [hjk, if_false, List.lookup_cons, this, List.lookup_nil, Option.or_none]

theorem get?_dropBelow {k j : Key} {t : FileTree} (hj : j ≠ []) :
    (t.dropBelow k).get? j = if k.isPrefixOf j then none else t.get? j := by
  unfold get? dropBelow
  have hj' : j.isEmpty = false := by simpa using hj
  simp only [hj']
  obtain ⟨es⟩ := t
  simp only [Bool.false_eq_true, if_false]
  induction es with
  | nil => simp
  | cons x r ih =>
    obtain ⟨a, b⟩ := x
    by_cases hja : j = a
    · subst hja
      by_cases hp : k.isPrefixOf j
      · simp only [List.filter_cons, hp, Bool.not_true, Bool.false_eq_true, if_false, if_true]
        simpa [hp] using ih
      · simp [hp]
    · have hja' : (j == a) = false := by simpa using hja
      by_cases hp : k.isPrefixOf a
      · simp only [List.filter_cons, hp, Bool.not_true, Bool.false_eq_true, if_false,
          List.lookup_cons, hja']
        exact ih
      · simp only [List.filter_cons, hp, Bool.not_false, if_true, List.lookup_cons, hja']
        exact ih

end FileTree
end Acceptance.Host
