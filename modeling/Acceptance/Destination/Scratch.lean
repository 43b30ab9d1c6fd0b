import Acceptance.Host.Machine

/-!
# Scratch directories (specification, section 4.1)

A destination that keeps its state in files gets a directory of its own below the root of a case.
What was provided is written down, so that it can be taken back.

* `slug`, `scratchName`: the name of the directory, after the image.
* `Ledger`: which directory was provided for which root. Roots are told apart by their parts, and not
  by their spelling.
* `setUp`, `tearDown`: provides a directory, and takes it back.

Results:
* `directory?_enter`: a directory that was entered is found for every spelling of its root.
* `directory?_strike`: after striking a root nothing is found for it.
-/

namespace Acceptance.Destination

open Host (Machine)

/-- A name in which everything but ASCII letters and digits is a hyphen. -/
def slug (image : String) : String :=
  String.ofList (image.toList.map fun c => if c.isAlphanum then c else '-')

/-- The name of the directory of an image. -/
def scratchName (image : Option String) : String := "destination-" ++ slug (image.getD "unnamed")

/-- What roots are told apart by. -/
abbrev RootKey := Bool × List String

/-- The directories that were provided. -/
structure Ledger where
  entries : List (RootKey × String)
deriving DecidableEq, Repr

namespace Ledger

/-- Nothing was provided. -/
def empty : Ledger := ⟨[]⟩

/-- The directory that was provided for a root. -/
def directory? (root : String) (l : Ledger) : Option String := l.entries.lookup (Path.parts root)

/-- The ledger without a root. -/
def strike (root : String) (l : Ledger) : Ledger :=
  ⟨l.entries.filter fun x => x.1 != Path.parts root⟩

/-- The ledger with a directory for a root. -/
def enter (root directory : String) (l : Ledger) : Ledger :=
  ⟨(Path.parts root, directory) :: (l.strike root).entries⟩

theorem directory?_enter {root root' directory : String} {l : Ledger}
    (h : Path.parts root' = Path.parts root) :
    (l.enter root directory).directory? root' = some directory := by
  simp [directory?, enter, h]

theorem lookup_filter_ne {α : Type} (k : RootKey) (xs : List (RootKey × α)) :
    (xs.filter fun x => x.1 != k).lookup k = none := by
  induction xs with
  | nil => rfl
  | cons x xs ih =>
    obtain ⟨j, v⟩ := x
    by_cases h : j = k
    · simp [h, ih]
    · have hk : (k == j) = false := by simpa using Ne.symm h
      rw [List.filter_cons, if_pos (by simpa using h), List.lookup_cons, hk]
      exact ih

theorem directory?_strike {root root' : String} {l : Ledger}
    (h : Path.parts root' = Path.parts root) : (l.strike root).directory? root' = none := by
  rw [directory?, strike, h, lookup_filter_ne]

end Ledger

/-- Provides a directory of a name below a root (section 4.1). A different one that was provided for
the same root is taken back. -/
def setUp (name root : String) : Act (Ledger × Machine) Unit := do
  let directory := Path.join root name
  (Machine.makeDirectories directory).onSecond
  let before ← Act.step fun (l, m) => (l.directory? root, l.enter root directory, m)
  match before with
  | some d =>
    if Path.parts d = Path.parts directory then pure ()
    else (Machine.removeIfPresent d).onSecond
  | none => pure ()

/-- Takes back what was provided for a root (section 4.1). It is struck from the ledger first. -/
def tearDown (root : String) : Act (Ledger × Machine) Unit := do
  let directory ← Act.step fun (l, m) => (l.directory? root, l.strike root, m)
  match directory with
  | some d => (Machine.removeIfPresent d).onSecond
  | none => pure ()

end Acceptance.Destination
