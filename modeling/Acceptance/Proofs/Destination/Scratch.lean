import Acceptance.Destination.Scratch
import Acceptance.Proofs.Host.Files
import Mathlib.Control.Monad.Basic

/-!
# The books of scratch directories

Set-ups and tear-downs of any roots come in any order, succeed or fail, and the files change in
between. The ledger says at any time which roots are provided for.

* `Happening`, `Course`: a set-up, a tear-down, or a change of the files by somebody else; and what
  may have happened on a machine so far, with what came of it.
* `Provided`: a set-up of a root succeeded, and no tear-down of it came after.
* `provide`: a set-up that takes nothing back.
* `Bookkept`: what the ledger and the files have to do with what happened.

Results:
* `scratchName_plain`: the name of a scratch directory is a part of its own.
* `run_setUp_eq`, `run_setUp`: a set-up takes nothing back, and enters what could be made.
* `Course.directory?_isSome_iff`: the ledger has a directory for exactly the roots that are provided for.
* `setUp_leaves`, `tearDown_leaves`: what they leave alone.
* `restored`: a set-up and a tear-down leave the files as they were.
* `course_bookkept`: all of it, whatever happened.
-/

namespace Acceptance.Destination

open Host (Machine FileTree Key keyOf)

/-! ## The ledger -/

namespace Ledger

variable {root root' directory : String} {l : Ledger}

theorem directory?_strike_of_ne (h : Path.parts root' ≠ Path.parts root) :
    (l.strike root).directory? root' = l.directory? root' := by
  obtain ⟨entries⟩ := l
  simp only [directory?, strike]
  induction entries with
  | nil => rfl
  | cons x entries ih =>
    obtain ⟨k, d⟩ := x
    by_cases hk : k = Path.parts root
    · have hroot' : (Path.parts root' == k) = false := by simpa [hk] using h
      rw [List.filter_cons, if_neg (by simpa using hk), ih, List.lookup_cons, hroot']
    · rw [List.filter_cons, if_pos (by simpa using hk), List.lookup_cons, List.lookup_cons, ih]

theorem directory?_enter_of_ne (h : Path.parts root' ≠ Path.parts root) :
    (l.enter root directory).directory? root' = l.directory? root' := by
  have hk : (Path.parts root' == Path.parts root) = false := by simpa using h
  rw [directory?, enter, List.lookup_cons, hk]
  exact directory?_strike_of_ne h

/-- Every directory in the ledger is the one of a name below the root that it is entered for. -/
def Names (name : String) (l : Ledger) : Prop :=
  ∀ root d, l.directory? root = some d → ∃ r, Path.parts r = Path.parts root ∧ d = Path.join r name

variable {name : String}

theorem Names.enter (h : l.Names name) : (l.enter root (Path.join root name)).Names name := by
  intro root' d hd
  by_cases hroot : Path.parts root' = Path.parts root
  · rw [directory?_enter hroot] at hd
    exact ⟨root, hroot.symm, (Option.some.inj hd).symm⟩
  · rw [directory?_enter_of_ne hroot] at hd
    exact h root' d hd

theorem Names.strike (h : l.Names name) : (l.strike root).Names name := by
  intro root' d hd
  by_cases hroot : Path.parts root' = Path.parts root
  · rw [directory?_strike hroot] at hd
    cases hd
  · rw [directory?_strike_of_ne hroot] at hd
    exact h root' d hd

end Ledger

/-! ## The name of a scratch directory -/

theorem slash_not_mem_slug (image : String) : '/' ∉ (slug image).toList := by
  rw [slug, String.toList_ofList, List.mem_map]
  rintro ⟨c, -, hc⟩
  split at hc
  · next h =>
    subst hc
    cases h
  · cases hc

/-- The name of a scratch directory is a part of its own, whatever the image is called. -/
theorem scratchName_plain (image : Option String) : Path.Plain (scratchName image) := by
  have hlist : (scratchName image).toList =
      "destination-".toList ++ (slug (image.getD "unnamed")).toList := String.toList_append
  have hhead : (scratchName image).toList.head? = some 'd' := by
    rw [hlist]
    rfl
  have hne {s : List Char} (hs : s.head? ≠ some 'd') : (scratchName image).toList ≠ s :=
    fun h => hs (h ▸ hhead)
  refine ⟨hne (by decide), ?_, hne (by decide), hne (by decide)⟩
  rw [hlist, List.mem_append]
  rintro (h | h)
  · exact absurd h (by decide)
  · exact slash_not_mem_slug _ h

/-! ## What happens -/

/-- A set-up or a tear-down of a root, or a change of the files by somebody else. -/
inductive Happening where
  | setUp (root : String)
  | tearDown (root : String)
  | outside (files : FileTree)

/-- What happens, for scratch directories of a name. -/
def Happening.act (name : String) : Happening → Act (Ledger × Machine) Unit
  | .setUp root => Destination.setUp name root
  | .tearDown root => Destination.tearDown root
  | .outside files => Act.step fun (l, m) => ((), l, { m with files })

/-- What happened, with what came of it. -/
abbrev Log := List (Happening × Except Error Unit)

/-- What may have happened on a machine on which nothing was provided at first, and where that leads. -/
inductive Course (name : String) (m : Machine) : Log → Ledger × Machine → Prop
  | start : Course name m [] (Ledger.empty, m)
  | next {log : Log} {s s' : Ledger × Machine} {r : Except Error Unit} (x : Happening) :
      Course name m log s → (x.act name).run s = (r, s') → Course name m (log ++ [(x, r)]) s'

/-- A set-up of a root succeeded, and no tear-down of it came after. Roots are told apart by their
parts. -/
def Provided (root : String) (log : Log) : Prop :=
  ∃ before r after, log = before ++ (.setUp r, .ok ()) :: after ∧ Path.parts r = Path.parts root ∧
    ∀ x ∈ after, ∀ r', x.1 = .tearDown r' → Path.parts r' ≠ Path.parts root

theorem provided_snoc {root : String} {log : Log} {x : Happening × Except Error Unit} :
    Provided root (log ++ [x]) ↔
      (∃ r, x = (.setUp r, .ok ()) ∧ Path.parts r = Path.parts root) ∨
        Provided root log ∧ ∀ r', x.1 = .tearDown r' → Path.parts r' ≠ Path.parts root := by
  constructor
  · rintro ⟨before, r, after, hlog, hr, hafter⟩
    rcases List.eq_nil_or_concat after with rfl | ⟨after, y, rfl⟩
    · obtain ⟨-, hx⟩ := List.append_inj' hlog rfl
      exact Or.inl ⟨r, List.singleton_inj.mp hx, hr⟩
    · rw [List.concat_eq_append, ← List.cons_append, ← List.append_assoc] at hlog
      obtain ⟨rfl, hx⟩ := List.append_inj' hlog rfl
      obtain rfl := List.singleton_inj.mp hx
      rw [List.concat_eq_append] at hafter
      exact Or.inr ⟨⟨before, r, after, rfl, hr, fun y hy => hafter y (List.mem_append_left _ hy)⟩,
        hafter x (List.mem_append_right _ (List.mem_singleton_self x))⟩
  · rintro (⟨r, rfl, hr⟩ | ⟨⟨before, r, after, rfl, hr, hafter⟩, hx⟩)
    · exact ⟨log, r, [], rfl, hr, nofun⟩
    · refine ⟨before, r, after ++ [x], by simp, hr, fun y hy => ?_⟩
      rcases List.mem_append.mp hy with hy | hy
      · exact hafter y hy
      · rw [List.mem_singleton.mp hy]
        exact hx

/-! ## One step -/

section Steps

variable {name root : String} {l l' : Ledger} {n n' : Machine} {r : Except Error Unit}

/-- A set-up that takes nothing back. -/
def provide (name root : String) : Act (Ledger × Machine) Unit := do
  let directory := Path.join root name
  (Machine.makeDirectories directory).onSecond
  Act.step fun (l, m) => ((), l.enter root directory, m)

/-- What is provided for a root already is the directory that is about to be provided. -/
theorem run_setUp_eq (h : Path.Plain name) (hl : l.Names name) (root : String) (n : Machine) :
    (setUp name root).run (l, n) = (provide name root).run (l, n) := by
  rw [setUp, provide, Act.run_bind, Act.run_bind, Act.run_onSecond]
  rcases (Machine.makeDirectories (Path.join root name)).run n with ⟨e | u, n'⟩
  · rfl
  · simp only [Act.run_bind, Act.run_step]
    cases hd : l.directory? root with
    | none => rfl
    | some d =>
      -- It was entered for a root of the same parts, so that its own parts are the same as well.
      obtain ⟨r, hr, rfl⟩ := hl root d hd
      simp only [if_pos (Path.parts_join_congr h hr)]
      rfl

theorem run_provide (h : (provide name root).run (l, n) = (r, l', n')) :
    (Machine.makeDirectories (Path.join root name)).run n = (r, n') ∧
      (r = .ok () ∧ l' = l.enter root (Path.join root name) ∨ r ≠ .ok () ∧ l' = l) := by
  rw [provide, Act.run_bind, Act.run_onSecond] at h
  rcases hmake : (Machine.makeDirectories (Path.join root name)).run n with ⟨e | u, n''⟩
  · rw [hmake] at h
    cases h
    exact ⟨rfl, Or.inr ⟨nofun, rfl⟩⟩
  · rw [hmake] at h
    cases h
    exact ⟨rfl, Or.inl ⟨rfl, rfl⟩⟩

/-- A set-up enters the directory exactly if it could be made, and does nothing else. -/
theorem run_setUp (h : Path.Plain name) (hl : l.Names name)
    (hrun : (setUp name root).run (l, n) = (r, l', n')) :
    (Machine.makeDirectories (Path.join root name)).run n = (r, n') ∧
      (r = .ok () ∧ l' = l.enter root (Path.join root name) ∨ r ≠ .ok () ∧ l' = l) :=
  run_provide ((run_setUp_eq h hl root n).symm.trans hrun)

/-- A tear-down strikes the root, whether it succeeds or not. -/
theorem run_tearDown (h : (tearDown root).run (l, n) = (r, l', n')) :
    l' = l.strike root ∧
      match l.directory? root with
      | some d => (Machine.removeIfPresent d).run n = (r, n')
      | none => r = .ok () ∧ n' = n := by
  simp only [tearDown, Act.run_bind, Act.run_step] at h
  cases hd : l.directory? root with
  | none =>
    rw [hd] at h
    cases h
    exact ⟨rfl, rfl, rfl⟩
  | some d =>
    rw [hd] at h
    cases h
    exact ⟨rfl, rfl⟩

/-- What a step does to the ledger. -/
theorem run_act (h : Path.Plain name) (hl : l.Names name) {x : Happening}
    (hx : (x.act name).run (l, n) = (r, l', n')) :
    match x with
    | .setUp root => r = .ok () ∧ l' = l.enter root (Path.join root name) ∨ r ≠ .ok () ∧ l' = l
    | .tearDown root => l' = l.strike root
    | .outside _ => l' = l := by
  cases x with
  | setUp root => exact (run_setUp h hl hx).2
  | tearDown root => exact (run_tearDown hx).1
  | outside files =>
    cases hx
    rfl

theorem names_of_run_act (h : Path.Plain name) (hl : l.Names name) {x : Happening}
    (hx : (x.act name).run (l, n) = (r, l', n')) : l'.Names name := by
  have hstep := run_act h hl hx
  cases x with
  | setUp root =>
    rcases hstep with ⟨-, rfl⟩ | ⟨-, rfl⟩
    · exact hl.enter
    · exact hl
  | tearDown root =>
    obtain rfl : l' = l.strike root := hstep
    exact hl.strike
  | outside files =>
    obtain rfl : l' = l := hstep
    exact hl

/-- One more step keeps the ledger in line with what happened. -/
theorem isSome_iff_of_run_act (h : Path.Plain name) (hl : l.Names name) {log : Log} {x : Happening}
    (hx : (x.act name).run (l, n) = (r, l', n'))
    (hlog : (l.directory? root).isSome ↔ Provided root log) :
    (l'.directory? root).isSome ↔ Provided root (log ++ [(x, r)]) := by
  have hstep := run_act h hl hx
  rw [provided_snoc]
  cases x with
  | setUp other =>
    rcases hstep with ⟨rfl, rfl⟩ | ⟨hr, rfl⟩
    · by_cases hroot : Path.parts root = Path.parts other
      · simp [Ledger.directory?_enter hroot, hroot]
      · simp [Ledger.directory?_enter_of_ne hroot, hlog, Ne.symm hroot]
    · simp [hlog, hr]
  | tearDown other =>
    obtain rfl : l' = l.strike other := hstep
    by_cases hroot : Path.parts root = Path.parts other
    · simp [Ledger.directory?_strike hroot, hroot]
    · simp [Ledger.directory?_strike_of_ne hroot, hlog, Ne.symm hroot]
  | outside files =>
    obtain rfl : l' = l := hstep
    simp [hlog]

end Steps

/-! ## A whole course -/

section Courses

variable {name : String} {m : Machine} {log : Log} {s : Ledger × Machine}

theorem Course.names (hc : Course name m log s) (h : Path.Plain name) : s.1.Names name := by
  induction hc with
  | start => exact fun root d hd => nomatch hd
  | next x _ hx ih => exact names_of_run_act h ih hx

/-- **The ledger has a directory for exactly the roots that are provided for.** -/
theorem Course.directory?_isSome_iff (hc : Course name m log s) (h : Path.Plain name)
    (root : String) : (s.1.directory? root).isSome ↔ Provided root log := by
  induction hc with
  | start =>
    refine iff_of_false nofun ?_
    rintro ⟨before, r, after, hlog, -⟩
    exact absurd hlog.symm (by simp)
  | next x hc hx ih => exact isSome_iff_of_run_act h (hc.names h) hx ih

end Courses

/-! ## The files -/

section Files

variable {name root : String} {l l' : Ledger} {n n' : Machine} {r : Except Error Unit}

/-- **A set-up leaves every file where it is**, and the ledger as it was if it fails. -/
theorem setUp_leaves (h : Path.Plain name) (hl : l.Names name)
    (hrun : (setUp name root).run (l, n) = (r, l', n')) :
    (∀ k e, n.files.get? k = some e → n'.files.get? k = some e) ∧ (r ≠ .ok () → l' = l) := by
  obtain ⟨hmake, hledger⟩ := run_setUp h hl hrun
  obtain ⟨-, rfl⟩ := Machine.run_makeDirectories hmake
  refine ⟨fun k e hk => FileTree.get?_makeDirectories hk, fun hr => ?_⟩
  rcases hledger with ⟨rfl, -⟩ | ⟨-, hl'⟩
  · exact absurd rfl hr
  · exact hl'

/-- **A tear-down leaves the other roots and all files elsewhere alone.** -/
theorem tearDown_leaves (h : Path.Plain name) (hl : l.Names name)
    (hrun : (tearDown root).run (l, n) = (r, l', n')) :
    (∀ other, Path.parts other ≠ Path.parts root → l'.directory? other = l.directory? other) ∧
      ∀ k, ¬keyOf n.directory (Path.join root name) <+: k →
        n'.files.get? k = n.files.get? k := by
  obtain ⟨rfl, hfiles⟩ := run_tearDown hrun
  refine ⟨fun other => Ledger.directory?_strike_of_ne, fun k hk => ?_⟩
  cases hd : l.directory? root with
  | none =>
    rw [hd] at hfiles
    rw [hfiles.2]
  | some d =>
    rw [hd] at hfiles
    obtain ⟨r, hr, rfl⟩ := hl root d hd
    rw [← Host.keyOf_congr (Path.parts_join_congr h hr)] at hk
    exact Machine.get?_removeIfPresent hfiles hk

/-- **A set-up and a tear-down leave the files as they were**, whatever was done in the directory
meanwhile. -/
theorem restored (h : Path.Plain name) (hl : l.Names name) (hground : n.files.Grounded)
    (hroot : n.files.exists n.directory root = true)
    (hnew : n.files.exists n.directory (Path.join root name) = false)
    (hsetUp : (setUp name root).run (l, n) = (.ok (), l', n')) {files : FileTree}
    (hfiles : files.Grounded)
    (hinside : ∀ k, ¬keyOf n.directory (Path.join root name) <+: k →
      files.get? k = n'.files.get? k) {l₂ : Ledger} {n₂ : Machine}
    (htearDown : (tearDown root).run (l', { n' with files }) = (.ok (), l₂, n₂)) (k : Key) :
    n₂.files.get? k = n.files.get? k := by
  obtain ⟨hmake, hledger⟩ := run_setUp h hl hsetUp
  obtain ⟨-, hremove⟩ := run_tearDown htearDown
  rcases hledger with ⟨-, rfl⟩ | ⟨hr, -⟩
  · rw [Ledger.directory?_enter rfl] at hremove
    exact Machine.get?_restored h hground hroot hnew hmake hfiles hinside hremove k
  · exact absurd rfl hr

end Files

/-! ## All of it -/

/-- What the ledger and the files of a machine have to do with what happened, for one root. -/
structure Bookkept (image : Option String) (log : Log) (l : Ledger) (n : Machine) (root : String) :
    Prop where
  /-- A directory is provided exactly if a set-up of the root succeeded after the last tear-down. -/
  provided : (l.directory? root).isSome ↔ Provided root log
  /-- It is the one below the root that is named after the image, and after nothing else. -/
  named : ∀ d, l.directory? root = some d →
    Path.parts d =
      ((Path.parts root).1, (Path.parts root).2 ++ ["destination-" ++ slug (image.getD "unnamed")])
  /-- A set-up never takes back what was provided. -/
  setUp_eq : (setUp (scratchName image) root).run (l, n) = (provide (scratchName image) root).run (l, n)
  /-- It leaves every file where it is, and the ledger as it was if it fails. -/
  setUp_leaves : ∀ {r l' n'}, (setUp (scratchName image) root).run (l, n) = (r, l', n') →
    (∀ k e, n.files.get? k = some e → n'.files.get? k = some e) ∧ (r ≠ .ok () → l' = l)
  /-- A tear-down leaves the directories of other roots in the ledger, and the files alone that are
  not in the directory of this one. -/
  tearDown_leaves : ∀ {r l' n'}, (tearDown root).run (l, n) = (r, l', n') →
    (∀ other, Path.parts other ≠ Path.parts root → l'.directory? other = l.directory? other) ∧
      ∀ k, ¬keyOf n.directory (Path.join root (scratchName image)) <+: k →
        n'.files.get? k = n.files.get? k
  /-- In a tree that hangs together, where the root is there and has no such directory yet: a set-up,
  any change of files in the directory, and a tear-down that succeeds leave the files as they were. -/
  restored : n.files.Grounded → n.files.exists n.directory root = true →
    n.files.exists n.directory (Path.join root (scratchName image)) = false →
    ∀ {l₁ n₁}, (setUp (scratchName image) root).run (l, n) = (.ok (), l₁, n₁) →
    ∀ {files : FileTree}, files.Grounded →
      (∀ k, ¬keyOf n.directory (Path.join root (scratchName image)) <+: k →
        files.get? k = n₁.files.get? k) →
    ∀ {l₂ n₂}, (tearDown root).run (l₁, { n₁ with files }) = (.ok (), l₂, n₂) →
      ∀ k, n₂.files.get? k = n.files.get? k

/-- **The books of scratch directories are kept**, whatever happened so far. -/
theorem course_bookkept {image : Option String} {m n : Machine} {log : Log} {l : Ledger}
    (hc : Course (scratchName image) m log (l, n)) (root : String) :
    Bookkept image log l n root := by
  have h := scratchName_plain image
  have hl : l.Names (scratchName image) := hc.names h
  refine
    { provided := hc.directory?_isSome_iff h root
      named := fun d hd => ?_
      setUp_eq := run_setUp_eq h hl root n
      setUp_leaves := setUp_leaves h hl
      tearDown_leaves := tearDown_leaves h hl
      restored := fun hground hroot hnew _ _ hsetUp _ hfiles hinside _ _ htearDown =>
        restored h hl hground hroot hnew hsetUp hfiles hinside htearDown }
  obtain ⟨r, hr, rfl⟩ := hl root d hd
  rw [Path.parts_join h, hr]
  rfl

/-! ## Two roots -/

/-- A machine with some entries, on which a directory is provided for some roots. -/
def sharing (roots : List String) (entries : List (Key × Host.Entry)) : Ledger × Machine :=
  (⟨roots.map fun r => (Path.parts r, Path.join r "destination-unnamed")⟩,
    .fresh ⟨entries⟩)

/-- Two roots, with a directory below the first one. -/
def twoRoots : List (Key × Host.Entry) :=
  [(["v"], .directory), (["w"], .directory), (["v", "destination-unnamed"], .directory)]

/-- A file that is left in the directory of the second root goes away with it. -/
theorem course_bookkept_shared :
    Bookkept none [(.setUp "/v", .ok ())] (sharing ["/v"] twoRoots).1 (sharing ["/v"] twoRoots).2 "/w" ∧
      ∀ {l n}, (tearDown "/w").run (sharing ["/w", "/v"] (twoRoots ++
          [(["w", "destination-unnamed"], .directory),
            (["w", "destination-unnamed", "state"], .file [1])])) = (.ok (), l, n) →
        ∀ k, n.files.get? k = (sharing ["/v"] twoRoots).2.files.get? k := by
  have hc : Course (scratchName none) (sharing [] (twoRoots.take 2)).2 [(.setUp "/v", .ok ())]
      (sharing ["/v"] twoRoots) := .next (.setUp "/v") .start (by decide +kernel)
  have hbooks := course_bookkept hc "/w"
  refine ⟨hbooks, fun htearDown => ?_⟩
  have hsetUp : (setUp (scratchName none) "/w").run (sharing ["/v"] twoRoots) =
      (.ok (), sharing ["/w", "/v"] (twoRoots ++ [(["w", "destination-unnamed"], .directory)])) := by
    decide +kernel
  refine hbooks.restored (FileTree.grounded_of_entries (by decide)) (by decide +kernel)
    (by decide +kernel) hsetUp (FileTree.grounded_of_entries (by decide)) (fun k hk => ?_) htearDown
  have hwrite : (⟨twoRoots ++ [(["w", "destination-unnamed"], .directory),
      (["w", "destination-unnamed", "state"], .file [1])]⟩ : FileTree) =
        (sharing ["/w", "/v"] (twoRoots ++ [(["w", "destination-unnamed"], .directory)])).2.files.put
          ["w", "destination-unnamed", "state"] (.file [1]) := by decide
  have hne : k ≠ ["w", "destination-unnamed", "state"] := by
    rintro rfl
    exact hk (by decide +kernel)
  rw [hwrite, FileTree.get?_put (by decide), if_neg hne]
  rfl

end Acceptance.Destination
