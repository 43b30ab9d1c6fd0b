import Acceptance.Proofs.Destination.Scratch

/-!
# Tear-downs one after the other

A tear-down strikes its root from the ledger before it removes the directory. If the removal fails,
the next tear-down finds nothing to take back.

* `tearDowns`: tear-downs of a root, one after the other.
* `Released`: none that succeeds leaves anything at a path.

Results:
* `tearDowns_succ`: only the first of them does anything, and every later one succeeds.
* `released_iff`: they release what was provided exactly if it is no file, or if nobody tries again.
-/

namespace Acceptance.Destination

open Host (Machine FileTree)

/-- Tear-downs of a root, one after the other: what each of them gives, and the state that it
leaves. -/
def tearDowns (root : String) :
    Nat → Ledger × Machine → List (Except Error Unit × Ledger × Machine)
  | 0, _ => []
  | k + 1, s => (tearDown root).run s :: tearDowns root k ((tearDown root).run s).2

/-- None of some calls that succeeds leaves anything at a path. -/
def Released (path : String) (calls : List (Except Error Unit × Ledger × Machine)) : Prop :=
  ∀ x ∈ calls, x.1 = .ok () → x.2.2.files.exists x.2.2.directory path = false

variable {name root : String} {l : Ledger} {n : Machine}

/-! ## Calls that find nothing -/

/-- A tear-down of a root that nothing is provided for changes nothing. -/
theorem run_tearDown_of_none (h : l.directory? root = none) :
    (tearDown root).run (l, n) = (.ok (), l.strike root, n) := by
  rcases hrun : (tearDown root).run (l, n) with ⟨r, l', n'⟩
  obtain ⟨rfl, hnothing⟩ := run_tearDown hrun
  rw [h] at hnothing
  obtain ⟨rfl, rfl⟩ := hnothing
  rfl

theorem Ledger.strike_strike (root : String) (l : Ledger) :
    (l.strike root).strike root = l.strike root := by
  simp [Ledger.strike, List.filter_filter]

theorem tearDowns_of_strike (root : String) (k : Nat) (l : Ledger) (n : Machine) :
    tearDowns root k (l.strike root, n) = List.replicate k (.ok (), l.strike root, n) := by
  induction k with
  | zero => rfl
  | succ k ih =>
    have hnone : (l.strike root).directory? root = none := Ledger.directory?_strike rfl
    rw [tearDowns, run_tearDown_of_none hnone, Ledger.strike_strike, ih, List.replicate_succ]

/-- **Only the first of some tear-downs does anything**: whatever it came to, every later one
succeeds, and leaves everything as the first one left it. -/
theorem tearDowns_succ (root : String) (k : Nat) (s : Ledger × Machine) :
    tearDowns root (k + 1) s =
      (tearDown root).run s :: List.replicate k (.ok (), ((tearDown root).run s).2) := by
  obtain ⟨l, n⟩ := s
  rcases hrun : (tearDown root).run (l, n) with ⟨r, l', n'⟩
  obtain ⟨rfl, -⟩ := run_tearDown hrun
  rw [tearDowns, hrun, tearDowns_of_strike]

/-! ## What is released -/

theorem released_succ_iff {path : String} {k : Nat} {s : Ledger × Machine} :
    Released path (tearDowns root (k + 1) s) ↔
      (((tearDown root).run s).1 = .ok () ∨ k ≠ 0 →
        ((tearDown root).run s).2.2.files.exists ((tearDown root).run s).2.2.directory path =
          false) := by
  rw [tearDowns_succ, Released, List.forall_mem_cons]
  simp only [List.mem_replicate]
  constructor
  · rintro ⟨hfirst, hlater⟩ (hok | hk)
    · exact hfirst hok
    · exact hlater (.ok (), ((tearDown root).run s).2) ⟨hk, rfl⟩ rfl
  · intro h
    refine ⟨fun hok => h (Or.inl hok), ?_⟩
    rintro x ⟨hk, rfl⟩ -
    exact h (Or.inr hk)

/-- Some tear-downs release what is in the ledger, unless there is a file in its place and more than
one of them. -/
theorem released_join_iff (h : Path.Plain name) {r : String}
    (hd : l.directory? root = some (Path.join r name)) (k : Nat) :
    Released (Path.join r name) (tearDowns root k (l, n)) ↔
      (2 ≤ k → n.files.isFile n.directory (Path.join r name) = false) := by
  cases k with
  | zero => exact iff_of_true (fun x hx => nomatch hx) (fun hk => absurd hk (by decide))
  | succ k =>
    rcases hrun : (tearDown root).run (l, n) with ⟨res, l', n'⟩
    obtain ⟨-, hremove⟩ := run_tearDown hrun
    rw [hd] at hremove
    rw [released_succ_iff, hrun]
    rcases Machine.removeIfPresent_join h hremove with ⟨-, hfile, hgone⟩ | ⟨hfails, rfl, hthere⟩
    · exact iff_of_true (fun _ => hgone) (fun _ => hfile)
    · -- The first one failed and left everything, so that the others meet what was there before.
      simp only [hfails, false_or, hthere]
      exact ⟨fun hlater hk => hlater (by omega), fun hfile hk => hfile (by omega)⟩

/-- **Whatever happened before, tear-downs of a root that is provided for release its directory
exactly if there is no file in its place by now, or if the first of them is the only one**: a file is
not removed in this way, and the next tear-down succeeds in spite of it. -/
theorem released_iff {image : Option String} {m : Machine} {log : Log}
    (hc : Course (scratchName image) m log (l, n)) (hp : Provided root log) :
    ∃ d, l.directory? root = some d ∧
      Path.parts d = ((Path.parts root).1,
        (Path.parts root).2 ++ ["destination-" ++ slug (image.getD "unnamed")]) ∧
      ∀ k, Released d (tearDowns root k (l, n)) ↔
        (2 ≤ k → n.files.isFile n.directory d = false) := by
  have h := scratchName_plain image
  obtain ⟨d, hd⟩ := Option.isSome_iff_exists.mp ((hc.directory?_isSome_iff h root).mpr hp)
  obtain ⟨r, hr, rfl⟩ := hc.names h root d hd
  refine ⟨_, hd, ?_, released_join_iff h hd⟩
  rw [Path.parts_join h, hr]
  rfl

/-! ## A file in place of the directory -/

/-- A set-up of a root, after which somebody puts other files there. -/
def replaced (files : List (Host.Key × Host.Entry)) : Log :=
  [(.setUp "/w", .ok ()), (.outside ⟨files⟩, .ok ())]

/-- A root in which the directory has a file in it. -/
def inUse : List (Host.Key × Host.Entry) :=
  [(["w"], .directory), (["w", "destination-unnamed"], .directory),
    (["w", "destination-unnamed", "state"], .file [1])]

/-- A root in which a file has taken the place of the directory. -/
def overwritten : List (Host.Key × Host.Entry) :=
  [(["w"], .directory), (["w", "destination-unnamed"], .file [1])]

theorem course_replaced (files : List (Host.Key × Host.Entry)) :
    Course (scratchName none) (sharing [] [(["w"], .directory)]).2 (replaced files)
      (sharing ["/w"] files) := by
  have hsetUp : (setUp (scratchName none) "/w").run (sharing [] [(["w"], .directory)]) =
      (.ok (), sharing ["/w"] [(["w"], .directory), (["w", "destination-unnamed"], .directory)]) := by
    decide +kernel
  exact .next (.outside ⟨files⟩) (.next (.setUp "/w") .start hsetUp) rfl

theorem provided_replaced (files : List (Host.Key × Host.Entry)) :
    Provided "/w" (replaced files) :=
  ⟨[], "/w", [(.outside ⟨files⟩, .ok ())], rfl, rfl, fun x hx r' hr' => by
    rw [List.mem_singleton.mp hx] at hr'
    cases hr'⟩

theorem released_iff_inUse :
    ∃ d, (sharing ["/w"] inUse).1.directory? "/w" = some d ∧
      Path.parts d = (true, ["w", "destination-unnamed"]) ∧
      ∀ k, Released d (tearDowns "/w" k (sharing ["/w"] inUse)) ↔
        (2 ≤ k → (sharing ["/w"] inUse).2.files.isFile [] d = false) :=
  released_iff (course_replaced inUse) (provided_replaced inUse)

/-- The first tear-down fails, the second one succeeds, and the file is there all the time. -/
theorem not_released_overwritten :
    Course (scratchName none) (sharing [] [(["w"], .directory)]).2 (replaced overwritten)
        (sharing ["/w"] overwritten) ∧
      Provided "/w" (replaced overwritten) ∧
      (sharing ["/w"] overwritten).1.directory? "/w" = some "/w/destination-unnamed" ∧
      ((tearDowns "/w" 2 (sharing ["/w"] overwritten)).map fun x =>
          (x.1, x.2.2.files.exists x.2.2.directory "/w/destination-unnamed")) =
        [(.error (.io (.number Host.Errno.notDirectory)), true), (.ok (), true)] ∧
      ¬Released "/w/destination-unnamed" (tearDowns "/w" 2 (sharing ["/w"] overwritten)) := by
  refine ⟨course_replaced overwritten, provided_replaced overwritten, by decide +kernel,
    by decide +kernel, fun hreleased => ?_⟩
  have hsecond := hreleased (.ok (), sharing [] overwritten) (by decide +kernel) rfl
  exact absurd hsecond (by decide +kernel)

end Acceptance.Destination
