import Acceptance.Store.Traffic
import Mathlib.Data.List.Perm.Basic

/-!
# The invariant of the pool

Whatever calls come, in whatever order they take their steps, and however opening a connection and
putting a query go: the slots add up, there are never more connections than slots, and each connection
is at one place at a time.

* `Phase.giveBack`: what is shared once a call has given back all that it has.
* `Kept`: the invariant, of what is shared and of the calls in any order.
* `Conserved`: what it comes to for the calls on a store.
* `Pool.plain`: a pool without the numbers of its connections.

Results:
* `opening_le_holding`: calls that open or have a connection hold slots.
* `giveBack_next`: a step leaves alone what a call would give back, unless it opens a connection.
* `Kept.next`: one step of a call keeps the invariant.
* `kept_of_run?`: any moves keep it.
* `connection?_step?`, `returned_of_run?`: a call that has a connection keeps it until it gives it
  back.
* `run?_alone`: the steps of a call that nobody interrupts come to what `Source.fetch` does.
* `run?_conserved`: all of it, for a database file with a limit.
-/

namespace Acceptance.Store

open Traffic (step?_go connection?_eq_some_iff)

variable {κ : Type}

/-! ## The invariant -/

/-- Every call that has a connection, or is about to open one, holds a slot of its own. -/
theorem opening_le_holding (calls : List (Call κ)) :
    (inUse calls).length + opening calls ≤ holding calls := by
  induction calls with
  | nil => exact Nat.le_refl 0
  | cons c calls ih =>
    rw [inUse_cons, opening_cons, holding_cons]
    cases c.phase <;> simp [Phase.connection?, Phase.isOpening, Phase.holdsSlot] <;> omega

/-- What is shared once a call has given back all that it has. -/
def Phase.giveBack (h : Shared κ) : Phase κ → Shared κ
  | waiting | ended _ => h
  | admitted | opening | leaving _ => { h with free := h.free + 1 }
  | connected k | answered k _ => { h with free := h.free + 1, pool := h.pool.put k }

theorem free_giveBack (ph : Phase κ) (h : Shared κ) :
    (ph.giveBack h).free = h.free + if ph.holdsSlot then 1 else 0 := by
  cases ph <;> rfl

theorem idle_giveBack (ph : Phase κ) (h : Shared κ) :
    (ph.giveBack h).pool.idle = ph.connection?.toList ++ h.pool.idle := by
  cases ph <;> rfl

theorem opened_giveBack (ph : Phase κ) (h : Shared κ) : (ph.giveBack h).opened = h.opened := by
  cases ph <;> rfl

/-- The invariant of a store with `n` slots. -/
structure Kept (n : Nat) (h : Shared κ) (calls : List (Call κ)) : Prop where
  /-- A slot is free, or a call holds it. -/
  slots : h.free + holding calls = n
  /-- A connection that was opened is idle, or a call has it. -/
  connections : ((h.pool.idle ++ inUse calls).map Prod.fst).Perm (List.range h.opened)
  /-- There is room for the connections that are still to be opened. -/
  room : h.pool.idle.length + ((inUse calls).length + opening calls) ≤ n

theorem kept_start (n : Nat) : Kept n (Traffic.start n : Traffic κ).shared [] :=
  ⟨rfl, List.Perm.nil, Nat.zero_le n⟩

variable {n : Nat} {h h' : Shared κ} {c : Call κ} {calls calls' : List (Call κ)}

/-- It does not matter in which order the calls are listed. -/
theorem Kept.perm (hp : calls.Perm calls') (hk : Kept n h calls) : Kept n h calls' where
  slots := by
    have hholding : holding calls = holding calls' := hp.countP_eq _
    rw [← hholding, hk.slots]
  connections := (((hp.filterMap _).append_left _).map _).symm.trans hk.connections
  room := by
    have huse : (inUse calls).length = (inUse calls').length := (hp.filterMap _).length_eq
    have hopening : opening calls = opening calls' := hp.countP_eq _
    rw [← huse, ← hopening]
    exact hk.room

/-- A call counts for what it would give back. While it is about to open a connection there is room for
that. -/
theorem kept_cons_iff :
    Kept n h (c :: calls) ↔
      Kept n (c.phase.giveBack h) calls ∧
        (c.phase.isOpening = true →
          h.pool.idle.length + ((inUse calls).length + opening calls) < n) := by
  have hslots : h.free + holding (c :: calls) = (c.phase.giveBack h).free + holding calls := by
    rw [holding_cons, free_giveBack]
    omega
  have hconns : (h.pool.idle ++ inUse (c :: calls)).Perm
      ((c.phase.giveBack h).pool.idle ++ inUse calls) := by
    rw [inUse_cons, idle_giveBack, ← List.append_assoc]
    exact List.perm_append_comm.append_right _
  have hroom : h.pool.idle.length + ((inUse (c :: calls)).length + opening (c :: calls)) =
      (c.phase.giveBack h).pool.idle.length + ((inUse calls).length + opening calls) +
        if c.phase.isOpening then 1 else 0 := by
    have hlength := hconns.length_eq
    rw [List.length_append, List.length_append] at hlength
    rw [opening_cons]
    omega
  -- A call that is about to open a connection has none that it could give back.
  have hidle : c.phase.isOpening = true → (c.phase.giveBack h).pool.idle = h.pool.idle := by
    cases c.phase <;> simp [Phase.isOpening, Phase.giveBack]
  constructor
  · rintro ⟨hs, hc, hr⟩
    rw [hroom] at hr
    refine ⟨⟨hslots ▸ hs, ?_, by omega⟩, fun hopening => ?_⟩
    · rw [opened_giveBack]
      exact (hconns.map _).symm.trans hc
    · rw [if_pos hopening, hidle hopening] at hr
      omega
  · rintro ⟨⟨hs, hc, hr⟩, hopening⟩
    rw [opened_giveBack] at hc
    refine ⟨hslots.trans hs, (hconns.map _).trans hc, ?_⟩
    rw [hroom]
    split
    · next ho =>
      rw [hidle ho]
      exact hopening ho
    · exact hr

/-- A connection that is opened finds room. -/
theorem Kept.opened (hk : Kept n h calls)
    (hroom : h.pool.idle.length + ((inUse calls).length + opening calls) < n) (k : κ) :
    Kept n { h with pool := h.pool.put (h.opened, k), opened := h.opened + 1 } calls where
  slots := hk.slots
  connections := by
    rw [List.range_succ]
    exact (hk.connections.cons h.opened).trans (List.perm_append_singleton _ _).symm
  room := by
    rw [Pool.put, List.length_cons]
    omega

/-! ## One step -/

section Steps

variable {s : Source} {w : World κ} {ph : Phase κ}

/-- A step leaves alone what a call would give back, unless it opens a connection. -/
theorem giveBack_next (hc : c.next s w h = some (ph, h')) :
    ph.giveBack h' = c.phase.giveBack h ∨
      c.phase = .opening ∧ ∃ k, ph = .connected (h.opened, k) ∧
        h' = { h with opened := h.opened + 1 } := by
  cases hph : c.phase <;> simp only [Call.next, hph] at hc
  case waiting =>
    split at hc <;> cases hc
    next hfree => simp only [Phase.giveBack, Nat.sub_add_cancel hfree, true_or]
  case admitted =>
    split at hc <;> cases hc
    next k p hidle =>
      -- Taking a connection and having it to give back comes to what was there.
      have hp : h.pool = p.put k := by
        rw [Pool.put, ← Pool.take_eq_some_iff.mp hidle]
      simp only [Phase.giveBack, hp, true_or]
    next => exact Or.inl rfl
  case opening =>
    split at hc <;> cases hc
    next k _ => exact Or.inr ⟨rfl, k, rfl, rfl⟩
    next => exact Or.inl rfl
  case ended => cases hc
  all_goals
    cases hc
    exact Or.inl rfl

/-- A call is about to open a connection only if none was idle. -/
theorem isOpening_next (hc : c.next s w h = some (ph, h')) (hopening : ph.isOpening = true) :
    c.phase = .admitted ∧ h.pool.idle = [] ∧ h' = h := by
  cases hph : c.phase <;> simp only [Call.next, hph] at hc
  case admitted =>
    split at hc <;> cases hc
    next => cases hopening
    next hidle => exact ⟨rfl, Pool.take_eq_none_iff.mp hidle, rfl⟩
  case waiting | opening => split at hc <;> cases hc <;> cases hopening
  case ended => cases hc
  all_goals
    cases hc
    cases hopening

/-- **One step of a call keeps the invariant.** -/
theorem Kept.next (hk : Kept n h (c :: calls)) (hc : c.next s w h = some (ph, h')) :
    Kept n h' ({ c with phase := ph } :: calls) := by
  obtain ⟨hback, hroom⟩ := kept_cons_iff.mp hk
  refine kept_cons_iff.mpr ⟨?_, fun hopening => ?_⟩
  · rcases giveBack_next hc with heq | ⟨hph, k, rfl, rfl⟩
    · rwa [heq]
    · rw [hph] at hback hroom
      exact hback.opened (hroom rfl) k
  · obtain ⟨hph, hidle, rfl⟩ := isOpening_next hc hopening
    rw [hph] at hback
    -- Nothing is idle, so that every connection there is or will be has a slot to itself.
    have hslots : h'.free + 1 + holding calls = n := hback.slots
    have hle := opening_le_holding calls
    rw [hidle, List.length_nil]
    omega

end Steps

/-! ## Moves -/

section Moves

variable {s : Source} {t t' : Traffic κ} {m : Move κ}

/-- Every move keeps the invariant. -/
theorem Kept.step? (hk : Kept n t.shared t.calls) (hs : t.step? s m = some t') :
    Kept n t'.shared t'.calls := by
  cases m with
  | arrive stream space =>
    cases hs
    exact Kept.perm (List.perm_append_singleton _ _).symm (kept_cons_iff.mpr ⟨hk, nofun⟩)
  | go i w =>
    obtain ⟨c, ph, h, hc, hnext, rfl⟩ := step?_go hs
    obtain ⟨hi, rfl⟩ := List.getElem?_eq_some_iff.mp hc
    have hfirst := hk.perm (List.getElem_cons_eraseIdx_perm hi).symm
    exact (hfirst.next hnext).perm (List.set_perm_cons_eraseIdx hi _).symm

/-- **Any moves keep the invariant.** -/
theorem kept_of_run? {ms : List (Move κ)} (hk : Kept n t.shared t.calls)
    (hrun : Traffic.run? s ms t = some t') : Kept n t'.shared t'.calls := by
  induction ms generalizing t with
  | nil =>
    cases hrun
    exact hk
  | cons m ms ih =>
    obtain ⟨u, hu, hrun⟩ := Option.bind_eq_some_iff.mp hrun
    exact ih (hk.step? hu) hrun

/-! ## What becomes of a connection -/

variable {i : Nat} {k : Nat × κ}

/-- A call that has a connection still has it after a move, unless it was the one to move, and gave
it back, whatever the answer was that it had got. -/
theorem connection?_step? (hk : t.connection? i = some k) (hs : t.step? s m = some t') :
    t'.connection? i = some k ∨
      ∃ w r, m = .go i w ∧ t.phase? i = some (.answered k r) ∧
        t'.shared.pool = t.shared.pool.put k := by
  obtain ⟨c, hc, hck⟩ := connection?_eq_some_iff.mp hk
  obtain ⟨hi, -⟩ := List.getElem?_eq_some_iff.mp hc
  cases m with
  | arrive stream space =>
    cases hs
    exact Or.inl (connection?_eq_some_iff.mpr ⟨c, (List.getElem?_append_left hi).trans hc, hck⟩)
  | go j w =>
    obtain ⟨d, ph, h, hd, hnext, rfl⟩ := step?_go hs
    by_cases hji : j = i
    · subst hji
      obtain rfl : c = d := Option.some.inj (hc.symm.trans hd)
      cases hph : c.phase with
      | connected k' =>
        simp only [Call.next, hph] at hnext
        cases hnext
        rw [hph] at hck
        exact Or.inl (connection?_eq_some_iff.mpr ⟨_, List.getElem?_set_self hi, hck⟩)
      | answered k' r =>
        simp only [Call.next, hph] at hnext
        cases hnext
        rw [hph] at hck
        cases hck
        exact Or.inr ⟨w, r, rfl, by simp [Traffic.phase?, hc, hph], rfl⟩
      | _ => simp [hph, Phase.connection?] at hck
    · exact Or.inl (connection?_eq_some_iff.mpr ⟨c, (List.getElem?_set_ne hji).trans hc, hck⟩)

/-- **A call that had a connection, and has it no more, gave it back.** -/
theorem returned_of_run? {ms : List (Move κ)} (hk : t.connection? i = some k)
    (hrun : Traffic.run? s ms t = some t') (hgone : t'.connection? i ≠ some k) :
    ∃ before w after u u' r, ms = before ++ .go i w :: after ∧
      Traffic.run? s before t = some u ∧ u.phase? i = some (.answered k r) ∧
      u.step? s (.go i w) = some u' ∧ u'.shared.pool = u.shared.pool.put k := by
  induction ms generalizing t with
  | nil =>
    cases hrun
    exact absurd hk hgone
  | cons m ms ih =>
    obtain ⟨u, hu, hrun⟩ := Option.bind_eq_some_iff.mp hrun
    rcases connection?_step? hk hu with hstill | ⟨w, r, rfl, hanswered, hput⟩
    · obtain ⟨before, w, after, v, v', r, rfl, hv, hlater⟩ := ih hstill hrun
      refine ⟨m :: before, w, after, v, v', r, rfl, ?_, hlater⟩
      rw [Traffic.run?, hu]
      exact hv
    · exact ⟨[], w, ms, t, u, r, rfl, rfl, hanswered, hu, hput⟩

/-- A call that has a connection can always go on. -/
theorem isSome_step?_of_connection? (hk : t.connection? i = some k) (w : World κ) :
    (t.step? s (.go i w)).isSome := by
  obtain ⟨c, hc, hck⟩ := connection?_eq_some_iff.mp hk
  simp only [Traffic.step?, hc, Option.isSome_map]
  cases hph : c.phase <;> simp [hph, Phase.connection?] at hck <;> simp [Call.next, hph]

end Moves

/-! ## A call that nobody interrupts -/

/-- A pool without the numbers of its connections. -/
def Pool.plain (p : Pool (Nat × κ)) : Pool κ := ⟨p.idle.map Prod.snd⟩

section Alone

variable {s : Source} {w : World κ} {c : Call κ}

/-- Steps of the call that came last. -/
theorem run?_last {ph : Phase κ} (hnext : c.next s w h = some (ph, h')) (j : Nat) :
    Traffic.run? s (List.replicate (j + 1) (.go calls.length w)) ⟨h, calls ++ [c]⟩ =
      Traffic.run? s (List.replicate j (.go calls.length w))
        ⟨h', calls ++ [{ c with phase := ph }]⟩ := by
  rw [List.replicate_succ, Traffic.run?, Traffic.step?]
  simp [hnext]

/-- A call that has come gets a slot if one is free. -/
theorem run?_arrive (hfree : 0 < h.free) (stream : String) (space : Option String) (j : Nat) :
    Traffic.run? s (.arrive stream space :: List.replicate (j + 1) (.go calls.length w)) ⟨h, calls⟩ =
      Traffic.run? s (List.replicate j (.go calls.length w))
        ⟨{ h with free := h.free - 1 }, calls ++ [⟨stream, space, .admitted⟩]⟩ := by
  have henter : (⟨stream, space, .waiting⟩ : Call κ).next s w h =
      some (.admitted, { h with free := h.free - 1 }) := if_pos hfree
  rw [Traffic.run?, Traffic.step?, Option.bind_some]
  exact run?_last henter j

/-- **A call that nobody interrupts does what `Source.fetch` does**, with the same result and the same
connections left idle, and leaves as many slots free as before. -/
theorem run?_alone (s : Source) (w : World κ) {t : Traffic κ} (hfree : 0 < t.shared.free)
    (stream : String) (space : Option String) :
    ∃ j r t', Traffic.run? s (.arrive stream space :: List.replicate j (.go t.calls.length w)) t =
        some t' ∧
      t'.calls = t.calls ++ [⟨stream, space, .ended r⟩] ∧ t'.shared.free = t.shared.free ∧
      (s.fetch w.systems stream space).run (t.shared.pool.plain, w.machine) =
        (r, t'.shared.pool.plain, w.machine) := by
  obtain ⟨⟨free, ⟨idle⟩, opened⟩, calls⟩ := t
  have hback : free - 1 + 1 = free := Nat.sub_add_cancel hfree
  -- How many steps there are depends on whether a connection is idle, and on whether one can be opened.
  cases idle with
  | cons k idle =>
    let r := (s.ask w.systems stream space k.2).mapError Error.retrieval
    refine ⟨5, r, ⟨⟨free - 1 + 1, ⟨k :: idle⟩, opened⟩, calls ++ [⟨stream, space, .ended r⟩]⟩,
      ?_, rfl, hback, Source.run_fetch_idle stream space _⟩
    rw [run?_arrive hfree, run?_last rfl, run?_last rfl, run?_last rfl, run?_last rfl]
    rfl
  | nil =>
    cases hconnect : s.connect w.systems w.machine with
    | error q =>
      let r : Except Error (List Json) := .error (.retrieval q)
      have hopen : (⟨stream, space, .opening⟩ : Call κ).next s w ⟨free - 1, ⟨[]⟩, opened⟩ =
          some (.leaving r, ⟨free - 1, ⟨[]⟩, opened⟩) := by
        simp only [Call.next, hconnect, r]
      refine ⟨4, r, ⟨⟨free - 1 + 1, ⟨[]⟩, opened⟩, calls ++ [⟨stream, space, .ended r⟩]⟩,
        ?_, rfl, hback, Source.run_fetch_refused stream space hconnect⟩
      rw [run?_arrive hfree, run?_last rfl, run?_last hopen, run?_last rfl]
      rfl
    | ok k =>
      let r := (s.ask w.systems stream space k).mapError Error.retrieval
      have hopen : (⟨stream, space, .opening⟩ : Call κ).next s w ⟨free - 1, ⟨[]⟩, opened⟩ =
          some (.connected (opened, k), ⟨free - 1, ⟨[]⟩, opened + 1⟩) := by
        simp only [Call.next, hconnect]
      refine ⟨6, r, ⟨⟨free - 1 + 1, ⟨[(opened, k)]⟩, opened + 1⟩,
        calls ++ [⟨stream, space, .ended r⟩]⟩, ?_, rfl, hback,
        Source.run_fetch_opened stream space hconnect⟩
      rw [run?_arrive hfree, run?_last rfl, run?_last hopen, run?_last rfl, run?_last rfl,
        run?_last rfl]
      rfl

end Alone

/-! ## A database file -/

/-- What can be said of the calls on a store with a limit, wherever they stand. -/
structure Conserved (s : Source) (limit : Nat) (t : Traffic κ) : Prop where
  /-- The slots that are free and those that calls hold make up the limit. -/
  slots : t.shared.free + holding t.calls = limit
  /-- There are never more connections, idle or in use, than the limit. -/
  bound : t.shared.pool.idle.length + (inUse t.calls).length ≤ limit
  /-- No connection is idle and in use at once, and none is in use by two calls. -/
  distinct : ((t.shared.pool.idle ++ inUse t.calls).map Prod.fst).Nodup
  /-- None that was opened is lost. -/
  kept : ∀ j, j ∈ (t.shared.pool.idle ++ inUse t.calls).map Prod.fst ↔ j < t.shared.opened
  /-- A call that has a connection can always go on. -/
  able : ∀ {i k}, t.connection? i = some k → ∀ w, (t.step? s (.go i w)).isSome
  /-- Once it has it no more, it has given it back, whatever the answer was that it had got. -/
  returned : ∀ {i k}, t.connection? i = some k →
    ∀ {ms t'}, Traffic.run? s ms t = some t' → t'.connection? i ≠ some k →
      ∃ before w after u u' r, ms = before ++ .go i w :: after ∧
        Traffic.run? s before t = some u ∧ u.phase? i = some (.answered k r) ∧
        u.step? s (.go i w) = some u' ∧ u'.shared.pool = u.shared.pool.put k
  /-- While no call is under way, all slots are free. -/
  quiet : (∀ c ∈ t.calls, c.phase.isOver = true) → t.shared.free = limit
  /-- A call that nobody interrupts does what `Source.fetch` does. -/
  alone : 0 < t.shared.free → ∀ (w : World κ) (stream : String) (space : Option String),
    ∃ j r t',
      Traffic.run? s (.arrive stream space :: List.replicate j (.go t.calls.length w)) t = some t' ∧
      t'.calls = t.calls ++ [⟨stream, space, .ended r⟩] ∧ t'.shared.free = t.shared.free ∧
      (s.fetch w.systems stream space).run (t.shared.pool.plain, w.machine) =
        (r, t'.shared.pool.plain, w.machine)

theorem Kept.conserved {t : Traffic κ} (hk : Kept n t.shared t.calls) (s : Source) :
    Conserved s n t where
  slots := hk.slots
  bound := by
    have hroom := hk.room
    omega
  distinct := hk.connections.nodup_iff.mpr List.nodup_range
  kept j := by rw [hk.connections.mem_iff, List.mem_range]
  able hc := isSome_step?_of_connection? hc
  returned hc _ _ hrun hgone := returned_of_run? hc hrun hgone
  quiet hover := by
    have hnone : holding t.calls = 0 := by
      refine List.countP_eq_zero.mpr fun c hc hslot => ?_
      have hc' := hover c hc
      cases hph : c.phase <;> simp_all [Phase.isOver, Phase.holdsSlot]
    have hslots := hk.slots
    rwa [hnone] at hslots
  alone hfree w stream space := run?_alone s w hfree stream space

/-- **The invariant of the pool.** Whatever calls come to a store in a file, in whatever order they
take their steps, and whatever becomes of the database systems and the machine meanwhile. -/
theorem run?_conserved {r : Config.Records} {s : Source} {path : String} {t : Traffic κ}
    {ms : List (Move κ)} (hr : Source.ofRecords r = .ok (some s)) (hs : s.origin = .file path n)
    (hrun : Traffic.run? s ms (.start n) = some t) : Conserved s (max r.maxConcurrency 1) t := by
  rcases Source.ofRecords_cases r with ⟨e, -, he⟩ | ⟨-, -, -, hcrash⟩ | ⟨source, hsource, hlimit⟩
  · rw [hr] at he
    cases he
  · rw [hr] at hcrash
    cases hcrash
  · rw [hr] at hsource
    rw [← hlimit s (Except.ok.inj hsource).symm path n hs]
    exact (kept_of_run? (kept_start n) hrun).conserved s

/-! ### Two calls -/

/-- A database file for two calls at once. -/
def shop : Config.Records := ⟨.duckdb, some "/shop.duckdb", none, none, 2⟩

/-- The source that comes of it. -/
def shopSource : Source := ⟨.file "/shop.duckdb" 2, "main"⟩

/-- A world with the file, in which no query is answered. -/
def shopWorld : World Unit where
  systems := ⟨fun _ => .ok (), fun _ _ => .error "no server", fun _ _ => .error "no such table"⟩
  machine := .fresh ⟨[(["shop.duckdb"], .file [])]⟩

/-- Two calls open a connection each. The first one has given its connection back when the second one
puts its query. -/
def shopMoves : List (Move Unit) :=
  [.arrive "users" none, .arrive "rates" none] ++
    [0, 1, 0, 1, 1, 0, 0, 0, 1].map fun i => .go i shopWorld

theorem run?_conserved_shop :
    ∃ t, Traffic.run? shopSource shopMoves (.start 2) = some t ∧
      (t.shared.free, t.shared.pool.idle.length, (inUse t.calls).length) = (0, 1, 1) ∧
      Conserved shopSource 2 t := by
  have hfacts : (Traffic.run? shopSource shopMoves (.start 2)).map (fun t =>
      (t.shared.free, t.shared.pool.idle.length, (inUse t.calls).length)) = some (0, 1, 1) := by
    decide +kernel
  obtain ⟨t, hrun, hfacts⟩ := Option.map_eq_some_iff.mp hfacts
  exact ⟨t, hrun, hfacts, run?_conserved (r := shop) rfl rfl hrun⟩

end Acceptance.Store
