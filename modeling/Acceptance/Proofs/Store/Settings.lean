import Acceptance.Proofs.Text.Words
import Acceptance.Store.Source
import Mathlib.Data.List.Induction

/-!
# Settings read from pieces

What a connection string of `key=value` pieces says: which pieces are taken, what is set after all of
them, and which piece is complained of.

* `pair`: the piece of a key and a value.
* `IsPort`: a value is the number of a port. `Legible`, `Refused`: a piece is taken, or complained of.
* `LastValue`: the value in the last piece with a key.
* `Settings.Holds`: what is set for a key is a value. `Settings.pieces`: settings, written as pieces.
* `Understood`: what is made of a text that holds some pieces.

Results:
* `set_eq_error_iff`, `holds_of_set`: what one piece does.
* `exists_setAll_iff`, `refused_of_setAll`, `holds_of_ofPieces`: what pieces in order do.
* `ofPieces_written`: settings are read back from their pieces, whatever the order and whatever else is
  there under other keys.
* `settings_understood`: what a connection string comes to.
-/

namespace Acceptance.Store

/-- The piece that gives a key a value. -/
def pair (k : Key) (v : List Char) : List Char := k.name.toList ++ '=' :: v

/-- A value is digits, perhaps behind a plus sign, that make the number of a port. -/
def IsPort (v : List Char) (n : Nat) : Prop :=
  ∃ ds, (v = ds ∨ v = '+' :: ds) ∧ ds ≠ [] ∧ (∀ d ∈ ds, d.isDigit = true) ∧
    Nat.ofDigitChars 10 ds 0 = n ∧ n ≤ 65535

/-- A piece has a key, and if that is the port, its value is one. -/
structure Legible (p : List Char) : Prop where
  equals : '=' ∈ p
  port : ∀ v, p = pair .port v → ∃ n, IsPort v n

/-- What is wrong with a piece: it has no key, or its value should be a port and is none. -/
inductive Refused : List Char → ConfigProblem → Prop
  | keyless {p : List Char} (h : '=' ∉ p) : Refused p (.malformedParameter (String.ofList p))
  | port {v : List Char} (h : ∀ n, ¬IsPort v n) :
      Refused (pair .port v) (.invalidPort (String.ofList v))

/-- The value of the last piece with a key, if there is a piece with that key. -/
def LastValue (k : Key) (ps : List (List Char)) : Option (List Char) → Prop
  | some v => ∃ before after, ps = before ++ pair k v :: after ∧ ∀ w, pair k w ∉ after
  | none => ∀ w, pair k w ∉ ps

namespace Settings

/-- What is set for a key is a value, or nothing. -/
def Holds (s : Settings) : Key → Option (List Char) → Prop
  | .host, v => s.host = v.map String.ofList
  | .port, v => Option.Rel IsPort v s.port
  | .user, v => s.user = v.map String.ofList
  | .password, v => s.password = v.map String.ofList
  | .database, v => s.database = v.map String.ofList

/-- What is set for a key, as a value; ports are written with digits. -/
def written (s : Settings) : Key → Option (List Char)
  | .host => s.host.map String.toList
  | .port => s.port.map (Nat.toDigits 10)
  | .user => s.user.map String.toList
  | .password => s.password.map String.toList
  | .database => s.database.map String.toList

/-- Settings as pieces. -/
def pieces (s : Settings) : List (List Char) :=
  Key.all.filterMap fun k => (s.written k).map (pair k)

end Settings

/-! ## Keys and values -/

theorem equals_not_mem_name (k : Key) : '=' ∉ k.name.toList := by
  cases k <;> decide

theorem splitPiece_pair (k : Key) (v : List Char) : splitPiece (pair k v) = some (k.name.toList, v) :=
  splitPiece_append (equals_not_mem_name k)

theorem named?_name (k : Key) : Key.named? k.name.toList = some k := by
  cases k <;> rfl

theorem eq_name_of_named? {name : List Char} {k : Key} (h : Key.named? name = some k) :
    name = k.name.toList := by
  have := List.find?_some h
  exact (beq_iff_eq.mp this).symm

theorem pair_inj {k k' : Key} {v v' : List Char} : pair k v = pair k' v' ↔ k = k' ∧ v = v' := by
  refine ⟨fun h => ?_, fun ⟨hk, hv⟩ => by rw [hk, hv]⟩
  have hsplit : some (k.name.toList, v) = some (k'.name.toList, v') := by
    rw [← splitPiece_pair, ← splitPiece_pair, h]
  obtain ⟨hname, hv⟩ := Prod.mk.inj (Option.some.inj hsplit)
  have hkey : some k = some k' := by rw [← named?_name, ← named?_name, hname]
  exact ⟨Option.some.inj hkey, hv⟩

theorem ofDigits_eq (n : Nat) (ds : List Char) : Number.ofDigits n ds = Nat.ofDigitChars 10 ds n := by
  rw [Nat.ofDigitChars_eq_foldl, Number.ofDigits]
  congr 1
  funext m d
  rw [Nat.mul_comm]
  rfl

theorem digits?_eq_some_iff {most n : Nat} {ds : List Char} :
    Number.digits? most ds = some n ↔ ds ≠ [] ∧ (∀ d ∈ ds, d.isDigit = true) ∧
      Nat.ofDigitChars 10 ds 0 = n ∧ n ≤ most := by
  rw [Number.digits?, ofDigits_eq]
  by_cases hds : ds.isEmpty || !ds.all Char.isDigit
  · rw [if_pos hds]
    refine iff_of_false nofun ?_
    rintro ⟨hne, hall, -⟩
    rw [List.all_eq_true.mpr hall, List.isEmpty_eq_false_iff.mpr hne] at hds
    cases hds
  · rw [if_neg hds]
    simp only [Bool.or_eq_true, Bool.not_eq_true', not_or, Bool.not_eq_true, Bool.not_eq_false,
      List.isEmpty_eq_false_iff, List.all_eq_true] at hds
    by_cases hmost : Nat.ofDigitChars 10 ds 0 ≤ most
    · rw [if_pos hmost, Option.some.injEq]
      exact ⟨fun h => ⟨hds.1, hds.2, h, h ▸ hmost⟩, fun h => h.2.2.1⟩
    · rw [if_neg hmost]
      refine iff_of_false nofun ?_
      rintro ⟨-, -, rfl, hle⟩
      exact hmost hle

theorem natural?_eq_some_iff {v : List Char} {n : Nat} :
    Number.natural? lastPort v = some n ↔ IsPort v n := by
  unfold Number.natural?
  constructor
  · intro h
    split at h
    · rename_i ds
      exact ⟨ds, Or.inr rfl, digits?_eq_some_iff.mp h⟩
    · exact ⟨v, Or.inl rfl, digits?_eq_some_iff.mp h⟩
  · rintro ⟨ds, rfl | rfl, hds⟩
    · split
      · -- A plus sign is no digit.
        rename_i ds
        exact absurd (hds.2.1 '+' List.mem_cons_self) (by decide)
      · exact digits?_eq_some_iff.mpr hds
    · exact digits?_eq_some_iff.mpr hds

theorem isPort_toDigits {n : Nat} (h : n ≤ 65535) : IsPort (Nat.toDigits 10 n) n :=
  ⟨_, Or.inl rfl, Nat.toDigits_ne_nil,
    fun _ hd => Nat.isDigit_of_mem_toDigits (by decide) (by decide) hd,
    Nat.ofDigitChars_ten_toDigits, h⟩

theorem IsPort.unique {v : List Char} {m n : Nat} (hm : IsPort v m) (hn : IsPort v n) : m = n :=
  Option.some.inj ((natural?_eq_some_iff.mpr hm).symm.trans (natural?_eq_some_iff.mpr hn))

/-! ## One piece -/

/-- A piece without a key, one with a key that counts, or one with another. -/
theorem piece_cases (p : List Char) :
    splitPiece p = none ∧ '=' ∉ p ∨ (∃ k v, p = pair k v) ∨
      ∃ name v, splitPiece p = some (name, v) ∧ Key.named? name = none ∧ ∀ k w, p ≠ pair k w := by
  cases hp : splitPiece p with
  | none => exact Or.inl ⟨rfl, splitPiece_eq_none_iff.mp hp⟩
  | some x =>
    obtain ⟨name, v⟩ := x
    obtain ⟨rfl, -⟩ := eq_append_of_splitPiece hp
    refine Or.inr ?_
    cases hk : Key.named? name with
    | some k => exact Or.inl ⟨k, v, by rw [eq_name_of_named? hk]; rfl⟩
    | none =>
      refine Or.inr ⟨name, v, rfl, hk, fun k w h => ?_⟩
      rw [h, splitPiece_pair] at hp
      obtain ⟨rfl, -⟩ := Prod.mk.inj (Option.some.inj hp)
      rw [named?_name] at hk
      cases hk

variable {s t : Settings} {p : List Char} {ps : List (List Char)} {k : Key} {v : List Char}
  {e : ConfigProblem}

theorem equals_mem_pair : '=' ∈ pair k v := List.mem_append_right _ List.mem_cons_self

namespace Settings

theorem Holds.exists_isPort (h : s.Holds .port (some v)) : ∃ n, IsPort v n := by
  change Option.Rel IsPort (some v) s.port at h
  cases hn : s.port with
  | none =>
    rw [hn] at h
    cases h
  | some n =>
    rw [hn] at h
    cases h with
    | some h => exact ⟨n, h⟩

/-- What is set for other keys stays as it is. -/
def Keeps (k : Key) (s t : Settings) : Prop := ∀ k' w, k' ≠ k → s.Holds k' w → t.Holds k' w

/-- A piece with a key that counts sets what it gives to the key, and nothing else. -/
theorem set_pair (s : Settings) (k : Key) (v : List Char) :
    (k = .port ∧ (∀ n, ¬IsPort v n) ∧ s.set (pair k v) = .error (.invalidPort (String.ofList v))) ∨
      ∃ t, s.set (pair k v) = .ok t ∧ t.Holds k (some v) ∧ Keeps k s t := by
  unfold Settings.set
  rw [splitPiece_pair]
  simp only [named?_name]
  cases k with
  | port =>
    cases hn : Number.natural? lastPort v with
    | none =>
      refine Or.inl ⟨rfl, fun n h => ?_, rfl⟩
      rw [natural?_eq_some_iff.mpr h] at hn
      cases hn
    | some n =>
      refine Or.inr ⟨_, rfl, .some (natural?_eq_some_iff.mp hn), fun k' w hne hs => ?_⟩
      cases k' <;> first | exact hs | exact absurd rfl hne
  | _ =>
    refine Or.inr ⟨_, rfl, rfl, fun k' w hne hs => ?_⟩
    cases k' <;> first | exact hs | exact absurd rfl hne

theorem set_eq_error_iff : s.set p = .error e ↔ Refused p e := by
  constructor
  · intro h
    rcases piece_cases p with ⟨hsplit, hp⟩ | ⟨k, v, rfl⟩ | ⟨name, v, hsplit, hk, -⟩
    · rw [Settings.set, hsplit] at h
      cases h
      exact .keyless hp
    · rcases set_pair s k v with ⟨rfl, hv, hset⟩ | ⟨t, hset, -⟩
      · rw [hset] at h
        cases h
        exact .port hv
      · rw [hset] at h
        cases h
    · rw [Settings.set, hsplit] at h
      simp only [hk] at h
      cases h
  · rintro (hp | hv)
    · rw [Settings.set, splitPiece_eq_none_iff.mpr hp]
    · rename_i v
      rcases set_pair s .port v with ⟨-, -, hset⟩ | ⟨t, -, hholds, -⟩
      · exact hset
      · obtain ⟨n, hn⟩ := hholds.exists_isPort
        exact absurd hn (hv n)

/-- A piece that is taken sets its value if its key counts, and leaves everything else. -/
theorem holds_of_set (h : s.set p = .ok t) (k : Key) :
    (∀ v, p = pair k v → t.Holds k (some v)) ∧
      ((∀ v, p ≠ pair k v) → ∀ w, s.Holds k w → t.Holds k w) := by
  rcases piece_cases p with ⟨hsplit, -⟩ | ⟨k', v, rfl⟩ | ⟨name, v, hsplit, hk, hother⟩
  · rw [Settings.set, hsplit] at h
    cases h
  · rcases set_pair s k' v with ⟨-, -, hset⟩ | ⟨t', hset, hholds, hkeeps⟩
    · rw [hset] at h
      cases h
    · obtain rfl : t' = t := Except.ok.inj (hset.symm.trans h)
      refine ⟨fun w hw => ?_, fun hne w hs => hkeeps k w ?_ hs⟩
      · obtain ⟨rfl, rfl⟩ := pair_inj.mp hw
        exact hholds
      · rintro rfl
        exact hne v rfl
  · rw [Settings.set, hsplit] at h
    simp only [hk] at h
    cases h
    exact ⟨fun w hw => absurd hw (hother k w), fun _ _ hs => hs⟩

theorem legible_iff : Legible p ↔ ∀ e, ¬Refused p e := by
  constructor
  · rintro ⟨hequals, hport⟩ e (hp | hv)
    · exact hp hequals
    · obtain ⟨n, hn⟩ := hport _ rfl
      exact hv n hn
  · intro h
    refine ⟨?_, ?_⟩
    · by_contra hp
      exact h _ (.keyless hp)
    · rintro v rfl
      by_contra hv
      exact h _ (.port (not_exists.mp hv))

theorem exists_set_iff : (∃ t, s.set p = .ok t) ↔ Legible p := by
  rw [legible_iff]
  cases h : s.set p with
  | error e => exact iff_of_false nofun fun hp => hp e (set_eq_error_iff.mp h)
  | ok t =>
    refine iff_of_true ⟨t, rfl⟩ fun e he => ?_
    rw [set_eq_error_iff.mpr he] at h
    cases h

/-! ## Pieces in order -/

theorem setAll_cons (s : Settings) (p : List Char) (ps : List (List Char)) :
    s.setAll (p :: ps) = (s.set p).bind fun t => t.setAll ps := by
  rw [setAll]
  cases s.set p <;> rfl

theorem setAll_append (s : Settings) (ps qs : List (List Char)) :
    s.setAll (ps ++ qs) = (s.setAll ps).bind fun t => t.setAll qs := by
  induction ps generalizing s with
  | nil => rfl
  | cons p ps ih =>
    rw [List.cons_append, setAll_cons, setAll_cons]
    cases s.set p with
    | error e => rfl
    | ok t => exact ih t

theorem exists_setAll_iff : (∃ t, s.setAll ps = .ok t) ↔ ∀ p ∈ ps, Legible p := by
  induction ps generalizing s with
  | nil => exact iff_of_true ⟨s, rfl⟩ (List.forall_mem_nil _)
  | cons p ps ih =>
    rw [List.forall_mem_cons, ← exists_set_iff (s := s), setAll_cons]
    cases s.set p with
    | error e => exact iff_of_false nofun fun h => nomatch h.1
    | ok t => exact ⟨fun h => ⟨⟨t, rfl⟩, ih.mp h⟩, fun h => ih.mpr h.2⟩

/-- The first piece that is not taken is complained of. -/
theorem refused_of_setAll (h : s.setAll ps = .error e) :
    ∃ before p after, ps = before ++ p :: after ∧ (∀ q ∈ before, Legible q) ∧ Refused p e := by
  induction ps generalizing s with
  | nil => cases h
  | cons p ps ih =>
    rw [setAll_cons] at h
    cases hp : s.set p with
    | error d =>
      rw [hp] at h
      cases h
      exact ⟨[], p, ps, rfl, List.forall_mem_nil _, set_eq_error_iff.mp hp⟩
    | ok t =>
      rw [hp] at h
      obtain ⟨before, q, after, rfl, hbefore, hq⟩ := ih h
      exact ⟨p :: before, q, after, rfl,
        List.forall_mem_cons.mpr ⟨exists_set_iff.mp ⟨t, hp⟩, hbefore⟩, hq⟩

end Settings

theorem LastValue.snoc_pair (k : Key) (v : List Char) (ps : List (List Char)) :
    LastValue k (ps ++ [pair k v]) (some v) := ⟨ps, [], rfl, fun _ => List.not_mem_nil⟩

theorem LastValue.snoc {w : Option (List Char)} (h : LastValue k ps w) (hp : ∀ v, p ≠ pair k v) :
    LastValue k (ps ++ [p]) w := by
  have hnot {qs : List (List Char)} (hqs : ∀ v, pair k v ∉ qs) (v : List Char) :
      pair k v ∉ qs ++ [p] := fun hmem =>
    (List.mem_append.mp hmem).elim (hqs v) fun hlast => hp v (List.mem_singleton.mp hlast).symm
  cases w with
  | none => exact hnot h
  | some v =>
    obtain ⟨before, after, rfl, hafter⟩ := h
    exact ⟨before, after ++ [p], by rw [List.append_assoc, List.cons_append], hnot hafter⟩

namespace Settings

/-- **After all pieces, what is set for a key is the value of the last piece with it.** -/
theorem holds_of_ofPieces (h : ofPieces ps = .ok t) (k : Key) :
    ∃ w, LastValue k ps w ∧ t.Holds k w := by
  induction ps using List.reverseRecOn generalizing t with
  | nil =>
    cases h
    refine ⟨none, fun _ => List.not_mem_nil, ?_⟩
    cases k <;> first | rfl | exact .none
  | append_singleton ps p ih =>
    rw [ofPieces, setAll_append] at h
    cases hps : empty.setAll ps with
    | error e =>
      rw [hps] at h
      cases h
    | ok s =>
      rw [hps] at h
      have hset : s.set p = .ok t := by
        change s.setAll [p] = .ok t at h
        rw [setAll_cons] at h
        cases hp : s.set p with
        | error e =>
          rw [hp] at h
          cases h
        | ok u =>
          rw [hp] at h
          exact h
      obtain ⟨w, hw, hs⟩ := ih hps
      obtain ⟨hpair, hother⟩ := holds_of_set hset k
      by_cases hp : ∃ v, p = pair k v
      · obtain ⟨v, rfl⟩ := hp
        exact ⟨some v, .snoc_pair k v ps, hpair v rfl⟩
      · exact ⟨w, hw.snoc (not_exists.mp hp), hother (not_exists.mp hp) w hs⟩

/-! ## Settings written as pieces -/

theorem pair_mem_pieces : pair k v ∈ s.pieces ↔ s.written k = some v := by
  have hall (k : Key) : k ∈ Key.all := by cases k <;> decide
  rw [pieces, List.mem_filterMap]
  constructor
  · rintro ⟨k', -, hk'⟩
    obtain ⟨v', hv', heq⟩ := Option.map_eq_some_iff.mp hk'
    obtain ⟨rfl, rfl⟩ := pair_inj.mp heq
    exact hv'
  · exact fun h => ⟨k, hall k, Option.map_eq_some_iff.mpr ⟨v, h, rfl⟩⟩

theorem mem_pieces (h : p ∈ s.pieces) : ∃ k v, p = pair k v ∧ s.written k = some v := by
  obtain ⟨k, -, hk⟩ := List.mem_filterMap.mp h
  obtain ⟨v, hv, rfl⟩ := Option.map_eq_some_iff.mp hk
  exact ⟨k, v, rfl, hv⟩

theorem isPort_of_written (hport : ∀ n, s.port = some n → n ≤ 65535) (h : s.written .port = some v) :
    ∃ n, IsPort v n := by
  obtain ⟨n, hn, rfl⟩ := Option.map_eq_some_iff.mp h
  exact ⟨n, isPort_toDigits (hport n hn)⟩

/-- Settings are known from what they are written as. -/
theorem eq_of_holds_written (hport : ∀ n, s.port = some n → n ≤ 65535)
    (h : ∀ k, t.Holds k (s.written k)) : t = s := by
  have htext (o : Option String) : (o.map String.toList).map String.ofList = o := by
    cases o <;> simp
  obtain ⟨host, port, user, password, database⟩ := t
  obtain rfl : host = s.host := (h .host).trans (htext s.host)
  obtain rfl : user = s.user := (h .user).trans (htext s.user)
  obtain rfl : password = s.password := (h .password).trans (htext s.password)
  obtain rfl : database = s.database := (h .database).trans (htext s.database)
  obtain rfl : port = s.port := by
    have hrel : Option.Rel IsPort (s.port.map (Nat.toDigits 10)) port := h .port
    cases hn : s.port with
    | none =>
      rw [hn] at hrel
      cases hrel
      rfl
    | some n =>
      rw [hn] at hrel
      cases hrel with
      | some hm => rw [hm.unique (isPort_toDigits (hport n hn))]
  rfl

/-- **Settings are read back from their pieces**, in any order, among pieces with other keys. -/
theorem ofPieces_written {others : List (List Char)} (hport : ∀ n, s.port = some n → n ≤ 65535)
    (hothers : ∀ p ∈ others, '=' ∈ p ∧ ∀ k v, p ≠ pair k v) (hps : ps.Perm (s.pieces ++ others)) :
    ofPieces ps = .ok s := by
  have hpair (k : Key) (v : List Char) : pair k v ∈ ps ↔ s.written k = some v := by
    rw [hps.mem_iff, List.mem_append, pair_mem_pieces]
    exact or_iff_left fun h => (hothers _ h).2 k v rfl
  have hlegible : ∀ p ∈ ps, Legible p := by
    intro p hp
    refine ⟨?_, ?_⟩
    · rcases List.mem_append.mp (hps.mem_iff.mp hp) with hp | hp
      · obtain ⟨k, v, rfl, -⟩ := mem_pieces hp
        exact equals_mem_pair
      · exact (hothers p hp).1
    · rintro v rfl
      exact isPort_of_written hport ((hpair .port v).mp hp)
  obtain ⟨t, ht⟩ := exists_setAll_iff (s := empty).mpr hlegible
  obtain rfl : t = s := eq_of_holds_written hport fun k => by
    obtain ⟨w, hw, hholds⟩ := holds_of_ofPieces ht k
    cases w with
    | none =>
      have hnone : s.written k = none :=
        Option.eq_none_iff_forall_ne_some.mpr fun v hv => hw v ((hpair k v).mpr hv)
      rwa [hnone]
    | some v =>
      obtain ⟨before, after, rfl, -⟩ := hw
      rwa [(hpair k v).mp (List.mem_append_right _ List.mem_cons_self)]
  exact ht

end Settings

/-! ## Connection strings -/

/-- What is made of a text that holds some pieces between blanks. -/
structure Understood (text : String) (ps : List (List Char)) : Prop where
  /-- It is understood exactly if every piece is taken. -/
  ok_iff : (∃ c, Connection.ofText text = .ok c) ↔ ∀ p ∈ ps, Legible p
  /-- Then it is settings, in which every key has the value of the last piece with it. -/
  holds : ∀ c, Connection.ofText text = .ok c →
    ∃ s, c = .settings s ∧ ∀ k, ∃ w, LastValue k ps w ∧ s.Holds k w
  /-- If it is not, the first piece that is not taken is complained of. -/
  refused : ∀ e, Connection.ofText text = .error e →
    ∃ before p after, ps = before ++ p :: after ∧ (∀ q ∈ before, Legible q) ∧ Refused p e
  /-- The store that it is meant for is then refused as a configuration. -/
  config : ∀ (r : Config.Records) (e : ConfigProblem), r.kind = .postgres →
    r.connection = some text → Connection.ofText text = .error e →
      Source.ofRecords r = .error (.error (.config e))
  /-- Pieces that write settings are understood as these, whatever their order, and whatever pieces
  with other keys there are besides. -/
  written : ∀ (s : Settings) (others : List (List Char)), (∀ n, s.port = some n → n ≤ 65535) →
    (∀ p ∈ others, '=' ∈ p ∧ ∀ k v, p ≠ pair k v) → ps.Perm (s.pieces ++ others) →
      Connection.ofText text = .ok (.settings s)

theorem ofText_eq {text : String} (h : ∀ scheme ∈ schemes, ¬scheme.toList <+: Text.trim text.toList)
    (hps : Text.Spaced ps text.toList) :
    Connection.ofText text = (Settings.ofPieces ps).map .settings := by
  have haddress : isAddress (Text.trim text.toList) = false := by
    rw [isAddress, List.any_eq_false]
    exact fun scheme hscheme hprefix => h scheme hscheme (List.isPrefixOf_iff_prefix.mp hprefix)
  rw [Connection.ofText]
  simp only [haddress, Bool.false_eq_true, if_false, Text.words_trim, hps.words_eq]

/-- **A connection string that is no address is understood by its pieces**, and every text holds
some. -/
theorem settings_understood {text : String}
    (h : ∀ scheme ∈ schemes, ¬scheme.toList <+: Text.trim text.toList) :
    (∃ ps, Text.Spaced ps text.toList) ∧
      ∀ ps, Text.Spaced ps text.toList → Understood text ps := by
  refine ⟨Text.exists_spaced text.toList, fun ps hps => ?_⟩
  have htext := ofText_eq h hps
  constructor
  case ok_iff =>
    rw [← Settings.exists_setAll_iff (s := .empty), htext, Settings.ofPieces]
    cases Settings.empty.setAll ps with
    | error e => exact iff_of_false nofun nofun
    | ok s => exact iff_of_true ⟨_, rfl⟩ ⟨s, rfl⟩
  case holds =>
    intro c hc
    rw [htext] at hc
    cases hs : Settings.ofPieces ps with
    | error e =>
      rw [hs] at hc
      cases hc
    | ok s =>
      rw [hs] at hc
      cases hc
      exact ⟨s, rfl, Settings.holds_of_ofPieces hs⟩
  case refused =>
    intro e he
    rw [htext] at he
    cases hs : Settings.ofPieces ps with
    | error d =>
      rw [hs] at he
      cases he
      exact Settings.refused_of_setAll hs
    | ok s =>
      rw [hs] at he
      cases he
  case config =>
    intro r e hkind hconnection he
    have haccess : Access.ofText text = .error e := by rw [Access.ofText, he]
    simp only [Source.ofRecords, hkind, hconnection, haccess]
  case written =>
    intro s others hport hothers hperm
    rw [htext, Settings.ofPieces_written hport hothers hperm]
    rfl

/-- Settings between all kinds of blanks, one of them twice and one under a key that does not count. -/
def messy : String := " host=db\tport=+5433 sslmode=off password=p=q \u00a0\n host=db2 "

theorem settings_understood_messy :
    (∀ scheme ∈ schemes, ¬scheme.toList <+: Text.trim messy.toList) ∧
      (∃ ps, Text.Spaced ps messy.toList ∧ Understood messy ps) ∧
      Connection.ofText messy =
        .ok (.settings ⟨some "db2", some 5433, none, some "p=q", none⟩) := by
  have h : ∀ scheme ∈ schemes, ¬scheme.toList <+: Text.trim messy.toList := by decide +kernel
  obtain ⟨⟨ps, hps⟩, hunderstood⟩ := settings_understood h
  exact ⟨h, ⟨ps, hps, hunderstood ps hps⟩, by decide +kernel⟩

end Acceptance.Store
