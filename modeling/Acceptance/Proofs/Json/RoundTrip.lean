import Acceptance.Proofs.Json.Parts
import Acceptance.Proofs.Json.Spelling
import Acceptance.Proofs.Json.Strings

/-!
# Values read back

A printed value is read back as the value it was, if its floating-point numbers are and it is not
too deep.

* `outlineOf`: the outline that the text of a value has.

Results:
* `spelled_text`, `outline_text`: the outline of a printed value.
* `value_outlineOf`: the value of such an outline.
* `parse_render`: a value is read back from its text.
-/

namespace Acceptance.Json

mutual

/-- The outline of the text of a value. -/
def outlineOf : Json → Outline
  | null => .null
  | bool b => .bool b
  | num n => .number (.ok n)
  | str s => .string (.ok s)
  | arr xs => .array (outlinesOf xs) none
  | obj ms => .object (membersOf ms) .closed

/-- The outlines of the items of an array. -/
def outlinesOf : List Json → List Outline
  | [] => []
  | x :: r => outlineOf x :: outlinesOf r

/-- The outlines of the members of an object. -/
def membersOf : List (String × Json) → List (Except Fault String × Outline)
  | [] => []
  | (k, x) :: r => (.ok k, outlineOf x) :: membersOf r

end

variable {p : List Char}

/-! ## The outline of a printed value -/

theorem stringText_quoted (s : String) :
    StringText (pieces s) (s.toList.flatMap escape ++ ['"']) := fun t => takeString_quoted s t

theorem memberText_quoted (k : String) {IsValue : List Char → Prop} (h : IsValue p) :
    MemberText (.ok k) IsValue (quoted k ++ ':' :: p) :=
  ⟨pieces k, _, [], [], p, stringText_quoted k, (stringOf_pieces k).symm, nofun, nofun, h, rfl⟩

mutual

/-- **A printed value spells its outline.** -/
theorem spelled_text : (v : Json) → v.Stable → Spelled (outlineOf v) v.text
  | .null, _ => rfl
  | .bool true, _ => rfl
  | .bool false, _ => rfl
  | .num n, hs => by
    obtain ⟨l, hl, hn⟩ := hs.num
    exact ⟨l, spells_of_takeNumber_nil hl, hn.symm⟩
  | .str s, _ => ⟨pieces s, _, stringText_quoted s, (stringOf_pieces s).symm, rfl⟩
  | .arr xs, hs =>
    ⟨rfl, [], _, nofun, spelledItems_text xs fun _ hy => hs.item hy, rfl⟩
  | .obj ms, hs =>
    ⟨rfl, [], _, nofun, spelledMembers_text ms fun _ hn => hs.member hn, rfl⟩

theorem spelledItems_text : (xs : List Json) → (∀ x ∈ xs, x.Stable) →
    outlinesOf xs = [] ∧ textItems xs ++ [']'] = [']'] ∨
      SpelledItems (outlinesOf xs) (textItems xs ++ [']'])
  | [], _ => Or.inl ⟨rfl, rfl⟩
  | [x], hs => Or.inr ⟨x.text, [], spelled_text x (hs x List.mem_cons_self), nofun, rfl⟩
  | x :: y :: r, hs => by
    have hx := spelled_text x (hs x List.mem_cons_self)
    have hr := spelledItems_text (y :: r) fun z hz => hs z (List.mem_cons_of_mem x hz)
    have hr := hr.resolve_left (by simp [outlinesOf])
    exact Or.inr ⟨x.text, [], [], _, hx, nofun, nofun, hr, by simp [textItems]⟩

theorem spelledMembers_text : (ms : List (String × Json)) → (∀ m ∈ ms, m.2.Stable) →
    membersOf ms = [] ∧ textMembers ms ++ [Char.ofNat 0x7d] = [Char.ofNat 0x7d] ∨
      SpelledMembers (membersOf ms) (textMembers ms ++ [Char.ofNat 0x7d])
  | [], _ => Or.inl ⟨rfl, rfl⟩
  | [(k, x)], hs => by
    have hx := spelled_text x (hs (k, x) List.mem_cons_self)
    exact Or.inr ⟨_, [], memberText_quoted k hx, nofun, by simp [textMembers]⟩
  | (k, x) :: m :: r, hs => by
    have hx := spelled_text x (hs (k, x) List.mem_cons_self)
    have hr := spelledMembers_text (m :: r) fun n hn => hs n (List.mem_cons_of_mem (k, x) hn)
    have hr := hr.resolve_left (by simp [membersOf])
    exact Or.inr ⟨_, [], [], _, memberText_quoted k hx, nofun, nofun, hr, by simp [textMembers]⟩

end

/-- **The outline of a text that a value was printed as.** -/
theorem outline_text {v : Json} (h : v.Stable) : outline v.text = (outlineOf v, false) :=
  outline_spelled (spelled_text v h)

/-- What is read from the outline of a printed value is read from its text. -/
theorem readText_text {α : Type} {read : Node → Except Fault α} {x : α} {v : Json} (hs : v.Stable)
    (h : read ⟨maxDepth, outlineOf v⟩ = .ok x) : readText read v.text = .ok x := by
  unfold readText
  rw [outline_text hs]
  exact bind_eq_ok_iff.mpr ⟨x, h, rfl⟩

/-! ## The value of the outline -/

theorem insertMember_append {name : String} {v : Json} {ms : List (String × Json)}
    (h : ∀ m ∈ ms, m.1 < name) : insertMember name v ms = ms ++ [(name, v)] := by
  induction ms with
  | nil => rfl
  | cons m r ih =>
    obtain ⟨k, w⟩ := m
    have hk : k < name := h (k, w) List.mem_cons_self
    have hlt : ¬ name < k := String.lt_asymm hk
    have hne : name ≠ k := by
      rintro rfl
      exact String.lt_irrefl _ hk
    rw [insertMember, if_neg hlt, if_neg hne, ih fun m hm => h m (List.mem_cons_of_mem _ hm)]
    rfl

/-- Members that are in order stay as they are. -/
theorem foldl_insertMember {ms : List (String × Json)} (acc : List (String × Json))
    (h : Ascending (acc ++ ms)) :
    ms.foldl (fun acc m => insertMember m.1 m.2 acc) acc = acc ++ ms := by
  induction ms generalizing acc with
  | nil => rw [List.append_nil]; rfl
  | cons m r ih =>
    have hm : ∀ n ∈ acc, n.1 < m.1 := fun n hn =>
      (List.pairwise_append.mp h).2.2 n hn m List.mem_cons_self
    have happ : acc ++ m :: r = acc ++ [m] ++ r := List.append_cons acc m r
    rw [happ] at h ⊢
    rw [List.foldl_cons, insertMember_append hm]
    exact ih _ h

theorem ofMembers_eq {ms : List (String × Json)} (h : Ascending ms) : ofMembers ms = obj ms := by
  rw [ofMembers, foldl_insertMember [] h]
  rfl

mutual

/-- **The value of the outline of a value** is that value, if it is in order and has the room. -/
theorem value_outlineOf {room : Nat} :
    (v : Json) → v.Ordered → v.depth ≤ room → value room (outlineOf v) = .ok v
  | .null, _, _ => rfl
  | .bool _, _, _ => rfl
  | .num _, _, _ => rfl
  | .str _, _, _ => rfl
  | .arr xs, ho, hd => by
    cases room with
    | zero => simp [depth] at hd
    | succ room =>
      have hx := valueItems_outlinesOf xs (fun x hx => ho.item hx) (Nat.le_of_succ_le_succ hd)
      simp only [outlineOf, value]
      exact bind_eq_ok_iff.mpr ⟨xs, hx, rfl⟩
  | .obj ms, ho, hd => by
    cases room with
    | zero => simp [depth] at hd
    | succ room =>
      have hm := valueMembers_membersOf ms (fun m hm => ho.member hm) (Nat.le_of_succ_le_succ hd)
      simp only [outlineOf, value]
      refine bind_eq_ok_iff.mpr ⟨ms, hm, bind_eq_ok_iff.mpr ⟨(), rfl, ?_⟩⟩
      rw [ofMembers_eq ho.ascending]

theorem valueItems_outlinesOf {room : Nat} :
    (xs : List Json) → (∀ x ∈ xs, x.Ordered) → depthItems xs ≤ room →
      valueItems room (outlinesOf xs) = .ok xs
  | [], _, _ => rfl
  | x :: r, ho, hd => by
    simp only [depthItems, Nat.max_le] at hd
    have hx := value_outlineOf x (ho x List.mem_cons_self) hd.1
    have hr := valueItems_outlinesOf r (fun y hy => ho y (List.mem_cons_of_mem x hy)) hd.2
    simp only [outlinesOf, valueItems]
    exact bind_eq_ok_iff.mpr ⟨x, hx, bind_eq_ok_iff.mpr ⟨r, hr, rfl⟩⟩

theorem valueMembers_membersOf {room : Nat} :
    (ms : List (String × Json)) → (∀ m ∈ ms, m.2.Ordered) → depthMembers ms ≤ room →
      valueMembers room (membersOf ms) = .ok ms
  | [], _, _ => rfl
  | (k, x) :: r, ho, hd => by
    simp only [depthMembers, Nat.max_le] at hd
    have hx := value_outlineOf x (ho (k, x) List.mem_cons_self) hd.1
    have hr := valueMembers_membersOf r (fun m hm => ho m (List.mem_cons_of_mem _ hm)) hd.2
    simp only [membersOf, valueMembers]
    exact bind_eq_ok_iff.mpr
      ⟨k, rfl, bind_eq_ok_iff.mpr ⟨x, hx, bind_eq_ok_iff.mpr ⟨r, hr, rfl⟩⟩⟩

end

/-- **A value is read back from its text**, if its floating-point numbers are, it is in order, and no
more arrays and objects stand inside one another than a reader enters. -/
theorem parse_render {v : Json} (hs : v.Stable) (ho : v.Ordered) (hd : v.depth ≤ maxDepth) :
    parse v.render = .ok v := by
  rw [parse, render, String.toList_ofList]
  exact readText_text hs (value_outlineOf v ho hd)

end Acceptance.Json
