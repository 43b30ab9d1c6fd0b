/-!
# Octets and characters

Reading text out of octets that need not be valid UTF-8.

* `State`, `step`: the reader, an octet at a time. It holds the part of a character read so far.
* `octetCount`: the length of a text in octets.
* `decodeLossy`: every maximal stretch that no character starts with becomes U+FFFD.
* `encode`, `decode?`: the octets of a text, and the text of octets, if there is one.

Results:
* `scan_append_ascii`: an octet below `0x80` always ends what came before it, so whatever follows it
  is read from a fresh start.
* `decode?_eq_some_iff`: octets stand for a text exactly if they are the octets of the text.
-/

namespace Acceptance.Text.Utf8

/-- A character under way: its bits so far, the octets still owed, and the range of the next one. -/
structure Pending where
  bits : Nat
  owed : Nat
  low : Nat
  high : Nat
deriving DecidableEq, Repr

/-- Between characters, or inside one. -/
abbrev State := Option Pending

/-- The character that stands for octets that form none. -/
def replacement : Char := Char.ofNat 0xfffd

/-- The first octet of a character: the characters it completes, and the state after it. -/
def start (b : Nat) : List Char × State :=
  if b < 0x80 then ([Char.ofNat b], none)
  else if 0xc2 ≤ b ∧ b ≤ 0xdf then ([], some ⟨b - 0xc0, 1, 0x80, 0xbf⟩)
  else if b = 0xe0 then ([], some ⟨0, 2, 0xa0, 0xbf⟩)
  else if b = 0xed then ([], some ⟨0xd, 2, 0x80, 0x9f⟩)
  else if 0xe1 ≤ b ∧ b ≤ 0xef then ([], some ⟨b - 0xe0, 2, 0x80, 0xbf⟩)
  else if b = 0xf0 then ([], some ⟨0, 3, 0x90, 0xbf⟩)
  else if b = 0xf4 then ([], some ⟨4, 3, 0x80, 0x8f⟩)
  else if 0xf1 ≤ b ∧ b ≤ 0xf3 then ([], some ⟨b - 0xf0, 3, 0x80, 0xbf⟩)
  else ([replacement], none)

/-- One octet: an octet that cannot continue the character under way replaces it, and is read as a
first octet. -/
def step : State → Nat → List Char × State
  | none, b => start b
  | some p, b =>
    if p.low ≤ b ∧ b ≤ p.high then
      let bits := p.bits * 64 + (b - 0x80)
      if p.owed ≤ 1 then ([Char.ofNat bits], none)
      else ([], some ⟨bits, p.owed - 1, 0x80, 0xbf⟩)
    else
      let (cs, s) := start b
      (replacement :: cs, s)

/-- The characters of a sequence of octets, from a state. -/
def scan : State → List UInt8 → List Char
  | none, [] => []
  | some _, [] => [replacement]
  | s, b :: r => (step s b.toNat).1 ++ scan (step s b.toNat).2 r

/-- The characters of a sequence of octets. -/
def decodeLossy (bytes : List UInt8) : List Char := scan none bytes

/-- The text that a sequence of octets stands for, if it is valid. -/
def decode? (bytes : List UInt8) : Option String := String.fromUTF8? ⟨bytes.toArray⟩

/-- The octets of a text. -/
def encode (s : String) : List UInt8 := s.toUTF8.data.toList

/-- The number of octets of a text. -/
def octetCount : List Char → Nat
  | [] => 0
  | c :: r => c.utf8Size + octetCount r

/-- The pending character of a state that has one expects an octet above the ASCII range. -/
def Continues (s : State) : Prop := ∀ p ∈ s, 0x80 ≤ p.low

theorem continues_none : Continues none := by simp [Continues]

theorem continues_some {p : Pending} (h : 0x80 ≤ p.low) : Continues (some p) := by
  simpa [Continues] using h

theorem continues_start (b : Nat) : Continues (start b).2 := by
  unfold start
  repeat' split
  all_goals first
    | exact continues_none
    | exact continues_some (by simp)

theorem continues_step (s : State) (b : Nat) : Continues (step s b).2 := by
  cases s with
  | none => exact continues_start b
  | some q =>
    simp only [step]
    split
    · split
      · exact continues_none
      · exact continues_some (by simp)
    · exact continues_start b

/-- What the reader gives at an octet below `0x80`: whatever was under way is replaced. -/
theorem step_ascii (s : State) (b : Nat) (h : b < 0x80)
    (hs : Continues s) :
    step s b = ((if s.isSome then [replacement] else []) ++ [Char.ofNat b], none) := by
  cases s with
  | none => simp [step, start, h]
  | some p =>
    have : 0x80 ≤ p.low := hs p rfl
    have hlt : ¬ (p.low ≤ b ∧ b ≤ p.high) := by omega
    simp [step, start, h, hlt]

theorem scan_cons (s : State) (b : UInt8) (r : List UInt8) :
    scan s (b :: r) = (step s b.toNat).1 ++ scan (step s b.toNat).2 r := by
  cases s <;> rfl

theorem scan_append_ascii (s : State) (hs : Continues s)
    (xs : List UInt8) (b : UInt8) (h : b.toNat < 0x80) (ys : List UInt8) :
    scan s (xs ++ b :: ys) = scan s xs ++ Char.ofNat b.toNat :: scan none ys := by
  induction xs generalizing s with
  | nil =>
    rw [List.nil_append, scan.eq_def]
    simp only
    rw [step_ascii s b.toNat h hs]
    cases s <;> simp [scan]
  | cons x r ih =>
    rw [List.cons_append, scan_cons, scan_cons, ih _ (continues_step s x.toNat), List.append_assoc]

theorem decodeLossy_append_ascii (xs : List UInt8) (b : UInt8) (h : b.toNat < 0x80)
    (ys : List UInt8) :
    decodeLossy (xs ++ b :: ys) = decodeLossy xs ++ Char.ofNat b.toNat :: decodeLossy ys :=
  scan_append_ascii none continues_none xs b h ys

theorem decode?_encode (s : String) : decode? (encode s) = some s := by
  have h : (⟨s.toUTF8.data.toList.toArray⟩ : ByteArray) = s.toByteArray := by simp [String.toUTF8]
  simp only [decode?, encode, h]
  simp [String.fromUTF8?, String.fromUTF8, s.isValidUTF8]

theorem decode?_eq_some_iff {octets : List UInt8} {s : String} :
    decode? octets = some s ↔ octets = encode s := by
  refine ⟨fun h => ?_, fun h => h ▸ decode?_encode s⟩
  unfold decode? String.fromUTF8? at h
  split at h
  · obtain rfl := Option.some.inj h
    simp [encode, String.toUTF8, String.fromUTF8]
  · cases h

end Acceptance.Text.Utf8
