import Acceptance.Proofs.Json.Passing
import Acceptance.Proofs.Message.RoundTrip
import Mathlib.Data.List.Forall2

/-!
# The two readers of messages

Files are read strictly: every line is a message as it stands, or blank. Output is read leniently:
white space around a line is trimmed, and what is no message is passed over. White space is more
than the blanks of JSON, yet the readers agree on every line that the strict one takes.

* `written`: the lines that are not blank.
* `AreMessages`: lines and the messages that they are.
* `Agreement`: what the readers make of the same text.

Results:
* `ofOutputLine_of_ofLine`: a line that is a message is that message in output.
* `ofNumberedLines_eq_ok_iff`, `exists_of_ofNumberedLines_eq_error`: what the strict reader takes,
  and which line it complains of.
* `readers_agree`: the readers agree on every file.
-/

namespace Acceptance.Message

/-! ## One line -/

theorem passes_readTime : Json.Passes readTime := by
  intro n x h
  obtain ⟨i, hi, -⟩ := bind_eq_ok_iff.mp h
  exact Json.passes_integerIn _ _ n i hi

theorem passes_recordRead : Json.Passes Record.read :=
  Json.passes_record <| .cons Json.passes_text <| .cons Json.passes_text.maybe <|
    .cons Json.passes_value <| .cons passes_readTime .nil

theorem passes_logRead : Json.Passes Log.read :=
  Json.passes_record <| .cons Json.passes_text <| .cons Json.passes_text .nil

theorem passes_connectionRead : Json.Passes Connection.read :=
  Json.passes_record <| .cons (Json.passes_choice _) <| .cons Json.passes_text.maybe .nil

/-- A message is read of what can be passed over. -/
theorem passes_read : Json.Passes read :=
  Json.passes_record <| .cons (Json.passes_choice _) <| .cons passes_recordRead.maybe <|
    .cons Json.passes_value.maybe <| .cons passes_logRead.maybe <|
    .cons Json.passes_value.maybe <| .cons passes_connectionRead.maybe <|
    .cons Json.passes_value.maybe <| .cons Json.passes_value.maybe .nil

/-- White space around a message makes no difference. -/
theorem ofLine_trim {l : List Char} {m : Message} (h : ofLine l = .ok m) :
    ofLine (Text.trim l) = .ok m := by
  unfold ofLine Json.readText at h ⊢
  rcases ho : Json.outline l with ⟨o, more⟩
  rw [ho] at h
  obtain ⟨m', hread, h⟩ := bind_eq_ok_iff.mp h
  cases more with
  | true => cases h
  | false =>
    cases h
    have htrim := Json.outline_trim ho (passes_read _ _ hread) (Json.compound_of_record hread)
    rw [htrim]
    exact bind_eq_ok_iff.mpr ⟨m, hread, rfl⟩

/-- **A line that is a message is that message in output.** -/
theorem ofOutputLine_of_ofLine {l : List Char} {m : Message} (h : ofLine l = .ok m) :
    ofOutputLine l = some m := by
  have htrim := ofLine_trim h
  simp only [ofOutputLine]
  split
  · rename_i hempty
    rw [List.isEmpty_iff.mp hempty] at htrim
    cases htrim
  · rw [htrim]
    rfl

theorem ofOutputLine_blank {l : List Char} (h : Text.isBlankText l = true) :
    ofOutputLine l = none := by
  rw [ofOutputLine, Text.trim_eq_nil_iff.mpr h]
  rfl

/-! ## Lines -/

/-- The lines that are not blank. -/
def written (ls : List (List Char)) : List (List Char) := ls.filter fun l => !Text.isBlankText l

/-- The lines are the messages, one each. -/
def AreMessages (ls : List (List Char)) (ms : List Message) : Prop :=
  List.Forall₂ (fun l m => ofLine l = .ok m) ls ms

variable {path : String} {n : Nat} {l : List Char} {ls : List (List Char)} {ms : List Message}
  {e : Error}

theorem written_blank (h : Text.isBlankText l = true) (ls : List (List Char)) :
    written (l :: ls) = written ls := by
  simp [written, h]

theorem written_cons (h : Text.isBlankText l = false) (ls : List (List Char)) :
    written (l :: ls) = l :: written ls := by
  simp [written, h]

/-- The messages in the output of lines that are messages or blank. -/
theorem filterMap_of_areMessages (h : AreMessages (written ls) ms) :
    ls.filterMap ofOutputLine = ms := by
  induction ls generalizing ms with
  | nil =>
    cases h
    rfl
  | cons l ls ih =>
    cases hl : Text.isBlankText l with
    | true =>
      rw [written_blank hl] at h
      rw [List.filterMap_cons_none (ofOutputLine_blank hl), ih h]
    | false =>
      rw [written_cons hl] at h
      obtain _ | ⟨hm, h⟩ := h
      rw [List.filterMap_cons_some (ofOutputLine_of_ofLine hm), ih h]

/-- The strict reader takes lines that are messages or blank, and no others. -/
theorem ofNumberedLines_eq_ok_iff :
    ofNumberedLines path n ls = .ok ms ↔ AreMessages (written ls) ms := by
  induction ls generalizing n ms with
  | nil =>
    rw [ofNumberedLines, Except.ok.injEq, eq_comm]
    exact List.forall₂_nil_left_iff.symm
  | cons l ls ih =>
    rw [ofNumberedLines]
    cases hl : Text.isBlankText l with
    | true => rw [if_pos rfl, ih, written_blank hl]
    | false =>
      rw [if_neg (by decide), written_cons hl, AreMessages, List.forall₂_cons_left_iff]
      cases hm : ofLine l with
      | error f => simp
      | ok m =>
        simp only [bind_eq_ok_iff, ih, Except.ok.injEq]
        constructor
        · rintro ⟨ms', h, rfl⟩
          exact ⟨m, ms', rfl, h, rfl⟩
        · rintro ⟨m', ms', rfl, h, rfl⟩
          exact ⟨ms', h, rfl⟩

/-- The line that the strict reader complains of is the first one that is neither a message nor
blank. -/
theorem exists_of_ofNumberedLines_eq_error (h : ofNumberedLines path n ls = .error e) :
    ∃ before l after f ms, ls = before ++ l :: after ∧ AreMessages (written before) ms ∧
      Text.isBlankText l = false ∧ ofLine l = .error f ∧
      e = .config (.badMessage path (before.length + n) f) := by
  induction ls generalizing n with
  | nil => cases h
  | cons k ls ih =>
    -- The error is that of a later line, or of this one.
    rw [ofNumberedLines] at h
    cases hk : Text.isBlankText k with
    | true =>
      rw [hk, if_pos rfl] at h
      obtain ⟨before, l, after, f, ms, rfl, hms, hl, hf, rfl⟩ := ih h
      refine ⟨k :: before, l, after, f, ms, rfl, ?_, hl, hf, ?_⟩
      · rw [written_blank hk]
        exact hms
      · rw [List.length_cons, Nat.add_right_comm, Nat.add_assoc]
    | false =>
      rw [hk, if_neg (by decide)] at h
      cases hm : ofLine k with
      | error f =>
        rw [hm] at h
        cases h
        exact ⟨[], k, ls, f, [], rfl, .nil, hk, hm, by rw [List.length_nil, Nat.zero_add]⟩
      | ok m =>
        rw [hm] at h
        have hrest : ofNumberedLines path (n + 1) ls = .error e := by
          cases hr : ofNumberedLines path (n + 1) ls with
          | error e' =>
            rw [hr] at h
            cases h
            rfl
          | ok ms =>
            rw [hr] at h
            cases h
        obtain ⟨before, l, after, f, ms, rfl, hms, hl, hf, rfl⟩ := ih hrest
        refine ⟨k :: before, l, after, f, m :: ms, rfl, ?_, hl, hf, ?_⟩
        · rw [written_cons hk]
          exact .cons hm hms
        · rw [List.length_cons, Nat.add_right_comm, Nat.add_assoc]

/-! ## The same text -/

/-- What the readers make of a text and a file that holds it. -/
structure Agreement (path text : String) (machine : Host.Machine) : Prop where
  /-- The messages that are read from the file are those of the output, and every line that is not
  blank is one of them. -/
  taken : ∀ ms, ofFile path machine = .ok ms →
    ofOutput text.toList = ms ∧ AreMessages (written (Text.lines text.toList)) ms
  /-- The strict reader complains of the first line that is neither a message nor blank. The output
  starts with the messages before that line. -/
  refused : ∀ e, ofFile path machine = .error e → ∃ before l after f ms more,
    Text.lines text.toList = before ++ l :: after ∧ AreMessages (written before) ms ∧
      Text.isBlankText l = false ∧ ofLine l = .error f ∧
      e = .config (.badMessage path (before.length + 1) f) ∧ ofOutput text.toList = ms ++ more

/-- **The readers agree** on every text. -/
theorem readers_agree {machine : Host.Machine} {path text : String}
    (hfile : machine.files.read machine.directory path = .ok (Text.Utf8.encode text)) :
    Agreement path text machine := by
  have hof : ofFile path machine = ofNumberedLines path 1 (Text.lines text.toList) := by
    rw [ofFile, readText_of_read hfile]
    rfl
  constructor
  · intro ms h
    rw [hof, ofNumberedLines_eq_ok_iff] at h
    exact ⟨filterMap_of_areMessages h, h⟩
  · intro e h
    rw [hof] at h
    obtain ⟨before, l, after, f, ms, hls, hms, hl, hf, he⟩ := exists_of_ofNumberedLines_eq_error h
    refine ⟨before, l, after, f, ms, (l :: after).filterMap ofOutputLine, hls, hms, hl, hf, he, ?_⟩
    rw [ofOutput, hls, List.filterMap_append, filterMap_of_areMessages hms]

/-- A blank line, a message, and a message behind white space that is no blank of JSON. -/
def spaced : String :=
  " \n \x7b\"type\":\"STATE\"\x7d \r\n\u00a0\x7b\"type\":\"LOG\"\x7d\n"

/-- A machine with a file of that text. -/
def spacedMachine : Host.Machine :=
  .fresh ⟨[(["spaced"], .file (Text.Utf8.encode spaced))]⟩

theorem readers_agree_spaced : Agreement "/spaced" spaced spacedMachine ∧
    (ofFile "/spaced" spacedMachine).toOption.isNone = true ∧
      (ofOutput spaced.toList).length = 2 :=
  ⟨readers_agree rfl, by decide +kernel, by decide +kernel⟩

end Acceptance.Message
