import Acceptance.Message.Lines
import Acceptance.Proofs.Text.Lines

/-!
# Noise in output

A destination may print lines that are no messages between those that are.

* `Noise`: the octets of a line that is no message.
* `StartsLine`: what stands before a place at which a line starts.

Results:
* `ofOutput_append`: the messages up to a line feed, and those behind it.
* `ofOutput_noise`: noise leaves the messages of an output as they are.
-/

namespace Acceptance.Message

open Text.Utf8 (decodeLossy)

/-- Octets without a line feed which, as characters and without blanks around them, are no message. -/
structure Noise (n : List UInt8) : Prop where
  newline_not_mem : 0x0a ∉ n
  no_message (m : Message) : ofLine (Text.trim (decodeLossy n)) ≠ .ok m

/-- Behind these octets a line starts. -/
def StartsLine (before : List UInt8) : Prop := before = [] ∨ ∃ b, before = b ++ [0x0a]

theorem ofOutputLine_congr {l u : List Char} (h : Text.trim l = Text.trim u) :
    ofOutputLine l = ofOutputLine u := by
  rw [ofOutputLine, ofOutputLine, h]

theorem Noise.ofOutputLine_eq {n : List UInt8} (h : Noise n) :
    ofOutputLine (decodeLossy n) = none := by
  simp only [ofOutputLine]
  split
  · rfl
  · cases hline : ofLine (Text.trim (decodeLossy n)) with
    | error f => rfl
    | ok m => exact absurd hline (h.no_message m)

/-- **The messages up to a line feed and behind it** come from the octets up to there and behind
it. -/
theorem ofOutput_append (xs ys : List UInt8) :
    ofOutput (decodeLossy (xs ++ 0x0a :: ys)) =
      ofOutput (decodeLossy xs ++ ['\n']) ++ ofOutput (decodeLossy ys) := by
  rw [Text.Utf8.decodeLossy_append_newline, ofOutput, Text.lines_append, List.filterMap_append]
  rfl

/-- A line has the message that it has without its line end. -/
theorem ofOutput_newline {l : List Char} (h : '\n' ∉ l) :
    ofOutput (l ++ ['\n']) = (ofOutputLine l).toList := by
  obtain ⟨u, hu, hl⟩ := Text.lines_newline h
  have hline : ofOutputLine l = ofOutputLine u := by
    rcases hl with rfl | rfl
    · rfl
    · exact ofOutputLine_congr (Text.trim_append_blank u (by decide))
  rw [ofOutput, hu, hline]
  cases hm : ofOutputLine u with
  | none => exact List.filterMap_cons_none hm
  | some m => exact List.filterMap_cons_some hm

theorem Noise.ofOutput_eq {n : List UInt8} (h : Noise n) :
    ofOutput (decodeLossy n ++ ['\n']) = [] := by
  rw [ofOutput_newline (Text.Utf8.newline_not_mem_decodeLossy h.newline_not_mem),
    h.ofOutputLine_eq]
  rfl

/-- **Noise leaves the messages of an output as they are**, at whatever place it starts a line. -/
theorem ofOutput_noise {before n : List UInt8} (hb : StartsLine before) (hn : Noise n)
    (after : List UInt8) :
    ofOutput (decodeLossy (before ++ (n ++ 0x0a :: after))) =
      ofOutput (decodeLossy (before ++ after)) := by
  have hnoise : ofOutput (decodeLossy (n ++ 0x0a :: after)) = ofOutput (decodeLossy after) := by
    rw [ofOutput_append, hn.ofOutput_eq, List.nil_append]
  rcases hb with rfl | ⟨b, rfl⟩
  · exact hnoise
  · rw [List.append_assoc, List.append_assoc, List.singleton_append, List.singleton_append,
      ofOutput_append b, ofOutput_append b, hnoise]

end Acceptance.Message
