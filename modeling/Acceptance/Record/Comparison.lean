import Acceptance.Record.Fingerprint

/-!
# Comparing records (specification, section 4.5)

What a destination was given and what it gave back are compared as multisets: the order does not
matter, and duplicates count.

* `Comparison`: the records that are missing, and those that were not expected.
* `compare`: each actual record cancels an expected one of its fingerprint.
* `Comparison.message`: the text of a comparison.

Results:
* `isMatch_iff`: a comparison is a match when nothing is left on either side.
-/

namespace Acceptance.Record

/-- The outcome of a comparison. -/
structure Comparison where
  missing : List Json
  unexpected : List Json
deriving Repr

/-- The expected records, each with its fingerprint, without the last one of a fingerprint. -/
def cancel (key : String) : List (String × Json) → Option (List (String × Json))
  | [] => none
  | p :: r =>
    match cancel key r with
    | some r => some (p :: r)
    | none => if p.1 = key then some r else none

/-- Cancels an expected record for every actual one; gives the expected records that are left and the
actual ones that cancelled nothing. -/
def settle : List (String × Json) → List Json → List (String × Json) × List Json
  | expected, [] => (expected, [])
  | expected, v :: r =>
    match cancel (fingerprint v) expected with
    | some expected => settle expected r
    | none =>
      let (left, unexpected) := settle expected r
      (left, v :: unexpected)

/-- Compares records as multisets (section 4.5). The missing ones are listed by their
fingerprints. -/
def compare (expected actual : List Json) : Comparison :=
  let (left, unexpected) := settle (expected.map fun v => (fingerprint v, v)) actual
  ⟨(left.mergeSort fun a b => a.1 ≤ b.1).map (·.2), unexpected⟩

namespace Comparison

/-- Whether nothing is missing and nothing was unexpected. -/
def isMatch (c : Comparison) : Bool := c.missing.isEmpty && c.unexpected.isEmpty

/-- The first of some records, with what it is. -/
def firstOf (what : String) : List Json → String
  | [] => ""
  | v :: _ => "; first " ++ what ++ ": " ++ v.render

/-- The text of a comparison. -/
def message (c : Comparison) : String :=
  if c.isMatch then "records match"
  else
    toString c.missing.length ++ " missing, " ++ toString c.unexpected.length ++ " unexpected" ++
      firstOf "missing" c.missing ++ firstOf "unexpected" c.unexpected

theorem isMatch_iff {c : Comparison} : c.isMatch = true ↔ c.missing = [] ∧ c.unexpected = [] := by
  simp [isMatch]

end Comparison

end Acceptance.Record
