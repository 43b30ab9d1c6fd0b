import Acceptance.Sql

/-!
# Reading a query

A database system reads a query as marks and quoted names. A name runs from a quote to the next one
that is not doubled; a doubled quote inside stands for one.

* `Token`: a character outside quotes, or a name.
* `tokens`: the tokens of a text, unless a name is not closed.
-/

namespace Acceptance.Sql

/-- What a query consists of. -/
inductive Token where
  | mark (c : Char)
  | name (s : String)
deriving DecidableEq, Repr

/-- The tokens of a text, where a name may be open; its characters so far stand in reverse order. -/
def tokensFrom : Option (List Char) → List Char → Option (List Token)
  | none, [] => some []
  | some _, [] => none
  | none, c :: r =>
    if c = '"' then tokensFrom (some []) r else (tokensFrom none r).map (.mark c :: ·)
  | some n, '"' :: '"' :: r => tokensFrom (some ('"' :: n)) r
  | some n, c :: r =>
    if c = '"' then (tokensFrom none r).map (.name (String.ofList n.reverse) :: ·)
    else tokensFrom (some (c :: n)) r

/-- The tokens of a text. -/
def tokens (query : String) : Option (List Token) := tokensFrom none query.toList

/-! ## Names -/

theorem tokensFrom_mark {c : Char} (h : c ≠ '"') (rest : List Char) :
    tokensFrom none (c :: rest) = (tokensFrom none rest).map (.mark c :: ·) := by
  rw [tokensFrom, if_neg h]

theorem tokensFrom_inside {c : Char} (h : c ≠ '"') (n rest : List Char) :
    tokensFrom (some n) (c :: rest) = tokensFrom (some (c :: n)) rest := by
  rw [tokensFrom.eq_5 _ _ _ (fun _ hc _ => h hc), if_neg h]

theorem tokensFrom_close {rest : List Char} (h : rest.head? ≠ some '"') (n : List Char) :
    tokensFrom (some n) ('"' :: rest) =
      (tokensFrom none rest).map (.name (String.ofList n.reverse) :: ·) := by
  rw [tokensFrom.eq_5 n '"' rest (fun r _ hr => h (by rw [hr]; rfl)), if_pos rfl]

theorem tokensFrom_rest {rest : List Char} (h : rest.head? ≠ some '"') (s n : List Char) :
    tokensFrom (some n) (s.flatMap quoteChar ++ '"' :: rest) =
      (tokensFrom none rest).map (.name (String.ofList (n.reverse ++ s)) :: ·) := by
  induction s generalizing n with
  | nil => rw [List.append_nil]; exact tokensFrom_close h n
  | cons c r ih =>
    have step : tokensFrom (some n) ((c :: r).flatMap quoteChar ++ '"' :: rest) =
        tokensFrom (some (c :: n)) (r.flatMap quoteChar ++ '"' :: rest) := by
      by_cases hc : c = '"'
      · rw [hc]
        rfl
      · rw [List.flatMap_cons, quoteChar, if_neg hc]
        exact tokensFrom_inside hc n _
    rw [step, ih, List.reverse_cons, List.append_assoc]
    rfl

theorem tokensFrom_quote {rest : List Char} (h : rest.head? ≠ some '"') (name : String) :
    tokensFrom none ((quote name).toList ++ rest) =
      (tokensFrom none rest).map (.name name :: ·) := by
  simpa [quote, tokensFrom] using tokensFrom_rest h name.toList []

end Acceptance.Sql
