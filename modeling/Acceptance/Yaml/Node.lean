import Acceptance.Yaml.Token

/-!
# Nodes of a YAML document

* `Node`: scalars, sequences, mappings, and aliases of a node that bears an anchor.
* `Node.same`: whether two nodes are one.
* `Document`: a node and the nodes that its aliases stand for. A text without a document has none.
* `document?`: the document of a text that holds at most one.

Results:
* `same_iff`: nodes are compared as a whole.
-/

namespace Acceptance.Yaml

/-- A node. The pairs of a mapping stand in the order of the text. -/
inductive Node where
  | scalar (tag : Option String) (style : Style) (text : String)
  | sequence (items : List Node)
  | mapping (pairs : List (Node × Node))
  | alias (id : Nat)
deriving Repr, Inhabited

namespace Node

/-- The node where nothing is written. -/
def empty : Node := .scalar none .plain ""

mutual

/-- Whether two nodes are one. -/
def same : Node → Node → Bool
  | .scalar t s x, .scalar t' s' x' => t == t' && s == s' && x == x'
  | .sequence xs, .sequence ys => sameItems xs ys
  | .mapping ps, .mapping qs => samePairs ps qs
  | .alias i, .alias j => i == j
  | _, _ => false

/-- Whether the items of two sequences are one. -/
def sameItems : List Node → List Node → Bool
  | [], [] => true
  | x :: xs, y :: ys => x.same y && sameItems xs ys
  | _, _ => false

/-- Whether the pairs of two mappings are one. -/
def samePairs : List (Node × Node) → List (Node × Node) → Bool
  | [], [] => true
  | (k, x) :: ps, (l, y) :: qs => k.same l && x.same y && samePairs ps qs
  | _, _ => false

end

mutual

theorem same_iff : ∀ m n : Node, m.same n = true ↔ m = n
  | .scalar _ _ _, n => by cases n <;> simp [same, and_assoc]
  | .sequence xs, n => by cases n <;> simp [same, sameItems_iff xs]
  | .mapping ps, n => by cases n <;> simp [same, samePairs_iff ps]
  | .alias _, n => by cases n <;> simp [same]

theorem sameItems_iff : ∀ xs ys : List Node, sameItems xs ys = true ↔ xs = ys
  | [], ys => by cases ys <;> simp [sameItems]
  | x :: xs, ys => by cases ys <;> simp [sameItems, same_iff x, sameItems_iff xs]

theorem samePairs_iff : ∀ ps qs : List (Node × Node), samePairs ps qs = true ↔ ps = qs
  | [], qs => by cases qs <;> simp [samePairs]
  | (k, x) :: ps, qs => by
    cases qs <;> simp [samePairs, same_iff k, same_iff x, samePairs_iff ps, Prod.ext_iff]

end

instance : DecidableEq Node := fun m n => decidable_of_iff _ (same_iff m n)

end Node

/-- What is known while nodes are read: the meanings of tag handles, the names of anchors with their
numbers, and the nodes that bear anchors, in the order in which they start. -/
structure Naming where
  handles : List (List Char × List Char)
  anchors : List (List Char × Nat)
  anchored : Array (Nat × Node)

/-- The handles that need no directive. -/
def standardHandles : List (List Char × List Char) :=
  [(['!'], ['!']), (['!', '!'], "tag:yaml.org,2002:".toList)]

namespace Naming

/-- Gives a name to the node that starts now: the number of an anchor is the count of names so far.
Also tells the place of the node among those that bear anchors. -/
def register (name : List Char) (m : Naming) : Nat × Naming :=
  let id := m.anchors.length
  let anchors := m.anchors.filter fun a => a.1 != name
  (m.anchored.size, { m with
    anchors := (name, id) :: anchors, anchored := m.anchored.push (id, Node.empty) })

/-- Gives a name, if there is one. -/
def register? (name : Option (List Char)) (m : Naming) : Option Nat × Naming :=
  match name with
  | none => (none, m)
  | some n => let (place, m) := m.register n; (some place, m)

/-- Records the node that a place stands for. -/
def settle (place : Option Nat) (n : Node) (m : Naming) : Naming :=
  match place with
  | none => m
  | some i => { m with anchored := m.anchored.modify i fun e => (e.1, n) }

/-- The full tag of a handle and a suffix. -/
def tag? (handle suffix : List Char) (m : Naming) : Option String :=
  if handle.isEmpty then some (String.ofList suffix)
  else (m.handles.lookup handle).map fun stem => String.ofList (stem ++ suffix)

end Naming

/-! ## Properties -/

/-- The anchor and the tag before a node, in either order. -/
def takeProperties (m : Naming) (ts : List Token) :
    Option (Option (List Char) × Option String × List Token) :=
  match ts with
  | .anchor n :: .tag h s :: r => do some (some n, some (← m.tag? h s), r)
  | .anchor n :: r => some (some n, none, r)
  | .tag h s :: .anchor n :: r => do some (some n, some (← m.tag? h s), r)
  | .tag h s :: r => do some (none, some (← m.tag? h s), r)
  | _ => some (none, none, ts)

/-! ## Grammar -/

/-- The tag that a scalar keeps: a lone exclamation mark is none. -/
def scalarTag (tag : Option String) : Option String := if tag == some "!" then none else tag

mutual

/-- A node. `inBlock` admits blocks, `dashes` a sequence that shares the indentation of its
mapping. -/
def takeNode (inBlock dashes : Bool) :
    Nat → Naming → List Token → Option (Node × List Token × Naming)
  | 0, _, _ => none
  | fuel + 1, m, ts =>
    match ts with
    | .alias n :: r => do some (.alias (← m.anchors.lookup n), r, m)
    | _ => do
      let (anchor, tag, ts) ← takeProperties m ts
      let (place, m) := m.register? anchor
      let close (n : Node) (r : List Token) (m : Naming) : Option (Node × List Token × Naming) :=
        some (n, r, m.settle place n)
      match ts with
      | .scalar style text :: r => close (.scalar (scalarTag tag) style (String.ofList text)) r m
      | .blockEntry :: _ =>
        if dashes then
          let (items, r, m) ← takeDashes fuel m ts
          close (.sequence items) r m
        else if anchor.isSome || tag.isSome then close (.scalar tag .plain "") ts m
        else none
      | .flowSequenceStart :: r => do
        let (items, r, m) ← takeFlowItems true fuel m r
        close (.sequence items) r m
      | .flowMappingStart :: r => do
        let (pairs, r, m) ← takeFlowPairs true fuel m r
        close (.mapping pairs) r m
      | .blockSequenceStart :: r =>
        if inBlock then
          let (items, r, m) ← takeBlockItems fuel m r
          close (.sequence items) r m
        else if anchor.isSome || tag.isSome then close (.scalar tag .plain "") ts m
        else none
      | .blockMappingStart :: r =>
        if inBlock then
          let (pairs, r, m) ← takeBlockPairs fuel m r
          close (.mapping pairs) r m
        else if anchor.isSome || tag.isSome then close (.scalar tag .plain "") ts m
        else none
      | _ => if anchor.isSome || tag.isSome then close (.scalar tag .plain "") ts m else none

/-- The entries of a block sequence up to its end. -/
def takeBlockItems : Nat → Naming → List Token → Option (List Node × List Token × Naming)
  | 0, _, _ => none
  | fuel + 1, m, ts =>
    match ts with
    | .blockEntry :: r => do
      let (x, r, m) ←
        match r with
        | .blockEntry :: _ | .blockEnd :: _ => some (Node.empty, r, m)
        | _ => takeNode true false fuel m r
      let (xs, r, m) ← takeBlockItems fuel m r
      some (x :: xs, r, m)
    | .blockEnd :: r => some ([], r, m)
    | _ => none

/-- The entries of a sequence without an indentation of its own. -/
def takeDashes : Nat → Naming → List Token → Option (List Node × List Token × Naming)
  | 0, _, _ => none
  | fuel + 1, m, ts =>
    match ts with
    | .blockEntry :: r => do
      let (x, r, m) ←
        match r with
        | .blockEntry :: _ | .key :: _ | .value :: _ | .blockEnd :: _ => some (Node.empty, r, m)
        | _ => takeNode true false fuel m r
      let (xs, r, m) ← takeDashes fuel m r
      some (x :: xs, r, m)
    | _ => some ([], ts, m)

/-- The pairs of a block mapping up to its end. -/
def takeBlockPairs : Nat → Naming → List Token → Option (List (Node × Node) × List Token × Naming)
  | 0, _, _ => none
  | fuel + 1, m, ts =>
    match ts with
    | .key :: r => do
      let part (m : Naming) (r : List Token) : Option (Node × List Token × Naming) :=
        match r with
        | .key :: _ | .value :: _ | .blockEnd :: _ => some (Node.empty, r, m)
        | _ => takeNode true true fuel m r
      let (k, r, m) ← part m r
      let (v, r, m) ←
        match r with
        | .value :: r => part m r
        | _ => some (Node.empty, r, m)
      let (ps, r, m) ← takeBlockPairs fuel m r
      some ((k, v) :: ps, r, m)
    | .blockEnd :: r => some ([], r, m)
    | _ => none

/-- The items of a bracketed sequence. A key in it makes a mapping of one pair; where that key is
empty, the token behind its mark is lost. -/
def takeFlowItems (first : Bool) :
    Nat → Naming → List Token → Option (List Node × List Token × Naming)
  | 0, _, _ => none
  | fuel + 1, m, ts =>
    match ts with
    | .flowSequenceEnd :: r => some ([], r, m)
    | _ => do
      let ts ← if first then some ts else match ts with
        | .flowEntry :: r => some r
        | _ => none
      match ts with
      | .flowSequenceEnd :: r => some ([], r, m)
      | .key :: r =>
        let (k, r, m) ←
          match r with
          | .value :: r | .flowEntry :: r | .flowSequenceEnd :: r => some (Node.empty, r, m)
          | _ => takeNode false false fuel m r
        let (v, r, m) ←
          match r with
          | .value :: .flowEntry :: r => some (Node.empty, .flowEntry :: r, m)
          | .value :: .flowSequenceEnd :: r => some (Node.empty, .flowSequenceEnd :: r, m)
          | .value :: r => takeNode false false fuel m r
          | _ => some (Node.empty, r, m)
        let (xs, r, m) ← takeFlowItems false fuel m r
        some (.mapping [(k, v)] :: xs, r, m)
      | _ =>
        let (x, r, m) ← takeNode false false fuel m ts
        let (xs, r, m) ← takeFlowItems false fuel m r
        some (x :: xs, r, m)

/-- The pairs of a bracketed mapping. -/
def takeFlowPairs (first : Bool) :
    Nat → Naming → List Token → Option (List (Node × Node) × List Token × Naming)
  | 0, _, _ => none
  | fuel + 1, m, ts =>
    match ts with
    | .flowMappingEnd :: r => some ([], r, m)
    | _ => do
      let ts ← if first then some ts else match ts with
        | .flowEntry :: r => some r
        | _ => none
      match ts with
      | .flowMappingEnd :: r => some ([], r, m)
      | .key :: r =>
        let (k, r, m) ←
          match r with
          | .value :: _ | .flowEntry :: _ | .flowMappingEnd :: _ => some (Node.empty, r, m)
          | _ => takeNode false false fuel m r
        let (v, r, m) ←
          match r with
          | .value :: .flowEntry :: r => some (Node.empty, .flowEntry :: r, m)
          | .value :: .flowMappingEnd :: r => some (Node.empty, .flowMappingEnd :: r, m)
          | .value :: r => takeNode false false fuel m r
          | _ => some (Node.empty, r, m)
        let (ps, r, m) ← takeFlowPairs false fuel m r
        some ((k, v) :: ps, r, m)
      | _ =>
        let (k, r, m) ← takeNode false false fuel m ts
        let (ps, r, m) ← takeFlowPairs false fuel m r
        some ((k, Node.empty) :: ps, r, m)

end

/-! ## Documents -/

/-- Whether a token starts something other than the content of a document. -/
def endsContent : Token → Bool
  | .versionDirective .. | .tagDirective .. | .documentStart | .documentEnd => true
  | _ => false

/-- The directives at the head, each at most once, and the handles they define. -/
def takeDirectives (version : Bool) (handles : List (List Char × List Char)) :
    List Token → Option (List (List Char × List Char) × List Token)
  | .versionDirective major minor :: r =>
    if version || major ≠ 1 || (minor ≠ 1 && minor ≠ 2) then none
    else takeDirectives true handles r
  | .tagDirective handle stem :: r =>
    if (handles.lookup handle).isSome then none
    else takeDirectives version ((handle, stem) :: handles) r
  | ts => some (handles, ts)

/-- A document: its node, if the text holds one, and the nodes behind the aliases. -/
structure Document where
  root : Option Node
  anchored : List (Nat × Node)
deriving DecidableEq

/-- The document of some tokens. -/
def documentOf? (ts : List Token) : Option Document := do
  match ts with
  | [] => some ⟨none, []⟩
  | t :: _ =>
    let marked := match t with
      | .versionDirective .. | .tagDirective .. | .documentStart => true
      | _ => false
    let fuel := 4 * ts.length + 4
    let (n, r, m) ←
      if marked then do
        let (handles, r) ← takeDirectives false [] ts
        let m : Naming := ⟨handles ++ standardHandles, [], #[]⟩
        match r with
        | .documentStart :: r =>
          match r with
          | [] => some (Node.empty, r, m)
          | t :: _ =>
            if endsContent t then some (Node.empty, r, m) else takeNode true false fuel m r
        | _ => none
      else takeNode true false fuel ⟨standardHandles, [], #[]⟩ ts
    if r.all (· == .documentEnd) then some ⟨some n, m.anchored.toList⟩ else none

/-- The document of a text that holds at most one. -/
def document? (s : String) : Option Document := do documentOf? (← tokens? s.toList)

/-- The node that a node stands for: of several nodes with one number the last. -/
def resolve (anchored : List (Nat × Node)) : Node → Option Node
  | .alias id => (anchored.reverse.lookup id)
  | n => some n

end Acceptance.Yaml
