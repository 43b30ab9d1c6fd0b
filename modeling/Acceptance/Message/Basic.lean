import Acceptance.Json.Value

/-!
# Messages (specification, section 4.3)

What the suite and a destination say to each other, one message a line.

* `Message`: a message has a kind, and any of the payloads. Payloads that are only passed on stay
  JSON values.
* `Message.ofRecord`, `ofState`, `ofSpec`, `ofConnection`: messages with the payload of their kind.
* `Message.lastState`: the state that a list of messages ends in.
-/

namespace Acceptance

/-- The kinds of messages. -/
inductive Message.Kind where
  | record
  | state
  | log
  | spec
  | connectionStatus
  | catalog
  | trace
deriving DecidableEq, Repr

/-- A record of a stream. -/
structure Message.Record where
  stream : String
  space : Option String
  data : Json
  emittedAt : Int64
deriving Repr

/-- A line of a log. -/
structure Message.Log where
  level : String
  message : String
deriving DecidableEq, Repr

/-- The outcome of a check. -/
inductive Message.Verdict where
  | succeeded
  | failed
deriving DecidableEq, Repr

/-- The answer to a check. -/
structure Message.Connection where
  verdict : Verdict
  message : Option String
deriving DecidableEq, Repr

/-- A message. -/
structure Message where
  kind : Message.Kind
  record : Option Message.Record
  state : Option Json
  log : Option Message.Log
  spec : Option Json
  connection : Option Message.Connection
  catalog : Option Json
  trace : Option Json
deriving Repr

namespace Message

/-- A message without payload. -/
def empty (kind : Kind) : Message := ⟨kind, none, none, none, none, none, none, none⟩

/-- A record. -/
def ofRecord (r : Record) : Message := { empty .record with record := some r }

/-- A state with some data. -/
def ofState (data : Json) : Message := { empty .state with state := some (.obj [("data", data)]) }

/-- A specification. -/
def ofSpec (spec : Json) : Message := { empty .spec with spec := some spec }

/-- The answer to a check. -/
def ofConnection (c : Connection) : Message := { empty .connectionStatus with connection := some c }

/-- The payload of the last message of the kind `state`, if it has one. -/
def lastState (ms : List Message) : Option Json :=
  match ms.reverse.find? fun m => m.kind == .state with
  | some m => m.state
  | none => none

end Message
end Acceptance
