import Acceptance.Message.Lines
import Acceptance.Proofs.Json.Nodes

/-!
# Messages read back

Messages that are written are read back as they were.

* `Message.Portable`: the messages of which that is so.

Results:
* `read_nodeOf`: a message is read from its object.
* `ofLine_line`: and from its line.
* `write_roundTrip`: messages are read back from their lines, by the reader of output and by that of
  files.
-/

namespace Acceptance.Message

open Json (Node nodeOf nodes)
open Schema (Field Supplied Distinct)

/-! ## What can be read back -/

/-- The payloads that are only passed on. -/
def payloads (m : Message) : List Json :=
  m.state.toList ++ m.spec.toList ++ m.catalog.toList ++ m.trace.toList

/-- A message that can be read back: its floating-point numbers can, the objects in its payloads are
in order, as those made by `Json.ofMembers` are, no more arrays and objects stand inside one another
than a reader enters, and no payload is null, which would be read as an absent one. -/
structure Portable (m : Message) : Prop where
  stable : m.toJson.Stable
  depth_le : m.toJson.depth ≤ Json.maxDepth
  ordered_data : ∀ r ∈ m.record, r.data.Ordered
  ordered : ∀ v ∈ m.payloads, v.Ordered
  not_null : ∀ v ∈ m.payloads, v ≠ .null

/-! ## Fields -/

section Fields

variable {room : Nat} {α σ : Type} {fields : List (Field Node Json.Fault σ)} {draft final : σ}
  {ms : List (String × Json)} {name : String}

/-- A member that is left out when it is absent holds a field that need not be there. -/
theorem supplied_member? {read : Node → Except Json.Fault α} {put : Option α → σ → σ}
    {toJson : α → Json} {x? : Option α} (hput : put none draft = draft)
    (hnull : ∀ x ∈ x?, toJson x ≠ .null)
    (hread : ∀ x ∈ x?, read (nodeOf room (toJson x)) = .ok x)
    (h : Supplied fields (nodes room ms) (put x? draft) final) :
    Supplied (.of [name] false (Json.format.maybe read) put :: fields)
      (nodes room (Json.member? name (x?.map toJson) ++ ms)) draft final := by
  cases x? with
  | none => exact Json.supplied_absent hput h
  | some x => exact Json.supplied_present (hnull x rfl) (hread x rfl) h

/-- So does a payload that is only passed on. -/
theorem supplied_payload {put : Option Json → σ → σ} {v? : Option Json}
    (hput : put none draft = draft) (hv : ∀ v ∈ v?, v ≠ .null ∧ v.Ordered ∧ v.depth ≤ room)
    (h : Supplied fields (nodes room ms) (put v? draft) final) :
    Supplied (.of [name] false (Json.format.maybe Node.value) put :: fields)
      (nodes room (Json.member? name v? ++ ms)) draft final := by
  have hmap : v?.map id = v? := Option.map_id_apply
  rw [← hmap]
  refine supplied_member? hput (fun v h => (hv v h).1) (fun v h => ?_) h
  exact Json.value_outlineOf v (hv v h).2.1 (hv v h).2.2

end Fields

/-! ## Payloads -/

variable {room : Nat}

theorem readTime_nodeOf (x : Int64) :
    readTime (nodeOf room (.num (.int (.ofInt64 x)))) = .ok x := by
  have hlow := Int64.le_toInt x
  have hhigh : x.toInt < 9223372036854775808 := Int64.toInt_lt x
  have hin : (nodeOf room (.num (.int (.ofInt64 x)))).integerIn (-9223372036854775808)
      9223372036854775808 = .ok x.toInt :=
    bind_eq_ok_iff.mpr ⟨x.toInt, rfl, if_pos ⟨hlow, hhigh⟩⟩
  refine bind_eq_ok_iff.mpr ⟨x.toInt, hin, ?_⟩
  rw [Int64.ofInt_toInt]

/-- A record is read from its object. -/
theorem Record.read_nodeOf {r : Record} (ho : r.data.Ordered) (hd : r.toJson.depth ≤ room) :
    Record.read (nodeOf room r.toJson) = .ok r := by
  refine Json.record_nodeOf (by simp [Distinct, Record.fields, Field.of]) hd fun room' hdepth => ?_
  refine Json.supplied_required rfl ?_
  refine supplied_member? rfl (fun _ _ => nofun) (fun _ _ => rfl) ?_
  refine Json.supplied_required (Json.value_outlineOf _ ho (hdepth ("data", r.data) (by simp))) ?_
  exact Json.supplied_required (readTime_nodeOf _) .done

/-- A line of a log is read from its object. -/
theorem Log.read_nodeOf {l : Log} (hd : l.toJson.depth ≤ room) :
    Log.read (nodeOf room l.toJson) = .ok l := by
  refine Json.record_nodeOf (by simp [Distinct, Log.fields, Field.of]) hd fun room' _ => ?_
  exact Json.supplied_required rfl (Json.supplied_required rfl .done)

/-- The answer to a check is read from its object. -/
theorem Connection.read_nodeOf {c : Connection} (hd : c.toJson.depth ≤ room) :
    Connection.read (nodeOf room c.toJson) = .ok c := by
  refine Json.record_nodeOf (by simp [Distinct, Connection.fields, Field.of]) hd fun room' _ => ?_
  refine Json.supplied_required (Json.choice_nodeOf (lookup_verdictName _)) ?_
  rw [← List.append_nil (Json.member? _ _)]
  exact supplied_member? rfl (fun _ _ => nofun) (fun _ _ => rfl) .done

/-! ## Messages -/

theorem mem_member? {name : String} {v : Json} {v? : Option Json} (h : v ∈ v?) :
    (name, v) ∈ Json.member? name v? := by
  obtain rfl : v? = some v := h
  exact List.mem_cons_self

theorem mem_payloads {m : Message} {v : Json} :
    v ∈ m.payloads ↔ v ∈ m.state ∨ v ∈ m.spec ∨ v ∈ m.catalog ∨ v ∈ m.trace := by
  simp [payloads]

/-- **A message is read from its object.** -/
theorem read_nodeOf {m : Message} (h : m.Portable) : read (nodeOf Json.maxDepth m.toJson) = .ok m := by
  refine Json.record_nodeOf (by simp [Distinct, fields, Field.of]) h.depth_le fun room hd => ?_
  have hpayload : ∀ v, v ∈ m.payloads → v.depth ≤ room →
      v ≠ .null ∧ v.Ordered ∧ v.depth ≤ room := fun v hv hdv =>
    ⟨h.not_null v hv, h.ordered v hv, hdv⟩
  simp only [List.cons_append, List.append_assoc] at hd ⊢
  rw [← List.append_nil (Json.member? "trace" _)]
  -- The members stand in the order of the fields, so that each field is supplied in its turn.
  refine Json.supplied_required (Json.choice_nodeOf (lookup_kindName _)) ?_
  refine supplied_member? rfl (fun _ _ => nofun) (fun r hr => ?_) ?_
  · refine Record.read_nodeOf (h.ordered_data r hr) (hd ("record", r.toJson) ?_)
    simp [mem_member? (Option.mem_map_of_mem Record.toJson hr)]
  refine supplied_payload rfl (fun v hv => ?_) ?_
  · exact hpayload v (by simp [mem_payloads, hv]) (hd ("state", v) (by simp [mem_member? hv]))
  refine supplied_member? rfl (fun _ _ => nofun) (fun l hl => ?_) ?_
  · refine Log.read_nodeOf (hd ("log", l.toJson) ?_)
    simp [mem_member? (Option.mem_map_of_mem Log.toJson hl)]
  refine supplied_payload rfl (fun v hv => ?_) ?_
  · exact hpayload v (by simp [mem_payloads, hv]) (hd ("spec", v) (by simp [mem_member? hv]))
  refine supplied_member? rfl (fun _ _ => nofun) (fun c hc => ?_) ?_
  · refine Connection.read_nodeOf (hd ("connectionStatus", c.toJson) ?_)
    simp [mem_member? (Option.mem_map_of_mem Connection.toJson hc)]
  refine supplied_payload rfl (fun v hv => ?_) ?_
  · exact hpayload v (by simp [mem_payloads, hv]) (hd ("catalog", v) (by simp [mem_member? hv]))
  refine supplied_payload rfl (fun v hv => ?_) .done
  exact hpayload v (by simp [mem_payloads, hv]) (hd ("trace", v) (by simp [mem_member? hv]))

/-! ## Lines -/

theorem exists_line (m : Message) :
    ∃ s, m.line = Char.ofNat 0x7b :: (s ++ [Char.ofNat 0x7d]) := ⟨_, rfl⟩

theorem trim_line (m : Message) : Text.trim m.line = m.line := by
  obtain ⟨s, hs⟩ := exists_line m
  rw [hs]
  exact Text.trim_of_ends s (by decide) (by decide)

theorem isBlankText_line (m : Message) : Text.isBlankText m.line = false := by
  obtain ⟨s, hs⟩ := exists_line m
  rw [hs, Text.isBlankText, List.all_cons]
  rfl

/-- What is written has a line for each message. -/
theorem lines_write (ms : List Message) : Text.lines (write ms) = ms.map line := by
  refine Text.lines_unlines fun l hl => ?_
  obtain ⟨m, -, rfl⟩ := List.mem_map.mp hl
  have hplain : Json.Plain m.line := Json.plain_text m.toJson
  exact ⟨hplain.not_mem (by decide), hplain.not_mem (by decide)⟩

/-- **A message is read from its line.** -/
theorem ofLine_line {m : Message} (h : m.Portable) : ofLine m.line = .ok m :=
  Json.readText_text h.stable (read_nodeOf h)

theorem ofOutputLine_line {m : Message} (h : m.Portable) : ofOutputLine m.line = some m := by
  have hne : m.line.isEmpty = false := rfl
  simp only [ofOutputLine, trim_line, hne, ofLine_line h]
  rfl

theorem filterMap_line {ms : List Message} (h : ∀ m ∈ ms, m.Portable) :
    (ms.map line).filterMap ofOutputLine = ms := by
  induction ms with
  | nil => rfl
  | cons m ms ih =>
    rw [List.map_cons, List.filterMap_cons_some (ofOutputLine_line (h m List.mem_cons_self)),
      ih fun x hx => h x (List.mem_cons_of_mem m hx)]

theorem ofNumberedLines_line {ms : List Message} (path : String) (n : Nat)
    (h : ∀ m ∈ ms, m.Portable) : ofNumberedLines path n (ms.map line) = .ok ms := by
  induction ms generalizing n with
  | nil => rfl
  | cons m ms ih =>
    have hms := ih (n + 1) fun x hx => h x (List.mem_cons_of_mem m hx)
    simp only [List.map_cons, ofNumberedLines, isBlankText_line,
      ofLine_line (h m List.mem_cons_self), hms]
    rfl

/-- The text of a file is that whose octets it holds. -/
theorem readText_of_read {machine : Host.Machine} {path text : String}
    (h : machine.files.read machine.directory path = .ok (Text.Utf8.encode text)) :
    machine.readText path = .ok text := by
  have htext : machine.files.readText machine.directory path = .ok text := by
    refine bind_eq_ok_iff.mpr ⟨_, h, ?_⟩
    rw [Text.Utf8.decode?_encode]
  rw [Host.Machine.readText, htext]
  rfl

/-- **Messages are read back from their lines**, of which there is one for each: by the reader of
output, and by the reader of files from every file that holds these lines. -/
theorem write_roundTrip {ms : List Message} (h : ∀ m ∈ ms, m.Portable) :
    (Text.lines (write ms)).length = ms.length ∧ ofOutput (write ms) = ms ∧
      ∀ (machine : Host.Machine) (path : String),
        machine.files.read machine.directory path =
          .ok (Text.Utf8.encode (String.ofList (write ms))) →
        ofFile path machine = .ok ms := by
  refine ⟨?_, ?_, fun machine path hfile => ?_⟩
  · rw [lines_write, List.length_map]
  · rw [ofOutput, lines_write, filterMap_line h]
  · refine bind_eq_ok_iff.mpr ⟨_, readText_of_read hfile, ?_⟩
    rw [ofFixture, String.toList_ofList, lines_write, ofNumberedLines_line path 1 h]

/-- A number that prints with a sign, though it is zero. -/
def negativeZero : Json := .num (.float (.zero true))

theorem stable_negativeZero : negativeZero.Stable := by
  have htext : (Json.Number.float (.zero true)).text = ['-', '0', '.', '0'] := by decide +kernel
  have hsignificand : Json.Lexeme.significand ⟨true, [0], some [0], none⟩ = (0, -1) := by
    decide +kernel
  have hparts : Json.fromParts true 0 (-1) = some (.zero true) := by decide +kernel
  refine .of_num ⟨⟨true, [0], some [0], none⟩, by rw [htext]; rfl, ?_⟩
  unfold Json.Lexeme.number
  rw [hsignificand]
  simp only [Option.isSome_some, true_or, if_true]
  rw [Json.Lexeme.float, hparts]
  rfl

/-- A record with line ends in its names and its texts. -/
def oddRecord : Record where
  stream := "a \"b\""
  space := some "\u2028"
  data := .obj [("at", .arr [negativeZero, .null]), ("to\n", .str "\r\n\x01")]
  emittedAt := -9223372036854775808

/-- A line of a log that comes with other payloads. -/
def oddLog : Message := { empty .log with
  log := some ⟨"INFO", "über"⟩
  state := some (.obj [("data", .bool true)])
  connection := some ⟨.failed, some "\\"⟩ }

theorem portable_oddRecord : (ofRecord oddRecord).Portable where
  stable := by
    have hzero := stable_negativeZero
    simp [toJson, ofRecord, empty, Record.toJson, oddRecord, Json.member?, hzero, Json.stable_int]
  depth_le := by decide
  ordered_data := by
    have hlt : "at" < "to\n" := by decide
    rintro r ⟨⟩
    exact Json.ordered_obj.mpr ⟨List.pairwise_pair.mpr hlt, by simp [negativeZero]⟩
  ordered := by simp [payloads, ofRecord, empty]
  not_null := by simp [payloads, ofRecord, empty]

theorem portable_oddLog : oddLog.Portable where
  stable := by
    simp [toJson, oddLog, empty, Log.toJson, Connection.toJson, Json.member?]
  depth_le := by decide
  ordered_data := nofun
  ordered := by simp [payloads, oddLog, empty, Json.Ascending]
  not_null := by simp [payloads, oddLog, empty]

theorem write_roundTrip_odd :
    (Text.lines (write [ofRecord oddRecord, oddLog])).length = 2 ∧
      ofOutput (write [ofRecord oddRecord, oddLog]) = [ofRecord oddRecord, oddLog] ∧
      ofFile "/odd" (.fresh ⟨[(["odd"],
        .file (Text.Utf8.encode (String.ofList (write [ofRecord oddRecord, oddLog]))))]⟩) =
        .ok [ofRecord oddRecord, oddLog] := by
  have hodd : ∀ m ∈ [ofRecord oddRecord, oddLog], m.Portable :=
    List.forall_mem_cons.mpr ⟨portable_oddRecord, List.forall_mem_singleton.mpr portable_oddLog⟩
  obtain ⟨hlength, houtput, hfile⟩ := write_roundTrip hodd
  exact ⟨hlength, houtput, hfile _ "/odd" rfl⟩

end Acceptance.Message
