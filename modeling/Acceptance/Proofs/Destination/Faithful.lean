import Acceptance.CommandLine.Session
import Acceptance.Proofs.Json.RoundTrip
import Acceptance.Proofs.Suite.RoundTrip
import Mathlib.Data.List.Perm.Basic

/-!
# Faithful destinations

A destination that keeps what it is given passes the round trip, whatever it adds to the records and
in whatever order they are read back.

* `enlarge`: a record with the members that a destination adds.
* `Kept`: a value that a destination may keep for a record.
* `Keeps`: the rows of a table hold the records of a stream.
* `Source.Serves`: a connection over which a source may be asked next.

Results:
* `Kept.fingerprint_eq`, `Keeps.records`: what is kept is read back, and counts as the same.
* `Source.run_fetch`: asking for a stream is asking over some connection, and no others come to be.
* `faithful_passes`: the round trip passes.
-/

namespace Acceptance

/-! ## Records as they are kept -/

namespace Record

/-- A record with more members: an object gets them in their places, and other values stay as they
are. -/
def enlarge (extra : List (String × Json)) : Json → Json
  | .obj ms => .obj (extra.foldl (fun acc m => Json.insertMember m.1 m.2 acc) ms)
  | v => v

/-- A value that a destination may keep for a record: the record with internal members added. It is
in order, as all values are that were read, and its text can be read. -/
structure Kept (v w : Json) : Prop where
  enlarged : ∃ extra, (∀ m ∈ extra, isInternal m.1 = true) ∧ w = enlarge extra v
  stable : w.Stable
  ordered : w.Ordered
  depth_le : w.depth ≤ Json.maxDepth

theorem filter_insertMember {name : String} {v : Json} (h : isInternal name = true)
    (ms : List (String × Json)) :
    (Json.insertMember name v ms).filter (fun m => !isInternal m.1) =
      ms.filter fun m => !isInternal m.1 := by
  induction ms with
  | nil => simp [Json.insertMember, h]
  | cons p r ih =>
    obtain ⟨k, w⟩ := p
    unfold Json.insertMember
    split
    · simp [h]
    · split
      · rename_i hk
        subst hk
        simp [h]
      · rw [List.filter_cons, List.filter_cons, ih]

/-- Internal members are pruned away again. -/
theorem prune_enlarge {extra : List (String × Json)} (h : ∀ m ∈ extra, isInternal m.1 = true)
    (v : Json) : prune (enlarge extra v) = prune v := by
  cases v with
  | obj ms =>
    simp only [enlarge, prune, Json.obj.injEq]
    induction extra generalizing ms with
    | nil => rfl
    | cons m r ih =>
      rw [List.foldl_cons, ih (fun n hn => h n (List.mem_cons_of_mem m hn)),
        filter_insertMember (h m List.mem_cons_self)]
  | _ => rfl

/-- What is kept for a record counts as the record. -/
theorem Kept.fingerprint_eq {v w : Json} (h : Kept v w) : fingerprint w = fingerprint v := by
  obtain ⟨extra, hinternal, rfl⟩ := h.enlarged
  rw [fingerprint, prune_enlarge hinternal, fingerprint]

theorem Kept.parse {v w : Json} (h : Kept v w) : Json.parse w.render = .ok w :=
  Json.parse_render h.stable h.ordered h.depth_le

/-- Records that are kept are read from their texts, and have the fingerprints they had. -/
theorem Kept.all {vs ws : List Json} (h : List.Forall₂ Kept vs ws) :
    ws.map fingerprint = vs.map fingerprint ∧ ∀ w ∈ ws, Json.parse w.render = .ok w := by
  induction h with
  | nil => exact ⟨rfl, fun w hw => absurd hw List.not_mem_nil⟩
  | cons hk hr ih =>
    refine ⟨?_, ?_⟩
    · rw [List.map_cons, List.map_cons, hk.fingerprint_eq, ih.1]
    · intro w hw
      rcases List.mem_cons.mp hw with rfl | hw
      · exact hk.parse
      · exact ih.2 w hw

end Record

namespace Store

/-- The rows of a table hold some records: there is one for each, in any order, and its cell is the
text of what is kept for the record. -/
def Keeps (vs : List Json) (rows : List Row) : Prop :=
  ∃ ws, List.Forall₂ Record.Kept vs ws ∧ rows.Perm (ws.map fun w => .ok (some w.render))

/-- **What is kept is read back**, and counts as what was to be kept. -/
theorem Keeps.records {vs : List Json} {rows : List Row} (h : Keeps vs rows)
    (unread : String → RetrievalProblem) :
    ∃ actual, Store.records unread rows = .ok actual ∧ Suite.SameRecords vs actual := by
  obtain ⟨ws, hkept, hrows⟩ := h
  -- The rows are those of the same values in another order.
  obtain ⟨us, rfl, hus⟩ :
      ∃ us : List Json, rows = us.map (fun w => .ok (some w.render)) ∧ us.Perm ws := by
    have hcomp := List.eq_map_comp_perm (fun w : Json => (.ok (some w.render) : Row))
    exact (congrFun (congrFun hcomp rows) ws).mpr hrows
  obtain ⟨hsame, hparse⟩ := Record.Kept.all hkept
  refine ⟨us, ?_, ?_⟩
  · rw [records_eq_ok_iff, List.map_map, List.map_inj_left]
    intro w hw
    show (Json.parse w.render).mapError RetrievalProblem.malformedCell = .ok w
    rw [hparse w (hus.mem_iff.mp hw)]
    rfl
  · unfold Suite.SameRecords
    rw [← hsame]
    exact (hus.map Record.fingerprint).symm

/-! ## Connections -/

namespace Source

variable {κ : Type} {sys : Systems κ} {source : Source} {p : Pool κ} {m : Host.Machine}

/-- A connection that a source may be asked over next: an idle one, or a new one. -/
def Serves (sys : Systems κ) (source : Source) (p : Pool κ) (m : Host.Machine) (c : κ) : Prop :=
  c ∈ p.idle ∨ source.connect sys m = .ok c

/-- **A stream is asked for over some connection**, which is idle afterwards; no connections come to
be that could not have been used before. -/
theorem run_fetch (h : ∃ c, source.Serves sys p m c) (stream : String) (space : Option String) :
    ∃ c q, source.Serves sys p m c ∧ c ∈ q.idle ∧
      (∀ d, source.Serves sys q m d → source.Serves sys p m d) ∧
      (source.fetch sys stream space).run (p, m) =
        ((source.ask sys stream space c).mapError .retrieval, q, m) := by
  obtain ⟨cs⟩ := p
  cases cs with
  | cons c cs =>
    exact ⟨c, ⟨c :: cs⟩, Or.inl List.mem_cons_self, List.mem_cons_self, fun d hd => hd,
      run_fetch_idle stream space cs⟩
  | nil =>
    obtain ⟨c, hc | hc⟩ := h
    · cases hc
    · refine ⟨c, ⟨[c]⟩, Or.inr hc, List.mem_cons_self, ?_, run_fetch_opened stream space hc⟩
      rintro d (hd | hd)
      · rw [List.mem_singleton.mp hd]
        exact Or.inr hc
      · exact Or.inr hd

end Source
end Store

/-! ## The round trip -/

namespace Destination

open CommandLine (Session)

variable {ρ κ : Type} {sys : Store.Systems κ} {source : Store.Source}

/-- Over every connection there is, the query for the stream of an entry is answered with rows that
hold the records which some messages have for it. -/
def Answers (sys : Store.Systems κ) (source : Store.Source) (s : Session ρ κ)
    (ms : List Message) (e : Catalog.Entry) : Prop :=
  ∀ c, source.Serves sys s.pool s.machine c →
    ∃ rows, sys.query c (Sql.rawRecords source.dialect source.schema e.stream.name e.stream.space) =
        .ok rows ∧
      Store.Keeps (ms.filterMap (Message.dataFor e.stream.name e.stream.space)) rows

/-- The store of a source in a session. -/
def sessionStore (sys : Store.Systems κ) (source : Store.Source) : Store (Session ρ κ) :=
  source.store sys Session.fetching Session.setFetching

/-- The records of a stream that a database keeps are retrieved. -/
theorem run_retrieve {s : Session ρ κ} {ms : List Message} {e : Catalog.Entry}
    (h : ∃ c, source.Serves sys s.pool s.machine c) (ha : Answers sys source s ms e) :
    ∃ actual q,
      Suite.SameRecords (ms.filterMap (Message.dataFor e.stream.name e.stream.space)) actual ∧
      (∃ c, c ∈ q.idle) ∧
      (∀ d, source.Serves sys q s.machine d → source.Serves sys s.pool s.machine d) ∧
      (retrieve (some (sessionStore sys source)) e.stream.name e.stream.space).run s =
        (.ok actual, { s with pool := q }) := by
  obtain ⟨c, q, hc, hidle, hq, hrun⟩ := Store.Source.run_fetch h e.stream.name e.stream.space
  obtain ⟨rows, hrows, hkeeps⟩ := ha c hc
  obtain ⟨actual, hactual, hsame⟩ := hkeeps.records (source.unread e.stream.name)
  have hask : source.ask sys e.stream.name e.stream.space c = .ok actual := by
    rw [Store.Source.ask, hrows]
    exact hactual
  rw [hask] at hrun
  have hfetch : ((sessionStore sys source).fetch e.stream.name e.stream.space).run s =
      (.ok actual, { s with pool := q }) := by
    show (((source.fetch sys e.stream.name e.stream.space).run (s.pool, s.machine)).1,
      Session.setFetching
        ((source.fetch sys e.stream.name e.stream.space).run (s.pool, s.machine)).2 s) = _
    rw [hrun]
    rfl
  refine ⟨actual, q, hsame, ⟨c, hidle⟩, hq, ?_⟩
  simp only [retrieve, Act.run, Act.of] at hfetch ⊢
  rw [hfetch]
  rfl

/-- All streams that a database keeps are answered for, one after another. -/
theorem answers_of_keeps (t : Config.Target) {s : Session ρ κ} {ms : List Message}
    {es : List Catalog.Entry} (place : Suite.Place)
    (h : ∃ c, source.Serves sys s.pool s.machine c) (ha : ∀ e ∈ es, Answers sys source s ms e) :
    List.Forall₂ (Suite.Holds ms) es (Suite.answers
      (subject t (some (sessionStore sys source)) Session.providing Session.setProviding)
      place es s) := by
  induction es generalizing s with
  | nil => exact .nil
  | cons e r ih =>
    obtain ⟨actual, q, hsame, ⟨c, hc⟩, hq, hrun⟩ := run_retrieve h (ha e List.mem_cons_self)
    unfold Suite.answers
    refine .cons ⟨actual, congrArg Prod.fst hrun, hsame⟩ ?_
    show List.Forall₂ _ r (Suite.answers _ place r (Act.run (retrieve _ _ _) s).2)
    rw [hrun]
    refine ih ⟨c, Or.inl hc⟩ ?_
    intro x hx d hd
    exact ha x (List.mem_cons_of_mem e hx) d (hq d hd)

/-- **A faithful destination is never failed.** If the fixture is written and its last state comes
back, and after that the database keeps the records of every stream of the catalog, then the round
trip passes. -/
theorem faithful_passes (sys : Store.Systems κ) (source : Store.Source) (target : Config.Target)
    (launcher : Suite.Launcher (Session ρ κ)) (site : Suite.Site (Session ρ κ)) {fixture : Fixture}
    {configs : Suite.Configs} {config : Json} {place : Suite.Place} {s t : Session ρ κ}
    {emitted : List Message} (hconfig : configs.config = some config)
    (hwrite : (launcher.write place config fixture.catalog fixture.messages).run s =
      (.ok emitted, t))
    (hstate : ∀ v, Message.lastState fixture.messages = some v →
      ∃ w, Message.lastState emitted = some w ∧ w.same v = true)
    (hserves : ∃ c, source.Serves sys t.pool t.machine c)
    (hanswers : ∀ e ∈ fixture.catalog.streams, Answers sys source t fixture.messages e) :
    ((Suite.body
      ⟨subject target (some (sessionStore sys source)) Session.providing Session.setProviding,
        launcher, site⟩ fixture configs place .syncRoundTrip).run s).1 = .ok .passed := by
  unfold Suite.body
  rw [hconfig]
  show ((Suite.roundTrip _ fixture config place).run s).1 = _
  rw [Suite.roundTrip_eq_passed_iff]
  exact ⟨emitted, t, hwrite, Suite.settles_iff.mpr hstate,
    answers_of_keeps target place hserves hanswers⟩

/-! ## A run on fixed inputs -/

/-- The number two and a half. -/
def twoAndHalf : Number.Binary64 :=
  ⟨false, 5629499534213120, 1023, by decide, by decide, by decide⟩

theorem stable_twoAndHalf : (Json.Number.float twoAndHalf).Stable := by
  have htext : (Json.Number.float twoAndHalf).text = ['2', '.', '5'] := by decide +kernel
  have hsignificand : Json.Lexeme.significand ⟨false, [2], some [5], none⟩ = (25, -1) := by
    decide +kernel
  have hparts : Json.fromParts false 25 (-1) = some twoAndHalf := by decide +kernel
  refine ⟨⟨false, [2], some [5], none⟩, by rw [htext]; rfl, ?_⟩
  unfold Json.Lexeme.number
  rw [hsignificand]
  simp only [Option.isSome_some, true_or, if_true]
  rw [Json.Lexeme.float, hparts]
  rfl

/-- A stream without a namespace. -/
def rates : Catalog.Entry := ⟨⟨"rates", none, .obj [], []⟩, .fullRefresh, .append⟩

/-- A record of it. -/
def rate : Json := .obj [("usd", .num (.float twoAndHalf))]

/-- The record as it is kept. -/
def keptRate : Json := Record.enlarge [("_airbyte_ab_id", .str "1")] rate

/-- Two records of the stream, one of them no object, and a state behind them. -/
def ratesFixture : Fixture where
  catalog := ⟨[rates]⟩
  messages := [Message.ofRecord ⟨"rates", none, rate, 0⟩,
    Message.ofRecord ⟨"rates", none, .str "closed", 1⟩, Message.ofState (.str "end")]

/-- A database that keeps them, and gives them back in another order. -/
def ratesDatabase : Store.Systems Unit where
  openFile _ := .ok ()
  connect _ _ := .ok ()
  query _ q :=
    if q = Sql.rawRecords .duckdb "main" "rates" none then
      .ok [.ok (some (Json.str "closed").render), .ok (some keptRate.render)]
    else .error "no such table"

/-- A destination that emits what it is given. -/
def echo : Suite.Launcher (Session Unit Unit) where
  spec _ := pure (.obj [])
  check _ _ := pure ⟨.succeeded, none⟩
  write _ _ _ ms := pure ms

theorem keptRate_eq :
    keptRate = .obj [("_airbyte_ab_id", .str "1"), ("usd", .num (.float twoAndHalf))] := by
  have hlt : "_airbyte_ab_id" < "usd" := by decide
  show Json.obj (Json.insertMember "_airbyte_ab_id" _ [("usd", _)]) = _
  rw [Json.insertMember, if_pos hlt]

theorem kept_rate : Record.Kept rate keptRate where
  enlarged := ⟨[("_airbyte_ab_id", .str "1")], by decide, rfl⟩
  stable := by
    rw [keptRate_eq]
    refine Json.Stable.of_members ?_
    simp only [List.forall_mem_cons, List.not_mem_nil, false_imp_iff, implies_true, and_true]
    exact ⟨.of_str "1", .of_num stable_twoAndHalf⟩
  ordered := by
    rw [keptRate_eq]
    refine Json.Ordered.of_members ?_ ?_
    · refine List.Pairwise.cons ?_ (List.pairwise_singleton _ _)
      intro m hm
      rw [List.mem_singleton.mp hm]
      decide
    · simp only [List.forall_mem_cons, List.not_mem_nil, false_imp_iff, implies_true, and_true]
      exact ⟨.of_str "1", .of_num (.float twoAndHalf)⟩
  depth_le := by
    rw [keptRate_eq]
    decide

theorem kept_str (s : String) : Record.Kept (.str s) (.str s) where
  enlarged := ⟨[], nofun, rfl⟩
  stable := .of_str s
  ordered := .of_str s
  depth_le := Nat.zero_le _

/-- A session on a machine with the file of the database. -/
def ratesSession : Session Unit Unit :=
  .start (.fresh ⟨[(["rates.db"], .file [])]⟩) ()

theorem faithful_rates_pass :
    ((Suite.body
      ⟨subject .empty (some (sessionStore ratesDatabase ⟨.file "rates.db" 1, "main"⟩))
        Session.providing Session.setProviding, echo, Host.site Session.machine Session.setMachine⟩
      ratesFixture ⟨some (.obj []), none⟩ ⟨"/tmp"⟩ .syncRoundTrip).run ratesSession).1 =
      .ok .passed := by
  refine faithful_passes ratesDatabase ⟨.file "rates.db" 1, "main"⟩ .empty echo _ rfl rfl ?_ ?_ ?_
  · intro v hv
    exact ⟨v, hv, Json.same_refl v⟩
  · exact ⟨(), Or.inr rfl⟩
  · intro e he c hc
    rw [List.mem_singleton.mp he]
    have hquery : ratesDatabase.query c (Sql.rawRecords .duckdb "main" "rates" none) =
        .ok [.ok (some (Json.str "closed").render), .ok (some keptRate.render)] := by
      simp only [ratesDatabase, if_true]
    refine ⟨_, hquery, [keptRate, .str "closed"], ?_, List.Perm.swap _ _ _⟩
    exact .cons kept_rate (.cons (kept_str "closed") .nil)

end Destination
end Acceptance
