import Mathlib.Algebra.Ring.Int.Defs
import Shingo.Protocol.Envelope
/-
  Shingo.Core.Handler — `CoreHandler` of `shingo-core/messaging/core_handler.go`:
  `HandleData` and the handlers it calls for `edge.register`, `edge.heartbeat`,
  `node.list_request` and `production.report`, and the stale-edge loop's
  `sendStaleNotification`.

  A handler call is a function of the store: it returns the store after its statements and
  the messages it published on the dispatch topic. The store package (`shingocore/store`)
  is not in the source: its statements are the fields of `CoreStore`, each of which may
  fail. `json.Unmarshal` of a data body is the library's: the decoders are parameters too.

  Proved:
  - `handleData_dst`, `sendStaleNotification_dst`: every message the core publishes,
    reply or notification, is addressed to `{edge, station}` with an empty `node`.
  - `edge_filter_rejects_core_messages`: so the ingestor of an edge whose node id is not
    empty drops all of them.
  - `core_reply_dropped_by_edge`: a `node.list_request` of edge `edge-1`, and its reply.
  - With the production tables of the spec (`ProductionTables`):
    `handleData_report_applies` — every delivery of a report adds each accepted entry to
    its produced counter and appends its log row, whatever the envelope's id; so
    `report_redelivery_counts_twice` — a redelivered report is counted twice.
-/

namespace Shingo.Core

open Shingo.Protocol

/-- `protocol.EdgeRegister`. -/
structure EdgeRegister where
  stationID : String
  hostname : String
  version : String
  lineIDs : List String
  deriving DecidableEq, Repr

/-- `protocol.EdgeHeartbeat`. -/
structure EdgeHeartbeat where
  stationID : String
  uptime : Int
  orders : Int
  deriving DecidableEq, Repr

/-- An entry of a production report. -/
structure ReportEntry where
  catID : String
  count : Int
  deriving DecidableEq, Repr

/-- `protocol.ProductionReport`. -/
structure ProductionReport where
  stationID : String
  reports : List ReportEntry
  deriving DecidableEq, Repr

/-- `json.Unmarshal` of a data body into each type `HandleData` decodes. -/
structure Decoders where
  edgeRegister : List UInt8 → Option EdgeRegister
  edgeHeartbeat : List UInt8 → Option EdgeHeartbeat
  productionReport : List UInt8 → Option ProductionReport

/-- The statements of `store.DB` the handler runs, on a store of type `σ`. -/
structure CoreStore (σ : Type) where
  registerEdge : σ → String → String → String → List String → Except String σ
  updateHeartbeat : σ → String → Except String σ
  listNodes : σ → Except String (List NodeInfo)
  incrementProduced : σ → String → Int → Except String σ
  logProduction : σ → String → String → Int → Except String σ

/-- The fields of `CoreHandler` the handlers read. -/
structure CoreHandler where
  stationID : String
  dispatchTopic : String

/-- A call of `Client.PublishEnvelope(topic, env)`. -/
structure Published where
  topic : String
  msg : DataMessage
  deriving DecidableEq, Repr

namespace CoreHandler

variable {σ : Type} (h : CoreHandler) (db : CoreStore σ)

/-- The core's own address, `Address{Role: RoleCore, Station: h.stationID}`. -/
def self : Address := { role := roleCore, station := h.stationID }

/-- `Address{Role: RoleEdge, Station: station}`. -/
def edgeAddress (station : String) : Address := { role := roleEdge, station := station }

/-- Publish `msg` on the dispatch topic. -/
def publish (msg : DataMessage) : List Published := [⟨h.dispatchTopic, msg⟩]

def handleEdgeRegister (st : σ) (env : Envelope) (p : EdgeRegister) : σ × List Published :=
  match db.registerEdge st p.stationID p.hostname p.version p.lineIDs with
  | .error _ => (st, [])
  | .ok st' =>
    (st', h.publish (newDataReply subjectEdgeRegistered h.self (edgeAddress p.stationID) env.id
      (.edgeRegistered p.stationID "registered")))

/-- `now` is `time.Now().UTC()`. -/
def handleEdgeHeartbeat (now : Nat) (st : σ) (env : Envelope) (p : EdgeHeartbeat) : σ × List Published :=
  match db.updateHeartbeat st p.stationID with
  | .error _ => (st, [])
  | .ok st' =>
    (st', h.publish (newDataReply subjectEdgeHeartbeatAck h.self (edgeAddress p.stationID) env.id
      (.edgeHeartbeatAck p.stationID now)))

def handleNodeListRequest (st : σ) (env : Envelope) : σ × List Published :=
  match db.listNodes st with
  | .error _ => (st, [])
  | .ok nodes =>
    (st, h.publish (newDataReply subjectNodeListResponse h.self (edgeAddress env.src.station) env.id
      (.nodeListResponse nodes)))

/-- One entry of `handleProductionReport`'s loop, on the store and `accepted` so far. -/
def reportEntry (stationID : String) (acc : σ × Nat) (entry : ReportEntry) : σ × Nat :=
  if entry.catID = "" ∨ entry.count ≤ 0 then acc
  else
    match db.incrementProduced acc.1 entry.catID entry.count with
    | .error _ => acc
    | .ok st =>
      match db.logProduction st entry.catID stationID entry.count with
      | .error _ => (st, acc.2 + 1)
      | .ok st' => (st', acc.2 + 1)

def handleProductionReport (st : σ) (env : Envelope) (rpt : ProductionReport) : σ × List Published :=
  let (st', accepted) := rpt.reports.foldl (reportEntry db rpt.stationID) (st, 0)
  (st', h.publish (newDataReply subjectProductionReportAck h.self (edgeAddress rpt.stationID) env.id
    (.productionReportAck rpt.stationID accepted)))

/-- `HandleData`; a body that does not decode, or an unknown subject, is logged and
    dropped. -/
def handleData (dec : Decoders) (now : Nat) (st : σ) (env : Envelope) (p : Data) : σ × List Published :=
  if p.subject = subjectEdgeRegister then
    match dec.edgeRegister p.body with
    | none => (st, [])
    | some reg => h.handleEdgeRegister db st env reg
  else if p.subject = subjectEdgeHeartbeat then
    match dec.edgeHeartbeat p.body with
    | none => (st, [])
    | some hb => h.handleEdgeHeartbeat db now st env hb
  else if p.subject = subjectNodeListRequest then h.handleNodeListRequest db st env
  else if p.subject = subjectProductionReport then
    match dec.productionReport p.body with
    | none => (st, [])
    | some rpt => h.handleProductionReport db st env rpt
  else (st, [])

/-- `sendStaleNotification(stationID)`. -/
def sendStaleNotification (stationID : String) : List Published :=
  h.publish (newDataEnvelope subjectEdgeStale h.self (edgeAddress stationID)
    (.edgeStale stationID "heartbeat timeout â€” marked stale by core"))

/-! ## Where the core's messages go -/

/-- Every message in `ps` is on the dispatch topic, addressed to an edge by station. -/
def ToEdge (ps : List Published) : Prop :=
  ∀ m ∈ ps, m.topic = h.dispatchTopic ∧ ∃ station, m.msg.dst = edgeAddress station

theorem toEdge_nil : h.ToEdge [] := fun _ hm => absurd hm (List.not_mem_nil _)

theorem toEdge_publish {msg : DataMessage} {station : String} (hd : msg.dst = edgeAddress station) :
    h.ToEdge (h.publish msg) := by
  intro m hm
  rw [publish, List.mem_singleton] at hm
  exact ⟨by rw [hm], station, by rw [hm, hd]⟩

theorem handleData_dst (dec : Decoders) (now : Nat) (st : σ) (env : Envelope) (p : Data) :
    h.ToEdge (h.handleData db dec now st env p).2 := by
  unfold handleData handleEdgeRegister handleEdgeHeartbeat handleNodeListRequest handleProductionReport
  repeat' split
  all_goals first | exact h.toEdge_nil | exact h.toEdge_publish rfl

theorem sendStaleNotification_dst (stationID : String) : h.ToEdge (h.sendStaleNotification stationID) :=
  h.toEdge_publish rfl

theorem edgeFilter_edgeAddress {nodeID : String} (hn : nodeID ≠ "") (station : String) :
    edgeFilter nodeID (edgeAddress station) = false := by
  simp only [edgeFilter, edgeAddress, Bool.or_eq_false_iff, beq_eq_false_iff_ne]
  exact ⟨Ne.symm hn, by decide⟩

/-- The ingestor of an edge with a non-empty node id drops every message `HandleData`
    publishes and every stale notification. -/
theorem edge_filter_rejects_core_messages {nodeID : String} (hn : nodeID ≠ "") (dec : Decoders)
    (now : Nat) (st : σ) (env : Envelope) (p : Data) (stale : String) :
    ∀ m ∈ (h.handleData db dec now st env p).2 ++ h.sendStaleNotification stale,
      edgeFilter nodeID m.msg.dst = false := by
  intro m hm
  obtain ⟨-, station, hd⟩ := (List.mem_append.mp hm).elim (h.handleData_dst db dec now st env p m)
    (h.sendStaleNotification_dst stale m)
  rw [hd, edgeFilter_edgeAddress hn]

end CoreHandler

/-! ## The production tables -/

/-- An entry `handleProductionReport` accepts: a category and a positive count. -/
def ReportEntry.accepted (e : ReportEntry) : Bool := e.catID ≠ "" && 0 < e.count

/-- What the accepted entries of `es` add to `catID`'s produced counter. -/
def entriesTotal (es : List ReportEntry) (catID : String) : Int :=
  ((es.filter (·.accepted)).map fun e => if catID = e.catID then e.count else 0).sum

/-- The production log rows of the accepted entries of `es`, reported by `stationID`. -/
def entriesRows (stationID : String) (es : List ReportEntry) : List (String × String × Int) :=
  (es.filter (·.accepted)).map fun e => (e.catID, stationID, e.count)

/-- Modelled from the spec: the core store's produced counters, production log and node
    table (`IncrementProduced`, `LogProduction` and `ListNodes` of `shingocore/store` are not
    in the source). `production.report` "increment[s the] produced counter and append[s] a
    production log row"; registering an edge and touching its heartbeat write other tables. -/
structure ProductionTables where
  produced : String → Int
  productionLog : List (String × String × Int)
  nodes : List NodeInfo

/-- Modelled from the spec: the statements on `ProductionTables`; none fails. -/
def productionStore : CoreStore ProductionTables where
  registerEdge t _ _ _ _ := .ok t
  updateHeartbeat t _ := .ok t
  listNodes t := .ok t.nodes
  incrementProduced t catID count := .ok { t with produced := fun c => t.produced c + (if c = catID then count else 0) }
  logProduction t catID stationID count := .ok { t with productionLog := t.productionLog ++ [(catID, stationID, count)] }

/-- The tables after an accepted entry: its count added, its row appended. -/
def ProductionTables.addEntry (t : ProductionTables) (stationID : String) (e : ReportEntry) :
    ProductionTables :=
  { t with produced := fun c => t.produced c + (if c = e.catID then e.count else 0)
           productionLog := t.productionLog ++ [(e.catID, stationID, e.count)] }

@[simp] theorem ProductionTables.addEntry_produced (t : ProductionTables) (stationID : String)
    (e : ReportEntry) (c : String) :
    (t.addEntry stationID e).produced c = t.produced c + (if c = e.catID then e.count else 0) := rfl

@[simp] theorem ProductionTables.addEntry_productionLog (t : ProductionTables) (stationID : String)
    (e : ReportEntry) :
    (t.addEntry stationID e).productionLog = t.productionLog ++ [(e.catID, stationID, e.count)] := rfl

theorem reportEntry_production (stationID : String) (t : ProductionTables) (n : Nat) (e : ReportEntry) :
    CoreHandler.reportEntry productionStore stationID (t, n) e =
      if e.accepted then (t.addEntry stationID e, n + 1) else (t, n) := by
  unfold CoreHandler.reportEntry ReportEntry.accepted
  have hc : e.count ≤ 0 ↔ ¬0 < e.count := Int.not_lt.symm
  by_cases h1 : e.catID = "" <;> by_cases h2 : 0 < e.count <;>
    simp [h1, h2, hc, productionStore, ProductionTables.addEntry]

theorem foldl_reportEntry_production (stationID : String) (es : List ReportEntry) (t : ProductionTables)
    (n : Nat) :
    let r := (es.foldl (CoreHandler.reportEntry productionStore stationID) (t, n)).1
    (∀ c, r.produced c = t.produced c + entriesTotal es c) ∧
      r.productionLog = t.productionLog ++ entriesRows stationID es := by
  induction es generalizing t n with
  | nil => simp [entriesTotal, entriesRows]
  | cons e es ih =>
    simp only [List.foldl_cons, reportEntry_production]
    by_cases he : e.accepted
    · obtain ⟨h1, h2⟩ := ih (t.addEntry stationID e) (n + 1)
      simp only [he, if_true]
      refine ⟨fun c => ?_, by simp [h2, entriesRows, he]⟩
      rw [h1 c, ProductionTables.addEntry_produced]
      simp only [entriesTotal, List.filter_cons, he, if_true, List.map_cons, List.sum_cons]
      exact Int.add_assoc _ _ _
    · obtain ⟨h1, h2⟩ := ih t n
      simp only [he] at h1 h2 ⊢
      exact ⟨fun c => by simp [h1 c, entriesTotal, he], by simp [h2, entriesRows, he]⟩

/-- With the spec's tables, a delivered report adds each accepted entry's count to its
    category's produced counter and appends one log row for it; the envelope's id plays no
    part. -/
theorem handleData_report_applies (h : CoreHandler) (dec : Decoders) (now : Nat) (t : ProductionTables)
    (env : Envelope) {p : Data} (hs : p.subject = subjectProductionReport) {rpt : ProductionReport}
    (hd : dec.productionReport p.body = some rpt) :
    let t' := (h.handleData productionStore dec now t env p).1
    (∀ c, t'.produced c = t.produced c + entriesTotal rpt.reports c) ∧
      t'.productionLog = t.productionLog ++ entriesRows rpt.stationID rpt.reports := by
  have h1 : p.subject ≠ subjectEdgeRegister := by rw [hs]; decide
  have h2 : p.subject ≠ subjectEdgeHeartbeat := by rw [hs]; decide
  have h3 : p.subject ≠ subjectNodeListRequest := by rw [hs]; decide
  simp only [CoreHandler.handleData, if_neg h1, if_neg h2, if_neg h3, if_pos hs, hd,
    CoreHandler.handleProductionReport]
  exact foldl_reportEntry_production rpt.stationID rpt.reports t 0

theorem report_redelivery_counts_twice (h : CoreHandler) (dec : Decoders) (now : Nat) (t : ProductionTables)
    (env : Envelope) {p : Data} (hs : p.subject = subjectProductionReport) {rpt : ProductionReport}
    (hd : dec.productionReport p.body = some rpt) :
    let once := (h.handleData productionStore dec now t env p).1
    let twice := (h.handleData productionStore dec now once env p).1
    (∀ c, twice.produced c = t.produced c + 2 * entriesTotal rpt.reports c) ∧
      twice.productionLog =
        t.productionLog ++ entriesRows rpt.stationID rpt.reports ++ entriesRows rpt.stationID rpt.reports := by
  intro once twice
  obtain ⟨h1, h2⟩ := handleData_report_applies h dec now t env hs hd
  obtain ⟨h3, h4⟩ := handleData_report_applies h dec now once env hs hd
  exact ⟨fun c => by rw [h3 c, h1 c]; omega, by rw [h4, h2]⟩

/-- A report of five of `C-1` from `edge-1`, delivered twice: `C-1` is counted twice. -/
theorem report_redelivery_counts_twice_c1 :
    let h : CoreHandler := ⟨"core", "dispatch"⟩
    let rpt : ProductionReport := ⟨"edge-1", [⟨"C-1", 5⟩]⟩
    let dec : Decoders := ⟨fun _ => none, fun _ => none, fun _ => some rpt⟩
    let t : ProductionTables := ⟨fun _ => 0, [], []⟩
    let env : Envelope := ⟨"m-1", { role := roleEdge, station := "edge-1", node := "edge-1" },
      { role := roleCore, station := "core", node := "core" }⟩
    let p : Data := ⟨subjectProductionReport, []⟩
    let once := (h.handleData productionStore dec 0 t env p).1
    let twice := (h.handleData productionStore dec 0 once env p).1
    p.subject = subjectProductionReport ∧ dec.productionReport p.body = some rpt ∧
      (∀ c, twice.produced c = t.produced c + 2 * entriesTotal rpt.reports c) ∧
      twice.productionLog =
        t.productionLog ++ entriesRows rpt.stationID rpt.reports ++ entriesRows rpt.stationID rpt.reports := by
  intro h rpt dec t env p once twice
  exact ⟨rfl, rfl, report_redelivery_counts_twice h dec 0 t env rfl rfl⟩

/-- Delivering that report once counts 5 of `C-1` and logs one row; delivering it again
    counts 10 and logs two. -/
theorem report_redelivery_not_idempotent :
    let h : CoreHandler := ⟨"core", "dispatch"⟩
    let dec : Decoders := ⟨fun _ => none, fun _ => none, fun _ => some ⟨"edge-1", [⟨"C-1", 5⟩]⟩⟩
    let t : ProductionTables := ⟨fun _ => 0, [], []⟩
    let env : Envelope := ⟨"m-1", { role := roleEdge, station := "edge-1", node := "edge-1" },
      { role := roleCore, station := "core", node := "core" }⟩
    let p : Data := ⟨subjectProductionReport, []⟩
    let once := (h.handleData productionStore dec 0 t env p).1
    let twice := (h.handleData productionStore dec 0 once env p).1
    once.produced "C-1" = 5 ∧ twice.produced "C-1" = 10 ∧
      once.productionLog = [("C-1", "edge-1", 5)] ∧
      twice.productionLog = [("C-1", "edge-1", 5), ("C-1", "edge-1", 5)] := by
  decide

/-- Edge `edge-1` asks for the node list: the core replies to `{edge, edge-1}` with an empty
    node, and edge `edge-1`'s ingestor drops the reply, as it drops a stale notification for
    station `edge-1`. -/
theorem core_reply_dropped_by_edge :
    let h : CoreHandler := ⟨"core", "dispatch"⟩
    let env : Envelope := ⟨"m-1", { role := roleEdge, station := "edge-1", node := "edge-1" },
      { role := roleCore, station := "core", node := "core" }⟩
    let out := (h.handleData productionStore ⟨fun _ => none, fun _ => none, fun _ => none⟩ 0
      ⟨fun _ => 0, [], [⟨"N1", "storage"⟩]⟩ env ⟨subjectNodeListRequest, []⟩).2
    out.map (·.msg.dst) = [{ role := roleEdge, station := "edge-1", node := "" }] ∧
      out.all (fun m => !edgeFilter "edge-1" m.msg.dst) ∧
      (h.sendStaleNotification "edge-1").all (fun m => !edgeFilter "edge-1" m.msg.dst) := by
  intro h env out
  have hrej := h.edge_filter_rejects_core_messages productionStore (show ("edge-1" : String) ≠ "" by decide)
    ⟨fun _ => none, fun _ => none, fun _ => none⟩ 0 ⟨fun _ => 0, [], [⟨"N1", "storage"⟩]⟩ env
    ⟨subjectNodeListRequest, []⟩ "edge-1"
  refine ⟨by decide, List.all_eq_true.2 fun m hm => ?_, List.all_eq_true.2 fun m hm => ?_⟩
  · simp [hrej m (List.mem_append_left _ hm)]
  · simp [hrej m (List.mem_append_right _ hm)]

end Shingo.Core
