import Mathlib.Data.List.Basic
/-
  Shingo.Protocol.Envelope — the parts of package `protocol` the core handler and the edge
  ingestor use: addresses, the routing header, data messages, the constructors of new
  data envelopes, and the edge ingestor's filter (`shingo-edge/cmd/shingoedge/main.go`).

  `types.go` in the source holds the message-type and role constants and four of the data
  subjects; the `Address`, `Envelope` and `Data` types, the other subjects and
  `NewDataEnvelope`/`NewDataReply` are not in it and follow the spec (§3, §4.1, §6).
  A new envelope also gets a fresh id and a timestamp; nothing modelled reads them, so a
  message the core sends is its subject, addresses, reply-to id and body.
-/

namespace Shingo.Protocol

/-- `TypeData`. -/
def typeData : String := "data"
/-- `TypeOrderRequest`. -/
def typeOrderRequest : String := "order.request"
/-- `TypeOrderCancel`. -/
def typeOrderCancel : String := "order.cancel"
/-- `TypeOrderReceipt`. -/
def typeOrderReceipt : String := "order.receipt"
/-- `TypeOrderRedirect`. -/
def typeOrderRedirect : String := "order.redirect"
/-- `TypeOrderStorageWaybill`. -/
def typeOrderStorageWaybill : String := "order.storage_waybill"
/-- `TypeOrderAck`. -/
def typeOrderAck : String := "order.ack"
/-- `TypeOrderWaybill`. -/
def typeOrderWaybill : String := "order.waybill"
/-- `TypeOrderUpdate`. -/
def typeOrderUpdate : String := "order.update"
/-- `TypeOrderDelivered`. -/
def typeOrderDelivered : String := "order.delivered"
/-- `TypeOrderError`. -/
def typeOrderError : String := "order.error"
/-- `TypeOrderCancelled`. -/
def typeOrderCancelled : String := "order.cancelled"

/-- `RoleEdge`. -/
def roleEdge : String := "edge"
/-- `RoleCore`. -/
def roleCore : String := "core"

/-- `SubjectEdgeRegister`. -/
def subjectEdgeRegister : String := "edge.register"
/-- `SubjectEdgeRegistered`. -/
def subjectEdgeRegistered : String := "edge.registered"
/-- `SubjectEdgeHeartbeat`. -/
def subjectEdgeHeartbeat : String := "edge.heartbeat"
/-- `SubjectEdgeHeartbeatAck`. -/
def subjectEdgeHeartbeatAck : String := "edge.heartbeat_ack"
/-- Modelled from the spec: `SubjectEdgeStale` (the subject list of §3). -/
def subjectEdgeStale : String := "edge.stale"
/-- Modelled from the spec: `SubjectNodeListRequest` (the subject list of §3). -/
def subjectNodeListRequest : String := "node.list_request"
/-- Modelled from the spec: `SubjectNodeListResponse` (the subject list of §3). -/
def subjectNodeListResponse : String := "node.list_response"
/-- Modelled from the spec: `SubjectProductionReport` (the subject list of §3). -/
def subjectProductionReport : String := "production.report"
/-- Modelled from the spec: `SubjectProductionReportAck` (the subject list of §3). -/
def subjectProductionReportAck : String := "production.report_ack"

/-- Modelled from the spec: `protocol.Address`, `{role, station, node}`, where `node` is
    the routing key. A Go literal that names only `Role` and `Station` leaves `Node` at
    its zero value, the default here. -/
structure Address where
  role : String
  station : String
  node : String := ""
  deriving DecidableEq, Repr

/-- Modelled from the spec: the header fields of `protocol.Envelope` a handler reads. -/
structure Envelope where
  id : String
  src : Address
  dst : Address
  deriving DecidableEq, Repr

/-- `protocol.Data`: a subject and its still encoded body. -/
structure Data where
  subject : String
  body : List UInt8
  deriving DecidableEq, Repr

/-- `protocol.NodeInfo`. -/
structure NodeInfo where
  name : String
  nodeType : String
  deriving DecidableEq, Repr

/-- The bodies the core sends (spec §6). -/
inductive Body where
  | edgeRegistered (stationID message : String)
  | edgeHeartbeatAck (stationID : String) (serverTS : Nat)
  | nodeListResponse (nodes : List NodeInfo)
  | productionReportAck (stationID : String) (accepted : Nat)
  | edgeStale (stationID message : String)
  deriving DecidableEq, Repr

/-- A data envelope the core builds. -/
structure DataMessage where
  subject : String
  src : Address
  dst : Address
  replyTo : Option String
  body : Body
  deriving DecidableEq, Repr

/-- Modelled from the spec: `NewDataEnvelope(subject, src, dst, body)`, with no reply-to id. -/
def newDataEnvelope (subject : String) (src dst : Address) (body : Body) : DataMessage :=
  ⟨subject, src, dst, none, body⟩

/-- Modelled from the spec: `NewDataReply(subject, src, dst, replyTo, body)`. -/
def newDataReply (subject : String) (src dst : Address) (replyTo : String) (body : Body) : DataMessage :=
  ⟨subject, src, dst, some replyTo, body⟩

/-- The edge ingestor's filter: `hdr.Dst.Node == nodeID || hdr.Dst.Node == "*"`. -/
def edgeFilter (nodeID : String) (dst : Address) : Bool := dst.node == nodeID || dst.node == "*"

end Shingo.Protocol
