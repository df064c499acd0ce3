import Shingo.Lifecycle.Heartbeat
import Shingo.Production.Shifts
import Shingo.Protocol.Ingestor
/-
  Shingo.Edge.ManualMessage — `apiSendManualMessage`
  (`shingo-edge/www/handlers_manual_message.go`), the edge console's form that sends one
  protocol message of the operator's choosing to the core.

  The request names a type and carries a payload. Its `switch` has nine arms:
  - the four data subjects each build a data envelope;
  - the five order types each build an envelope of that type;
  - any other type is refused with 400.
  The envelope goes from `{edge, station}` to `{core}` through `SendEnvelope`.
  Decoding is `json.Unmarshal`, the library's, so the decoders are parameters, and an order
  payload decodes as the ingestor's does (`Unmarshal.payload`). The `edge.heartbeat` arm drops
  `Unmarshal`'s error and sends whatever uptime it left (zero when it set none), with no
  order count. `node.list_request` reads no payload.
  Building an envelope of these bodies cannot fail, so the `build envelope` error is not
  modelled. `SendEnvelope` is not in the source; a call is the envelope it is given, and its
  error is an input. The reply's id and timestamp are not read.

  Proved:
  - `manualEnvelope_ok`, `manualEnvelope_error`: an arm that builds an envelope is one of the
    nine. A data arm's subject is the requested type, and an order arm's type is; both go
    from the station to the core. An arm that builds nothing answers `invalid payload: ...`
    or `unknown message type: ...`.
  - `apiSendManualMessage_response`: the console sends at most one envelope and answers 200
    exactly when it sent one and the send succeeded. With no envelope it answers 400, with
    the decoder's error, `invalid payload: ...` or `unknown message type: ...`.
  - `manual_message_routed`: every envelope the console sends takes, at the core's ingestor,
    the arm of the handler named for the requested type. A data envelope carries one of the
    four subjects the core's `HandleData` handles.
-/

namespace Shingo.Edge

open Shingo.Protocol Shingo.Core Shingo.Lifecycle Shingo.Production

/-- An envelope the console builds: a data envelope, or an envelope of the order type of
    method `m` whose payload is `p`. -/
inductive ManualEnvelope (Payload : Method → Type) where
  | data (msg : EdgeMessage)
  | order (m : Method) (src dst : Address) (p : Payload m)

namespace ManualEnvelope

variable {Payload : Method → Type}

/-- The handler method a type names at the receiver: `HandleData` for a data envelope. -/
def method : ManualEnvelope Payload → Method
  | .data _ => .handleData
  | .order m _ _ _ => m

/-- `env.Type`. -/
def type (env : ManualEnvelope Payload) : String := env.method.type

def src : ManualEnvelope Payload → Address
  | .data msg => msg.src
  | .order _ src _ _ => src

def dst : ManualEnvelope Payload → Address
  | .data msg => msg.dst
  | .order _ _ dst _ => dst

/-- The envelope carries the requested `type`. A data envelope carries it as its subject,
    one of the four the core's `HandleData` handles. An order envelope carries it as its own
    type, one of the five order types the console offers. -/
def Carries (type : String) : ManualEnvelope Payload → Prop
  | .data msg =>
    msg.subject = type ∧
      type ∈ [subjectEdgeRegister, subjectEdgeHeartbeat, subjectNodeListRequest, subjectProductionReport]
  | .order m _ _ _ =>
    m.type = type ∧
      type ∈ [typeOrderRequest, typeOrderCancel, typeOrderReceipt, typeOrderRedirect, typeOrderStorageWaybill]

end ManualEnvelope

/-- `json.Unmarshal` into the request and into the console's own payload structs:
    `{version, line_ids}` of `edge.register`, the uptime `{uptime}` is left with (its error
    is dropped), and the entries of `production.report`. -/
structure ManualDecoders where
  request : List UInt8 → Except String (String × List UInt8)
  register : List UInt8 → Except String (String × List String)
  heartbeatUptime : List UInt8 → Int
  report : List UInt8 → Except String (List ReportEntry)

section

variable {Payload : Method → Type} (dec : Unmarshal Payload) (md : ManualDecoders)

/-- An order arm of `switch req.Type`, the five differing only in their method `m`:
    `json.Unmarshal` of the payload into `m`'s type, then `NewEnvelope(m.type, src, dst, &p)`. -/
def orderEnvelope (src dst : Address) (m : Method) (payload : List UInt8) :
    Except String (ManualEnvelope Payload) :=
  match dec.payload m payload with
  | .error e => .error ("invalid payload: " ++ e)
  | .ok p => .ok (.order m src dst p)

/-- The `switch req.Type` of `apiSendManualMessage`: the envelope its arm builds, or the
    message of its 400. -/
def manualEnvelope (stationID hostname type : String) (payload : List UInt8) :
    Except String (ManualEnvelope Payload) :=
  let src : Address := { role := roleEdge, station := stationID }
  let dst : Address := { role := roleCore, station := "" }
  let order (m : Method) := orderEnvelope dec src dst m payload
  if type = "edge.register" then
    match md.register payload with
    | .error e => .error ("invalid payload: " ++ e)
    | .ok (version, lineIDs) =>
      .ok (.data ⟨subjectEdgeRegister, src, dst, .edgeRegister ⟨stationID, hostname, version, lineIDs⟩⟩)
  else if type = "edge.heartbeat" then
    .ok (.data ⟨subjectEdgeHeartbeat, src, dst, .edgeHeartbeat ⟨stationID, md.heartbeatUptime payload, 0⟩⟩)
  else if type = "production.report" then
    match md.report payload with
    | .error e => .error ("invalid payload: " ++ e)
    | .ok entries => .ok (.data ⟨subjectProductionReport, src, dst, .productionReport ⟨stationID, entries⟩⟩)
  else if type = "node.list_request" then
    .ok (.data ⟨subjectNodeListRequest, src, dst, .nodeListRequest⟩)
  else if type = "order.request" then order .handleOrderRequest
  else if type = "order.cancel" then order .handleOrderCancel
  else if type = "order.receipt" then order .handleOrderReceipt
  else if type = "order.redirect" then order .handleOrderRedirect
  else if type = "order.storage_waybill" then order .handleOrderStorageWaybill
  else .error ("unknown message type: " ++ type)

/-- `apiSendManualMessage` on a request body, `sendErr` being what `SendEnvelope` returns:
    the envelope it sends, if any, and its response. -/
def apiSendManualMessage (stationID hostname : String) (sendErr : Option String) (body : List UInt8) :
    Option (ManualEnvelope Payload) × Response Unit :=
  match md.request body with
  | .error e => (none, .error 400 e)
  | .ok (type, payload) =>
    match manualEnvelope dec md stationID hostname type payload with
    | .error msg => (none, .error 400 msg)
    | .ok env =>
      match sendErr with
      | some err => (some env, .error 500 ("send failed: " ++ err))
      | none => (some env, .ok ())

end

/-! ## The arms -/

section

variable {Payload : Method → Type} (dec : Unmarshal Payload) (md : ManualDecoders)
  {stationID hostname type : String} {payload : List UInt8}

theorem orderEnvelope_ok {src dst : Address} {m : Method} {env : ManualEnvelope Payload}
    (h : orderEnvelope dec src dst m payload = .ok env) : ∃ p, env = .order m src dst p := by
  unfold orderEnvelope at h
  split at h <;> cases h
  exact ⟨_, rfl⟩

theorem orderEnvelope_error {src dst : Address} {m : Method} {msg : String}
    (h : orderEnvelope dec src dst m payload = (.error msg : Except String (ManualEnvelope Payload))) :
    ∃ e, msg = "invalid payload: " ++ e := by
  unfold orderEnvelope at h
  split at h <;> cases h
  exact ⟨_, rfl⟩

/-- An arm that builds an envelope is one of the nine: the envelope carries the requested
    type, from the station to the core. -/
theorem manualEnvelope_ok {env : ManualEnvelope Payload}
    (h : manualEnvelope dec md stationID hostname type payload = .ok env) :
    env.Carries type ∧ env.src = { role := roleEdge, station := stationID } ∧
      env.dst = { role := roleCore, station := "" } := by
  simp only [manualEnvelope, ite_eq_iff] at h
  rcases h with ⟨rfl, h⟩ | ⟨-, ⟨rfl, h⟩ | ⟨-, ⟨rfl, h⟩ | ⟨-, ⟨rfl, h⟩ | ⟨-, ⟨rfl, h⟩ | ⟨-, ⟨rfl, h⟩ |
    ⟨-, ⟨rfl, h⟩ | ⟨-, ⟨rfl, h⟩ | ⟨-, ⟨rfl, h⟩ | ⟨-, h⟩⟩⟩⟩⟩⟩⟩⟩⟩
  -- the data arms
  · split at h <;> cases h
    exact ⟨⟨rfl, by decide⟩, rfl, rfl⟩
  · cases h
    exact ⟨⟨rfl, by decide⟩, rfl, rfl⟩
  · split at h <;> cases h
    exact ⟨⟨rfl, by decide⟩, rfl, rfl⟩
  · cases h
    exact ⟨⟨rfl, by decide⟩, rfl, rfl⟩
  -- the five order arms, and `default`, which builds nothing
  all_goals first
    | cases h
    | obtain ⟨p, rfl⟩ := orderEnvelope_ok dec h
      exact ⟨⟨rfl, by decide⟩, rfl, rfl⟩

/-- An arm that builds nothing says why: a payload that does not decode, or a type outside
    the nine. -/
theorem manualEnvelope_error {msg : String}
    (h : manualEnvelope dec md stationID hostname type payload = (.error msg : Except String (ManualEnvelope Payload))) :
    (∃ e, msg = "invalid payload: " ++ e) ∨ msg = "unknown message type: " ++ type := by
  simp only [manualEnvelope, ite_eq_iff] at h
  rcases h with ⟨-, h⟩ | ⟨-, ⟨-, h⟩ | ⟨-, ⟨-, h⟩ | ⟨-, ⟨-, h⟩ | ⟨-, ⟨-, h⟩ | ⟨-, ⟨-, h⟩ |
    ⟨-, ⟨-, h⟩ | ⟨-, ⟨-, h⟩ | ⟨-, ⟨-, h⟩ | ⟨-, h⟩⟩⟩⟩⟩⟩⟩⟩⟩
  -- the data arms: `edge.register` and `production.report` decode a payload
  · split at h <;> cases h
    exact .inl ⟨_, rfl⟩
  · cases h
  · split at h <;> cases h
    exact .inl ⟨_, rfl⟩
  · cases h
  -- the five order arms, and `default`
  all_goals first
    | exact .inl (orderEnvelope_error dec h)
    | cases h
      exact .inr rfl

end

/-! ## A request -/

section

variable {Payload : Method → Type} (dec : Unmarshal Payload) (md : ManualDecoders)
  (stationID hostname : String) (sendErr : Option String) (body : List UInt8)

/-- The console sends at most one envelope and answers 200 exactly when it sent one and
    `SendEnvelope` succeeded, 500 with `send failed: ...` when that failed. With no envelope
    it answers 400, with the request decoder's error, `invalid payload: ...` or
    `unknown message type: ...`. -/
theorem apiSendManualMessage_response :
    let r := apiSendManualMessage dec md stationID hostname sendErr body
    (r.2 = .ok () ↔ r.1.isSome ∧ sendErr = none) ∧
    (∀ err, r.1.isSome → sendErr = some err → r.2 = .error 500 ("send failed: " ++ err)) ∧
    (r.1 = none → ∃ msg, r.2 = .error 400 msg ∧
      ((∃ e, md.request body = .error e ∧ msg = e) ∨ (∃ e, msg = "invalid payload: " ++ e) ∨
        ∃ type, msg = "unknown message type: " ++ type)) := by
  unfold apiSendManualMessage
  rcases hr : md.request body with e | ⟨type, payload⟩
  · simp
  rcases he : manualEnvelope dec md stationID hostname type payload with msg | env <;> simp only [he]
  · simpa using (manualEnvelope_error dec md he).imp_right fun h => ⟨type, h⟩
  · cases sendErr <;> simp

/-- Every envelope the console sends goes from the station to the core and carries the type
    the request named. At the core's ingestor it takes the arm of the handler named for its
    type: `HandleData` for a data envelope, whose subject is one of the four that handler
    handles, and for an order envelope the handler of the requested order type. -/
theorem manual_message_routed {env : ManualEnvelope Payload}
    (h : (apiSendManualMessage dec md stationID hostname sendErr body).1 = some env) :
    ∃ type payload, md.request body = .ok (type, payload) ∧ env.Carries type ∧
      switchArm env.type = some env.method ∧
      env.src = { role := roleEdge, station := stationID } ∧ env.dst = { role := roleCore, station := "" } := by
  unfold apiSendManualMessage at h
  rcases hr : md.request body with e | ⟨type, payload⟩ <;> simp only [hr] at h
  · cases h
  rcases he : manualEnvelope dec md stationID hostname type payload with msg | env' <;> simp only [he] at h
  · cases h
  obtain rfl : env' = env := by cases sendErr <;> simpa using h
  obtain ⟨hc, hs, hd⟩ := manualEnvelope_ok dec md he
  exact ⟨type, payload, rfl, hc, switchArm_eq_some.2 rfl, hs, hd⟩

end

/-- An `edge.heartbeat` request whose payload does not decode is still sent, with uptime 0, as
    a heartbeat for the core's `HandleData`. -/
theorem manual_message_routed_heartbeat :
    let dec : Unmarshal fun _ => Unit := ⟨fun _ => .error "", fun _ => .error "", fun _ _ => .ok ()⟩
    let md : ManualDecoders :=
      ⟨fun _ => .ok ("edge.heartbeat", [0x7b]), fun _ => .error "", fun _ => 0, fun _ => .error ""⟩
    let env : ManualEnvelope fun _ => Unit :=
      .data ⟨subjectEdgeHeartbeat, { role := roleEdge, station := "edge-1" }, { role := roleCore, station := "" },
        .edgeHeartbeat ⟨"edge-1", 0, 0⟩⟩
    (apiSendManualMessage dec md "edge-1" "edge-host" none []).1 = some env ∧
      ∃ type payload, md.request [] = .ok (type, payload) ∧ env.Carries type ∧
        switchArm env.type = some env.method ∧
        env.src = { role := roleEdge, station := "edge-1" } ∧ env.dst = { role := roleCore, station := "" } := by
  intro dec md env
  exact ⟨rfl, manual_message_routed dec md "edge-1" "edge-host" none [] rfl⟩

end Shingo.Edge
