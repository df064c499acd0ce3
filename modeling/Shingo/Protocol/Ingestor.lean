import Shingo.Protocol.Envelope
/-
  Shingo.Protocol.Ingestor — `Ingestor.HandleRaw` and `decodeAndCall`
  (`protocol/ingestor.go`): the two-phase decode of a raw message and its dispatch to a
  `MessageHandler`.

  `HandleRaw` decodes the routing header, drops an expired or filtered message, decodes
  the full envelope, and switches on its type; each of the twelve arms hands the envelope
  to `decodeAndCall` with its own handler method, which decodes the payload and calls the
  method. Decoding is `json.Unmarshal`, the library's: the decoders are parameters, one per
  type decoded, the payload type of each method among them. A handler call is the output,
  so the model of a call of `HandleRaw` is the list of the handler calls it makes.
  `RawHeader`, the envelope's type and payload fields and `IsExpiredHeader` are not in the
  source and follow the spec (§3, §4.1).

  Proved:
  - `switchArm_eq_some`: the arm the switch takes for a type is the method named for it,
    and a type no method is named for takes `default`.
  - `handleRaw_invokes`: `HandleRaw` calls at most one handler method, and calls `H_t(env,
    p)` exactly when the header decodes, has not expired and passes the filter, the
    envelope decodes to `env` of type `t`, and its payload decodes to `p`.
-/

namespace Shingo.Protocol

/-- Modelled from the spec: `protocol.RawHeader`, the routing projection phase 1 decodes;
    its `timestamp` is not read. `expiresAt` is an instant in Unix nanoseconds. -/
structure RawHeader where
  type : String
  id : String
  src : Address
  dst : Address
  expiresAt : Option Int
  deriving DecidableEq, Repr

/-- Modelled from the spec: `IsExpiredHeader(h)` at instant `now`, true iff `expires_at` is
    set and `now ≥ expires_at`. -/
def isExpiredHeader (now : Int) (h : RawHeader) : Bool :=
  match h.expiresAt with
  | none => false
  | some t => decide (t ≤ now)

/-- Modelled from the spec: `protocol.Envelope` as phase 2 decodes it, the header fields a
    handler reads with the message type and the still encoded payload. -/
structure FullEnvelope extends Envelope where
  type : String
  payload : List UInt8
  deriving DecidableEq, Repr

/-- The methods of `MessageHandler`. -/
inductive Method where
  | handleData
  | handleOrderRequest
  | handleOrderCancel
  | handleOrderReceipt
  | handleOrderRedirect
  | handleOrderStorageWaybill
  | handleOrderAck
  | handleOrderWaybill
  | handleOrderUpdate
  | handleOrderDelivered
  | handleOrderError
  | handleOrderCancelled
  deriving DecidableEq, Repr

/-- The message type each method is named for; `HandleData` is `data`'s. -/
def Method.type : Method → String
  | .handleData => typeData
  | .handleOrderRequest => typeOrderRequest
  | .handleOrderCancel => typeOrderCancel
  | .handleOrderReceipt => typeOrderReceipt
  | .handleOrderRedirect => typeOrderRedirect
  | .handleOrderStorageWaybill => typeOrderStorageWaybill
  | .handleOrderAck => typeOrderAck
  | .handleOrderWaybill => typeOrderWaybill
  | .handleOrderUpdate => typeOrderUpdate
  | .handleOrderDelivered => typeOrderDelivered
  | .handleOrderError => typeOrderError
  | .handleOrderCancelled => typeOrderCancelled

/-- `json.Unmarshal` into each type `HandleRaw` decodes: the raw bytes into `RawHeader`
    and into `Envelope`, and a payload into the payload type `Payload m` of method `m`. -/
structure Unmarshal (Payload : Method → Type) where
  header : List UInt8 → Except String RawHeader
  envelope : List UInt8 → Except String FullEnvelope
  payload : (m : Method) → List UInt8 → Except String (Payload m)

/-- A call `m(env, p)` of a `MessageHandler` method. -/
structure Invocation (Payload : Method → Type) where
  method : Method
  env : FullEnvelope
  payload : Payload method

/-- The `filter` of an `Ingestor`; `none` is a nil `FilterFunc`. -/
structure Ingestor where
  filter : Option (RawHeader → Bool)

/-- The arm of `HandleRaw`'s `switch env.Type` a type takes: the handler method its
    `decodeAndCall` is passed, or `none` for `default`. -/
def switchArm (type : String) : Option Method :=
  if type = typeData then some .handleData
  else if type = typeOrderRequest then some .handleOrderRequest
  else if type = typeOrderCancel then some .handleOrderCancel
  else if type = typeOrderReceipt then some .handleOrderReceipt
  else if type = typeOrderRedirect then some .handleOrderRedirect
  else if type = typeOrderStorageWaybill then some .handleOrderStorageWaybill
  else if type = typeOrderAck then some .handleOrderAck
  else if type = typeOrderWaybill then some .handleOrderWaybill
  else if type = typeOrderUpdate then some .handleOrderUpdate
  else if type = typeOrderDelivered then some .handleOrderDelivered
  else if type = typeOrderError then some .handleOrderError
  else if type = typeOrderCancelled then some .handleOrderCancelled
  else none

section
variable {Payload : Method → Type} (dec : Unmarshal Payload)

/-- `decodeAndCall(m, env)`: the payload decoded into `m`'s type and `m` called, or a log
    line and no call. -/
def decodeAndCall (m : Method) (env : FullEnvelope) : List (Invocation Payload) :=
  match dec.payload m env.payload with
  | .error _ => []
  | .ok p => [⟨m, env, p⟩]

/-- The `switch env.Type` of `HandleRaw`: each arm is `decodeAndCall` of its method. -/
def dispatch (env : FullEnvelope) : List (Invocation Payload) :=
  match switchArm env.type with
  | some m => decodeAndCall dec m env
  | none => []

/-- `HandleRaw(data)` at instant `now`. -/
def Ingestor.handleRaw (ing : Ingestor) (now : Int) (data : List UInt8) : List (Invocation Payload) :=
  match dec.header data with
  | .error _ => []
  | .ok hdr =>
    if isExpiredHeader now hdr then []
    else if ing.filter.any (fun f => !f hdr) then []
    else
      match dec.envelope data with
      | .error _ => []
      | .ok env => dispatch dec env

end

/-- The edge's ingestor (`shingo-edge/cmd/shingoedge/main.go`): it takes what is addressed
    to its node or to `*`. -/
def edgeIngestor (nodeID : String) : Ingestor := ⟨some fun hdr => edgeFilter nodeID hdr.dst⟩

/-- The core's ingestor (`shingo-core/cmd/shingocore/main.go`): its filter takes all. -/
def coreIngestor : Ingestor := ⟨some fun _ => true⟩

/-! ## The switch -/

/-- Each arm passes the method named for its type, and no other type takes an arm. -/
theorem switchArm_eq_some {type : String} {m : Method} : switchArm type = some m ↔ m.type = type := by
  constructor
  · intro h
    simp only [switchArm, ite_eq_iff, Option.some.injEq, reduceCtorEq, and_false, or_false] at h
    repeat' rcases h with ⟨h, rfl⟩ | ⟨-, h⟩
    all_goals subst_vars; rfl
  · rintro rfl
    cases m <;> rfl

/-! ## Handler calls -/

section
variable {Payload : Method → Type} (dec : Unmarshal Payload)

theorem length_decodeAndCall_le (m : Method) (env : FullEnvelope) : (decodeAndCall dec m env).length ≤ 1 := by
  unfold decodeAndCall; split <;> simp

theorem mem_decodeAndCall {m : Method} {env : FullEnvelope} {inv : Invocation Payload} :
    inv ∈ decodeAndCall dec m env ↔
      inv.method = m ∧ inv.env = env ∧ dec.payload inv.method inv.env.payload = .ok inv.payload := by
  obtain ⟨m', env', p⟩ := inv
  unfold decodeAndCall
  split
  · next e he =>
    simp only [List.not_mem_nil, false_iff, not_and]
    rintro rfl rfl
    simp [he]
  · next p₀ hp₀ =>
    rw [List.mem_singleton]
    constructor
    · rintro ⟨⟩; exact ⟨rfl, rfl, hp₀⟩
    · rintro ⟨rfl, rfl, hp⟩
      cases hp₀.symm.trans hp
      rfl

theorem mem_dispatch {env : FullEnvelope} {inv : Invocation Payload} :
    inv ∈ dispatch dec env ↔
      inv.env = env ∧ inv.method.type = env.type ∧ dec.payload inv.method inv.env.payload = .ok inv.payload := by
  unfold dispatch
  split
  · next m hm =>
    rw [mem_decodeAndCall, ← switchArm_eq_some, hm, Option.some.injEq]
    exact ⟨fun ⟨h1, h2, h3⟩ => ⟨h2, h1.symm, h3⟩, fun ⟨h1, h2, h3⟩ => ⟨h2.symm, h1, h3⟩⟩
  · next hm =>
    simp only [List.not_mem_nil, false_iff]
    rintro ⟨-, ht, -⟩
    rw [switchArm_eq_some.mpr ht] at hm
    cases hm

theorem length_dispatch_le (env : FullEnvelope) : (dispatch dec env).length ≤ 1 := by
  unfold dispatch; split
  · exact length_decodeAndCall_le dec _ _
  · exact Nat.zero_le 1

/-- `HandleRaw` calls at most one handler method. It calls `m(env, p)` exactly when the
    header decodes, has not expired and passes the filter, if any; the envelope decodes to
    `env`, whose type is the one `m` is named for; and the payload decodes to `p` in `m`'s
    payload type. A message failing any of these reaches no handler. -/
theorem handleRaw_invokes (ing : Ingestor) (now : Int) (data : List UInt8) :
    (ing.handleRaw dec now data).length ≤ 1 ∧
      ∀ inv : Invocation Payload, inv ∈ ing.handleRaw dec now data ↔
        ∃ hdr, dec.header data = .ok hdr ∧ isExpiredHeader now hdr = false ∧
          (ing.filter.all fun f => f hdr) = true ∧ dec.envelope data = .ok inv.env ∧
          inv.env.type = inv.method.type ∧ dec.payload inv.method inv.env.payload = .ok inv.payload := by
  have hfilter : ∀ hdr, (ing.filter.any fun f => !f hdr) = !(ing.filter.all fun f => f hdr) := by
    intro hdr; cases ing.filter <;> rfl
  unfold Ingestor.handleRaw
  cases hh : dec.header data with
  | error e => simp
  | ok hdr =>
    simp only [Except.ok.injEq, exists_eq_left', hfilter, Bool.not_eq_true']
    split_ifs with hx hf
    · simp [hx]
    · simp [hf]
    · cases he : dec.envelope data with
      | error e => simp
      | ok env =>
        refine ⟨length_dispatch_le dec env, fun inv => ?_⟩
        simp only [Bool.not_eq_true] at hx hf
        simp only [mem_dispatch, hx, hf, Except.ok.injEq, true_and]
        constructor
        · rintro ⟨rfl, h2, h3⟩; exact ⟨rfl, h2.symm, h3⟩
        · rintro ⟨rfl, h2, h3⟩; exact ⟨rfl, h2.symm, h3⟩

end

end Shingo.Protocol
