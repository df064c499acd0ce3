import Mathlib.Logic.Basic
/-
  Shingo.Fleet.Http — the HTTP side of the RDS `Client` (`shingo-core/rds/client.go`: `url`,
  `Reconfigure`, `get`, `post`, `decodeBytes`, `checkResponse`) and the three system calls
  of `shingo-core/rds/system.go` that use it: `Ping`, `GetProfiles` and `GetLicenseInfo`.

  A request is one round trip: the transport fails, or the server answers with a status
  code and a body that `io.ReadAll` reads or fails to read. That outcome is an input, as
  `http.Client` is the library's, and so is `json.Unmarshal` of the body into each result
  type. `PingResponse`, `LicenseInfo` and `LicenseResponse` are not in the source: the
  decoders give the fields the calls read. `string(data)` of a body that is not UTF-8 has
  no Lean string, so the text of a body is an input too. `dbg`, `truncate`, `getRaw` and
  `postRaw` (which nothing here calls) are not modelled. The mutex makes `url` and
  `Reconfigure` atomic, so a request sees the base URL of the last `Reconfigure` before it.

  Proved:
  - `decodeBytes_ok`: a body is decoded only below status 400; from 400 on, the error is
    `rds HTTP <code>: <body>` whatever the body.
  - `rds_calls_ok`: `Ping` and `GetProfiles` return a value exactly when the server answered
    below 400 and the body decoded to it; `GetLicenseInfo` returns license data exactly when,
    besides, the response's code was 0 and its data was not null.
-/

namespace Shingo.Fleet

/-- The fields of `Client` a request reads: `baseURL` (the timeout is the transport's). -/
structure Client where
  baseURL : String
  timeoutMs : Nat

/-- `c.url(path)`. -/
def Client.url (c : Client) (path : String) : String := c.baseURL ++ path

/-- `c.Reconfigure(baseURL, timeout)`. -/
def Client.reconfigure (_c : Client) (baseURL : String) (timeoutMs : Nat) : Client := ⟨baseURL, timeoutMs⟩

/-- What one round trip gives `get` or `post`: the transport's error, or the status code and
    what `io.ReadAll` read of the body. -/
inductive Exchange where
  | failed (err : String)
  | answered (statusCode : Nat) (body : Except String (List UInt8))

section

variable {α : Type} (decode : List UInt8 → Except String α) (text : List UInt8 → String)

/-- `decodeBytes(data, statusCode, result)` for a non-nil `result` (every caller here passes
    one): `decode` is `json.Unmarshal` into it, `text` is `string(data)`. -/
def decodeBytes (data : List UInt8) (statusCode : Nat) : Except String α :=
  if 400 ≤ statusCode then .error ("rds HTTP " ++ toString statusCode ++ ": " ++ text data)
  else
    match decode data with
    | .error err => .error ("rds decode: " ++ err)
    | .ok v => .ok v

/-- The common tail of `get` and `post` once the request went out as `method`. -/
def roundTrip (method path : String) : Exchange → Except String α
  | .failed err => .error ("rds " ++ method ++ " " ++ path ++ ": " ++ err)
  | .answered _ (.error err) => .error ("rds read body: " ++ err)
  | .answered statusCode (.ok data) => decodeBytes decode text data statusCode

/-- `c.get(path, result)`, sent to `c.url(path)`. -/
def get (path : String) (x : Exchange) : Except String α := roundTrip decode text "GET" path x

/-- `c.post(path, body, result)` with a body `json.Marshal` encodes (`marshalErr` its error,
    if any), sent to `c.url(path)`. -/
def post (path : String) (marshalErr : Option String) (x : Exchange) : Except String α :=
  match marshalErr with
  | some err => .error ("rds marshal: " ++ err)
  | none => roundTrip decode text "POST" path x

end

/-- `checkResponse(&r)` on the envelope code and message of an RDS response. -/
def checkResponse (code : Int) (msg : String) : Option String :=
  if code ≠ 0 then some ("rds error " ++ toString code ++ ": " ++ msg) else none

/-- The fields of `LicenseResponse` `GetLicenseInfo` reads: the embedded `Response` and
    `Data`, `none` for null. -/
structure LicenseResponse (License : Type) where
  code : Int
  msg : String
  data : Option License

section

variable {PingResponse License : Type} (text : List UInt8 → String)

/-- `c.Ping()`. -/
def ping (decode : List UInt8 → Except String PingResponse) (x : Exchange) : Except String PingResponse :=
  get decode text "/ping" x

/-- `c.GetProfiles(file)`: the raw JSON of the answer, which any body of a JSON value decodes
    to (`decode`). `GetProfilesRequest{File}` always encodes. -/
def getProfiles (decode : List UInt8 → Except String (List UInt8)) (x : Exchange) : Except String (List UInt8) :=
  post decode text "/getProfiles" none x

/-- `c.GetLicenseInfo()`. -/
def getLicenseInfo (decode : List UInt8 → Except String (LicenseResponse License)) (x : Exchange) :
    Except String License :=
  match get decode text "/licInfo" x with
  | .error err => .error err
  | .ok resp =>
    match checkResponse resp.code resp.msg with
    | some err => .error err
    | none =>
      match resp.data with
      | none => .error "license info: empty response data"
      | some info => .ok info

end

/-! ## What a call returns -/

section

variable {α : Type} (decode : List UInt8 → Except String α) (text : List UInt8 → String)

/-- A body is decoded only below status 400; from 400 on the error quotes the status and
    the body, whatever the body. -/
theorem decodeBytes_ok (data : List UInt8) (statusCode : Nat) :
    (∀ v, decodeBytes decode text data statusCode = .ok v ↔ statusCode < 400 ∧ decode data = .ok v) ∧
      (400 ≤ statusCode →
        decodeBytes decode text data statusCode = .error ("rds HTTP " ++ toString statusCode ++ ": " ++ text data)) := by
  unfold decodeBytes
  refine ⟨fun v => ?_, fun h => if_pos h⟩
  by_cases hs : 400 ≤ statusCode
  · simp [hs, Nat.not_lt.2 hs]
  · rw [if_neg hs]
    cases decode data <;> simp [hs, Nat.lt_of_not_le hs]

theorem roundTrip_ok (method path : String) (x : Exchange) (v : α) :
    roundTrip decode text method path x = .ok v ↔
      ∃ statusCode data, x = .answered statusCode (.ok data) ∧ statusCode < 400 ∧ decode data = .ok v := by
  rcases x with err | ⟨statusCode, _ | data⟩
  · simp [roundTrip]
  · simp [roundTrip]
  · rw [roundTrip, (decodeBytes_ok decode text data statusCode).1 v]
    exact ⟨fun h => ⟨_, _, rfl, h⟩, fun ⟨_, _, hx, h⟩ => by cases hx; exact h⟩

end

theorem getLicenseInfo_ok {License : Type} (text : List UInt8 → String)
    (decode : List UInt8 → Except String (LicenseResponse License)) (x : Exchange) (info : License) :
    getLicenseInfo text decode x = .ok info ↔
      ∃ statusCode data msg, x = .answered statusCode (.ok data) ∧ statusCode < 400 ∧
        decode data = .ok ⟨0, msg, some info⟩ := by
  unfold getLicenseInfo get
  constructor
  · intro h
    split at h
    · cases h
    rename_i resp hget
    obtain ⟨statusCode, data, rfl, hs, hd⟩ := (roundTrip_ok decode text _ _ x resp).1 hget
    -- `checkResponse` passes only code 0, and a null `Data` is an error
    rcases resp with ⟨code, msg, _ | info'⟩ <;> by_cases hc : code = 0 <;> simp [checkResponse, hc] at h
    subst hc h
    exact ⟨statusCode, data, msg, rfl, hs, hd⟩
  · rintro ⟨statusCode, data, msg, rfl, hs, hd⟩
    rw [(roundTrip_ok decode text _ _ _ _).2 ⟨statusCode, data, rfl, hs, hd⟩]
    rfl

/-- Each of the three system calls returns a value exactly when the server answered below 400
    and the body decoded to it. `GetLicenseInfo` also needs the response's code to be 0 and
    its data not null. Every other outcome is an error: a transport error, an unread body, a
    status of 400 or more (whatever the body), a body that does not decode, or an RDS error
    code. -/
theorem rds_calls_ok {PingResponse License : Type} (text : List UInt8 → String)
    (decodePing : List UInt8 → Except String PingResponse) (decodeProfiles : List UInt8 → Except String (List UInt8))
    (decodeLicense : List UInt8 → Except String (LicenseResponse License)) (x : Exchange) :
    (∀ r, ping text decodePing x = .ok r ↔
      ∃ statusCode data, x = .answered statusCode (.ok data) ∧ statusCode < 400 ∧ decodePing data = .ok r) ∧
    (∀ raw, getProfiles text decodeProfiles x = .ok raw ↔
      ∃ statusCode data, x = .answered statusCode (.ok data) ∧ statusCode < 400 ∧ decodeProfiles data = .ok raw) ∧
    (∀ info, getLicenseInfo text decodeLicense x = .ok info ↔
      ∃ statusCode data msg, x = .answered statusCode (.ok data) ∧ statusCode < 400 ∧
        decodeLicense data = .ok ⟨0, msg, some info⟩) :=
  ⟨roundTrip_ok decodePing text "GET" "/ping" x, roundTrip_ok decodeProfiles text "POST" "/getProfiles" x,
    getLicenseInfo_ok text decodeLicense x⟩

end Shingo.Fleet
