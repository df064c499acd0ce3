import Mathlib.Algebra.BigOperators.Group.List
import Mathlib.Algebra.Order.Ring.Nat
import Shingo.Core.Handler
/-
  Shingo.Lifecycle.Heartbeat — the edge's `Heartbeater` (`shingo-edge/messaging/heartbeat.go`):
  the messages it builds, `publishWithRetry`, and `Start`, which registers with the core
  before the heartbeat loop begins.

  `Start` sends `edge.register`, then `node.list_request`, each through `publishWithRetry`,
  and only then starts the loop that sends `edge.heartbeat` on each tick. `publishWithRetry`
  publishes up to three times; after a failed publish it waits 2 s, then 4 s, then 8 s
  (`time.After`) unless the stop channel wins the `select`, when it returns the error at
  once. The broker's answer to each publish is an input, and so is the moment `Stop` closes
  the stop channel: a closed channel stays closed and a fresh timer is never ready before
  it, so the stop wins that wait and every later one. Times are in ms. `os.Hostname` is the
  library's (its error leaves the name empty), and building an envelope of these bodies
  cannot fail.

  Proved:
  - `publishes_publishWithRetry`, `waits_publishWithRetry`: a call publishes one to three
    times, until the first success, the first failure whose wait the stop wins, or three
    failures; it waits 2 s, 4 s, 8 s after successive failures not cut short, the third
    included, from the general `retryLoop` lemmas.
  - `start_run`: for every answer of the broker and every moment of `Stop`, `Start`
    publishes one to three copies of its `edge.register`, then one to three of its
    `node.list_request`, and waits at most 28 s before the loop starts, completing no wait
    that `Stop` comes before. It waits exactly 28 s when all six publishes fail and `Stop`
    comes after the sixth wait or never.
-/

namespace Shingo.Lifecycle

open Shingo.Protocol Shingo.Core

/-- The data bodies the edge sends, by its heartbeater or its console;
    `protocol.NodeListRequest` has no fields. -/
inductive EdgeBody where
  | edgeRegister (r : EdgeRegister)
  | nodeListRequest
  | edgeHeartbeat (hb : EdgeHeartbeat)
  | productionReport (r : ProductionReport)
  deriving DecidableEq, Repr

/-- A data envelope the edge builds: its subject, addresses and body. -/
structure EdgeMessage where
  subject : String
  src : Address
  dst : Address
  body : EdgeBody
  deriving DecidableEq, Repr

/-- The fields of `Heartbeater` its sends read. -/
structure Heartbeater where
  stationID : String
  version : String
  lineIDs : List String

namespace Heartbeater

variable (h : Heartbeater)

/-- `Address{Role: RoleEdge, Station: h.stationID}`. -/
def self : Address := { role := roleEdge, station := h.stationID }

/-- `Address{Role: RoleCore}`. -/
def core : Address := { role := roleCore, station := "" }

/-- The envelope `sendRegister` builds. -/
def registerMessage (hostname : String) : EdgeMessage :=
  ⟨subjectEdgeRegister, h.self, core, .edgeRegister ⟨h.stationID, hostname, h.version, h.lineIDs⟩⟩

/-- The envelope `sendNodeListRequest` builds. -/
def nodeListRequestMessage : EdgeMessage :=
  ⟨subjectNodeListRequest, h.self, core, .nodeListRequest⟩

/-- The envelope `sendHeartbeat` builds, `uptime` seconds after `Start` with `orders` active
    orders. -/
def heartbeatMessage (uptime orders : Int) : EdgeMessage :=
  ⟨subjectEdgeHeartbeat, h.self, core, .edgeHeartbeat ⟨h.stationID, uptime, orders⟩⟩

end Heartbeater

/-! ## The retry loop -/

/-- One attempt of `publishWithRetry`: the error its publish returns, if any, and whether the
    stop channel wins the wait after it when it fails. -/
structure Attempt where
  publishErr : Option String
  stopped : Bool

/-- A call of `publishWithRetry`: the error it returns (`none` for nil), the number of
    publishes it makes, and the waits it completes, in ms. -/
structure Retry where
  err : Option String
  publishes : Nat
  waits : List Nat
  deriving DecidableEq, Repr

/-- The loop of `publishWithRetry` from attempt `attempt`, with `left` attempts to go, the
    current `backoff` and `err` the last error. -/
def retryLoop (attempts : Nat → Attempt) : Nat → Nat → Nat → Option String → Retry
  | 0, _, _, err => ⟨err, 0, []⟩
  | left + 1, attempt, backoff, _ =>
    match (attempts attempt).publishErr with
    | none => ⟨none, 1, []⟩
    | some err =>
      if (attempts attempt).stopped then ⟨some err, 1, []⟩
      else
        let r := retryLoop attempts left (attempt + 1) (backoff * 2) (some err)
        ⟨r.err, r.publishes + 1, backoff :: r.waits⟩

/-- `publishWithRetry(env, label)`: three attempts from a 2 s backoff. -/
def publishWithRetry (attempts : Nat → Attempt) : Retry := retryLoop attempts 3 0 2000 none

/-- An attempt that ends the loop early: its publish succeeds, or the stop wins its wait. -/
def Attempt.ends (a : Attempt) : Bool := a.publishErr.isNone || a.stopped

@[simp] theorem Attempt.ends_mk (publishErr : Option String) (stopped : Bool) :
    (Attempt.mk publishErr stopped).ends = (publishErr.isNone || stopped) := rfl

/-- The waits of a call that no attempt ends: `backoff`, doubled after each, `left` times. -/
def backoffs : Nat → Nat → List Nat
  | 0, _ => []
  | left + 1, backoff => backoff :: backoffs left (backoff * 2)

section

variable {attempts : Nat → Attempt}

theorem retryLoop_of_ends {attempt : Nat} (h : (attempts attempt).ends) (left backoff : Nat)
    (err : Option String) :
    retryLoop attempts (left + 1) attempt backoff err = ⟨(attempts attempt).publishErr, 1, []⟩ := by
  cases hp : (attempts attempt).publishErr <;> simp_all [retryLoop, Attempt.ends]

theorem retryLoop_of_not_ends {attempt : Nat} (h : ¬(attempts attempt).ends) (left backoff : Nat)
    (err : Option String) :
    retryLoop attempts (left + 1) attempt backoff err =
      let r := retryLoop attempts left (attempt + 1) (backoff * 2) (attempts attempt).publishErr
      ⟨r.err, r.publishes + 1, backoff :: r.waits⟩ := by
  cases hp : (attempts attempt).publishErr <;> simp_all [retryLoop, Attempt.ends]

theorem publishes_retryLoop (left attempt backoff : Nat) (err : Option String) :
    (retryLoop attempts left attempt backoff err).publishes =
      min ((retryLoop attempts left attempt backoff err).waits.length + 1) left := by
  induction left generalizing attempt backoff err with
  | zero => rfl
  | succ left ih =>
    by_cases h : (attempts attempt).ends
    · simp [retryLoop_of_ends h]
    · simp only [retryLoop_of_not_ends h, ih, List.length_cons]
      omega

theorem waits_retryLoop_prefix_backoffs (left attempt backoff : Nat) (err : Option String) :
    (retryLoop attempts left attempt backoff err).waits <+: backoffs left backoff := by
  induction left generalizing attempt backoff err with
  | zero => exact List.nil_prefix
  | succ left ih =>
    by_cases h : (attempts attempt).ends
    · simp [retryLoop_of_ends h]
    · simpa [retryLoop_of_not_ends h, backoffs] using ih (attempt + 1) (backoff * 2) _

theorem waits_length_retryLoop_le {j : Nat} (left attempt backoff : Nat) (err : Option String)
    (hj : (attempts (attempt + j)).ends) :
    (retryLoop attempts left attempt backoff err).waits.length ≤ j := by
  induction left generalizing attempt backoff err j with
  | zero => simp [retryLoop]
  | succ left ih =>
    by_cases h : (attempts attempt).ends
    · simp [retryLoop_of_ends h]
    · cases j with
      | zero => exact absurd hj h
      | succ j =>
        have := ih (attempt + 1) (backoff * 2) (attempts attempt).publishErr (j := j)
          (by rwa [Nat.add_right_comm])
        simpa [retryLoop_of_not_ends h] using this

theorem waits_length_retryLoop_eq (left attempt backoff : Nat) (err : Option String)
    (hj : ∀ j < left, ¬(attempts (attempt + j)).ends) :
    (retryLoop attempts left attempt backoff err).waits.length = left := by
  induction left generalizing attempt backoff err with
  | zero => rfl
  | succ left ih =>
    have h : ¬(attempts attempt).ends := hj 0 (by omega)
    have := ih (attempt + 1) (backoff * 2) (attempts attempt).publishErr
      fun j hj' => by simpa [Nat.add_right_comm] using hj (j + 1) (by omega)
    simp [retryLoop_of_not_ends h, this]

end

/-! ## Three attempts from 2 s -/

section

variable (attempts : Nat → Attempt)

/-- A call publishes one to three times. -/
theorem publishes_publishWithRetry :
    1 ≤ (publishWithRetry attempts).publishes ∧ (publishWithRetry attempts).publishes ≤ 3 := by
  have := @publishes_retryLoop attempts 3 0 2000 none
  unfold publishWithRetry
  omega

/-- A call waits 2 s, 4 s, 8 s after successive failures, stopping at the first attempt that
    ends it: it completes all three waits exactly when none does, and then publishes three
    times. -/
theorem waits_publishWithRetry :
    (publishWithRetry attempts).waits <+: [2000, 4000, 8000] ∧
      ((publishWithRetry attempts).waits.length = 3 ↔ ∀ j < 3, ¬(attempts j).ends) ∧
      ((publishWithRetry attempts).waits.length = 3 → (publishWithRetry attempts).publishes = 3) := by
  refine ⟨waits_retryLoop_prefix_backoffs 3 0 2000 none, ⟨fun h3 j hj hend => ?_, fun h =>
    waits_length_retryLoop_eq 3 0 2000 none (by simpa using h)⟩, fun h3 => ?_⟩
  · have := waits_length_retryLoop_le 3 0 2000 none (j := j) (by simpa using hend)
    unfold publishWithRetry at h3
    omega
  · have := @publishes_retryLoop attempts 3 0 2000 none
    unfold publishWithRetry at h3 ⊢
    omega

end

theorem sum_le_of_prefix {waits : List Nat} (h : waits <+: [2000, 4000, 8000]) :
    waits.sum ≤ 14000 ∧ (waits.sum = 14000 ↔ waits.length = 3) := by
  rcases List.prefix_cons_iff.1 h with rfl | ⟨t, rfl, h1⟩
  · simp
  rcases List.prefix_cons_iff.1 h1 with rfl | ⟨t, rfl, h2⟩
  · simp
  rcases List.prefix_cons_iff.1 h2 with rfl | ⟨t, rfl, h3⟩
  · simp
  rw [List.prefix_nil.1 h3]
  simp

/-! ## `Start` -/

/-- What `Start` has done when it reaches `go h.loop()`: the envelopes it published, in order,
    and the waits it completed, in ms. -/
structure Started where
  published : List EdgeMessage
  waits : List Nat
  deriving DecidableEq, Repr

/-- `Start` up to `go h.loop()`: `sendRegister`, then `sendNodeListRequest`, each one call of
    `publishWithRetry` that logs what it returns. `publishErr i` is the broker's answer to the
    `i`-th publish since `Start`, and `stopAt = some n` when `Stop` comes before the timer of
    the `n`-th wait fires: the stop wins that wait and every later one. -/
def Heartbeater.start (h : Heartbeater) (hostname : String) (publishErr : Nat → Option String)
    (stopAt : Option Nat) : Started :=
  let stopWins (wait : Nat) := stopAt.any (· ≤ wait)
  let reg := publishWithRetry fun i => ⟨publishErr i, stopWins i⟩
  let nl := publishWithRetry fun i => ⟨publishErr (reg.publishes + i), stopWins (reg.waits.length + i)⟩
  ⟨List.replicate reg.publishes (h.registerMessage hostname) ++
      List.replicate nl.publishes h.nodeListRequestMessage,
    reg.waits ++ nl.waits⟩


theorem stopWins_none_iff (stopAt : Option Nat) (n : Nat) :
    (∀ i < n, stopAt.any (· ≤ i) = false) ↔ stopAt.all (n ≤ ·) := by
  cases stopAt with
  | none => simp
  | some m =>
    simp only [Option.any_some, Option.all_some, decide_eq_false_iff_not, decide_eq_true_eq, not_le]
    exact ⟨fun h => by cases n with | zero => omega | succ n => exact h n (by omega), fun h i hi => by omega⟩

section

variable (h : Heartbeater) (hostname : String) (publishErr : Nat → Option String) (stopAt : Option Nat)

theorem start_published : ∃ r n, 1 ≤ r ∧ r ≤ 3 ∧ 1 ≤ n ∧ n ≤ 3 ∧
    (h.start hostname publishErr stopAt).published =
      List.replicate r (h.registerMessage hostname) ++ List.replicate n h.nodeListRequestMessage :=
  ⟨_, _, (publishes_publishWithRetry _).1, (publishes_publishWithRetry _).2,
    (publishes_publishWithRetry _).1, (publishes_publishWithRetry _).2, rfl⟩

theorem start_waits_length : (h.start hostname publishErr stopAt).waits.length ≤ stopAt.getD 6 := by
  simp only [Heartbeater.start, List.length_append]
  set reg := publishWithRetry fun i => ⟨publishErr i, stopAt.any (· ≤ i)⟩
  set nl := publishWithRetry fun i =>
    ⟨publishErr (reg.publishes + i), stopAt.any (· ≤ reg.waits.length + i)⟩
  cases stopAt with
  | none =>
    have h1 : reg.waits.length ≤ 3 := (waits_publishWithRetry _).1.length_le
    have h2 : nl.waits.length ≤ 3 := (waits_publishWithRetry _).1.length_le
    simp only [Option.getD_none]
    omega
  | some n =>
    have h1 : reg.waits.length ≤ n := waits_length_retryLoop_le 3 0 2000 none (j := n) (by simp)
    have h2 : nl.waits.length ≤ n - reg.waits.length :=
      waits_length_retryLoop_le 3 0 2000 none (j := n - reg.waits.length) (by simp; omega)
    simp only [Option.getD_some]
    omega

theorem start_waits_sum :
    (h.start hostname publishErr stopAt).waits.sum ≤ 28000 ∧
      ((h.start hostname publishErr stopAt).waits.sum = 28000 ↔
        (∀ i < 6, (publishErr i).isSome) ∧ stopAt.all (6 ≤ ·)) := by
  obtain ⟨hp1, hl1, hf1⟩ := waits_publishWithRetry fun i => ⟨publishErr i, stopAt.any (· ≤ i)⟩
  obtain ⟨hs1, he1⟩ := sum_le_of_prefix hp1
  simp only [Heartbeater.start, List.sum_append]
  set reg := publishWithRetry fun i => ⟨publishErr i, stopAt.any (· ≤ i)⟩
  obtain ⟨hp2, hl2, -⟩ := waits_publishWithRetry fun i =>
    ⟨publishErr (reg.publishes + i), stopAt.any (· ≤ reg.waits.length + i)⟩
  obtain ⟨hs2, he2⟩ := sum_le_of_prefix hp2
  set nl := publishWithRetry fun i =>
    ⟨publishErr (reg.publishes + i), stopAt.any (· ≤ reg.waits.length + i)⟩
  refine ⟨by omega, ?_⟩
  -- all six attempts fail, and `Stop` wins none of their waits
  have hsix : ((∀ i < 6, (publishErr i).isSome) ∧ stopAt.all (6 ≤ ·)) ↔
      ∀ i < 6, ¬(Attempt.mk (publishErr i) (stopAt.any (· ≤ i))).ends := by
    have good : ∀ i, ¬(Attempt.mk (publishErr i) (stopAt.any (· ≤ i))).ends ↔
        (publishErr i).isSome ∧ stopAt.any (· ≤ i) = false := fun i => by cases publishErr i <;> simp
    simp only [good, forall₂_and, ← stopWins_none_iff]
  rw [show reg.waits.sum + nl.waits.sum = 28000 ↔ reg.waits.sum = 14000 ∧ nl.waits.sum = 14000 by omega,
    he1, he2, hsix]
  -- once the register call completes its three waits, the node-list call's attempts are the
  -- fourth to the sixth
  constructor
  · rintro ⟨h1, h2⟩ i hi
    rw [hf1 h1, h1] at hl2
    rcases Nat.lt_or_ge i 3 with hi3 | hi3
    · exact hl1.1 h1 i hi3
    · simpa [Nat.add_sub_cancel' hi3] using hl2.1 h2 (i - 3) (by omega)
  · intro h
    have h1 := hl1.2 fun j hj => h j (by omega)
    rw [hf1 h1, h1] at hl2
    exact ⟨h1, hl2.2 fun j hj => h (3 + j) (by omega)⟩

/-- For every answer of the broker to each publish, every host name and every moment of `Stop`,
    `Start` publishes one to three `edge.register` envelopes, then one to three
    `node.list_request` ones, before the heartbeat loop begins. It completes no wait that `Stop`
    comes before, and waits at most 28 s in all: exactly 28 s when all six publishes fail and
    `Stop` comes after the sixth wait or never. -/
theorem start_run :
    (∃ r n, 1 ≤ r ∧ r ≤ 3 ∧ 1 ≤ n ∧ n ≤ 3 ∧
      (h.start hostname publishErr stopAt).published =
        List.replicate r (h.registerMessage hostname) ++ List.replicate n h.nodeListRequestMessage) ∧
    (h.start hostname publishErr stopAt).waits.length ≤ stopAt.getD 6 ∧
    (h.start hostname publishErr stopAt).waits.sum ≤ 28000 ∧
    ((h.start hostname publishErr stopAt).waits.sum = 28000 ↔
      (∀ i < 6, (publishErr i).isSome) ∧ stopAt.all (6 ≤ ·)) :=
  ⟨start_published h hostname publishErr stopAt, start_waits_length h hostname publishErr stopAt,
    start_waits_sum h hostname publishErr stopAt⟩

end

/-- A broker that refuses every publish, and `Stop` during the fifth wait: all three registers
    and two node-list requests go out, and `Start` returns after four waits. -/
example :
    let s := Heartbeater.start ⟨"line-1", "1.0", ["L1"]⟩ "edge-host" (fun _ => some "broker down") (some 4)
    s.published.length = 5 ∧ s.waits = [2000, 4000, 8000, 2000] := by decide

end Shingo.Lifecycle
