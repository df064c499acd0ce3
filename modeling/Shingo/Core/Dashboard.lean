import Mathlib.Algebra.BigOperators.Group.List
import Mathlib.Algebra.Order.Ring.Nat
import Mathlib.Data.List.Dedup
import Shingo.Fleet.Poller
/-
  Shingo.Core.Dashboard — `handleDashboard` (the core's `www` package), the figures of the
  dashboard page.

  The handler lists the active orders and the nodes. It counts the orders by status in a
  Go map (`statusCounts[o.Status]++`) and the enabled nodes in a loop. It turns the fleet's
  `Ping`, the messaging client's `IsConnected` and the node-state cache's `Ping` into health
  flags, and shows the poller's `ActiveCount` when the engine has one. The store's list
  calls drop their error and give the list they return, an input here. The page name, the
  fleet's name, the SSE client count and the session flag are passed through unread, and
  are not modelled; `render` is the library's.

  Proved:
  - `statusCounts_apply`: the map holds a count for each status some active order has, and
    it is the number of orders with that status.
  - `dashboard_counts`: for every list of active orders and of nodes, the page counts each
    status by the orders that have it, the counts add up to its total of active orders, and
    it shows the number of enabled nodes, no more than the nodes.
-/

namespace Shingo.Core

/-- The field of an active order `handleDashboard` reads. -/
structure ActiveOrder where
  status : String
  deriving DecidableEq, Repr

/-- The field of a node `handleDashboard` reads. -/
structure NodeRow where
  enabled : Bool
  deriving DecidableEq, Repr

/-- `statusCounts[o.Status]++` on a Go map, a missing key read as 0. -/
def countStatus (m : String → Option Nat) (o : ActiveOrder) : String → Option Nat :=
  Function.update m o.status (some ((m o.status).getD 0 + 1))

/-- The loop of `statusCounts[o.Status]++` over the active orders. -/
def statusCounts (activeOrders : List ActiveOrder) : String → Option Nat :=
  activeOrders.foldl countStatus fun _ => none

/-- The loop counting the enabled nodes. -/
def enabledNodes (nodes : List NodeRow) : Nat :=
  nodes.foldl (fun n node => if node.enabled then n + 1 else n) 0

/-- The figures `handleDashboard` puts on the page. -/
structure Dashboard where
  activeOrders : List ActiveOrder
  statusCounts : String → Option Nat
  totalOrders : Nat
  totalNodes : Nat
  enabledNodes : Nat
  fleetOK : Bool
  messagingOK : Bool
  redisOK : Bool
  pollerActive : Nat

/-- `handleDashboard`: `fleetPingErr` and `redisPingErr` are what the two `Ping`s return,
    `msgConnected` is `IsConnected()`, and `tracker` the poller's map when
    `h.engine.Tracker()` is not nil. -/
def handleDashboard (activeOrders : List ActiveOrder) (nodes : List NodeRow) (fleetPingErr : Option String)
    (msgConnected : Bool) (redisPingErr : Option String) (tracker : Option Shingo.Fleet.Active) : Dashboard where
  activeOrders := activeOrders
  statusCounts := statusCounts activeOrders
  totalOrders := activeOrders.length
  totalNodes := nodes.length
  enabledNodes := enabledNodes nodes
  fleetOK := fleetPingErr.isNone
  messagingOK := msgConnected
  redisOK := redisPingErr.isNone
  pollerActive := (tracker.map Shingo.Fleet.activeCount).getD 0

/-! ## The counts -/

theorem foldl_statusCounts (activeOrders : List ActiveOrder) (m : String → Option Nat) (s : String) :
    activeOrders.foldl countStatus m s =
      if s ∈ activeOrders.map (·.status) then some ((m s).getD 0 + (activeOrders.map (·.status)).count s)
      else m s := by
  induction activeOrders generalizing m with
  | nil => simp
  | cons o os ih =>
    rw [List.foldl_cons, ih]
    by_cases hs : s = o.status
    · subst hs
      by_cases hm : o.status ∈ os.map (·.status)
      · simp [countStatus, hm, Nat.add_assoc, Nat.add_comm 1]
      · simp [countStatus, hm, List.count_eq_zero_of_not_mem hm]
    · simp [countStatus, Function.update_noteq hs, hs]

/-- The map holds a count exactly for the statuses of the active orders: the number of
    orders with that status. -/
theorem statusCounts_apply (activeOrders : List ActiveOrder) (s : String) :
    statusCounts activeOrders s =
      if s ∈ activeOrders.map (·.status) then some ((activeOrders.map (·.status)).count s) else none := by
  simp [statusCounts, foldl_statusCounts]

theorem foldl_enabledNodes (nodes : List NodeRow) (n : Nat) :
    nodes.foldl (fun n node => if node.enabled then n + 1 else n) n = n + nodes.countP (·.enabled) := by
  induction nodes generalizing n with
  | nil => rfl
  | cons node nodes ih =>
    rw [List.foldl_cons, ih, List.countP_cons]
    split <;> simp [*, Nat.add_assoc, Nat.add_comm 1]

/-- For every list of active orders and of nodes, the dashboard counts each status some
    active order has by the number of orders with that status, and no other; the counts add
    up, over the statuses it shows, to its total of active orders; and it shows the number
    of enabled nodes, no more than the nodes. -/
theorem dashboard_counts (activeOrders : List ActiveOrder) (nodes : List NodeRow) (fleetPingErr : Option String)
    (msgConnected : Bool) (redisPingErr : Option String) (tracker : Option Shingo.Fleet.Active) :
    let d := handleDashboard activeOrders nodes fleetPingErr msgConnected redisPingErr tracker
    (∀ s, d.statusCounts s =
      if s ∈ d.activeOrders.map (·.status) then some ((d.activeOrders.map (·.status)).count s) else none) ∧
    ((d.activeOrders.map (·.status)).dedup.map fun s => (d.statusCounts s).getD 0).sum = d.totalOrders ∧
      d.enabledNodes = nodes.countP (·.enabled) ∧ d.enabledNodes ≤ d.totalNodes := by
  have hcount : enabledNodes nodes = nodes.countP (·.enabled) := by
    rw [enabledNodes, foldl_enabledNodes, Nat.zero_add]
  refine ⟨statusCounts_apply activeOrders, ?_, hcount, ?_⟩
  · calc ((activeOrders.map (·.status)).dedup.map fun s => (statusCounts activeOrders s).getD 0).sum
        _ = ((activeOrders.map (·.status)).dedup.map fun s => (activeOrders.map (·.status)).count s).sum := by
          congr 1
          refine List.map_congr_left fun s hs => ?_
          rw [statusCounts_apply, if_pos (List.mem_dedup.1 hs), Option.getD_some]
        _ = activeOrders.length := by rw [List.sum_map_count_dedup_eq_length, List.length_map]
  · exact (hcount.trans_le (List.countP_le_length _) : enabledNodes nodes ≤ nodes.length)

end Shingo.Core
