import Mathlib.Data.List.AList
/-
  Shingo.Fleet.Poller — the fleet poller of `shingo-core/rds/client.go`: the map of tracked
  RDS orders (`Poller.active`), `Track`, `Untrack`, `ActiveCount`, and one tick of `poll`
  with no other goroutine running between its steps (`Shingo.Fleet.Schedule` interleaves
  them).

  `active` is an association list, one entry per RDS order id. A tick visits the key
  snapshot in the order the Go runtime iterated the map, so any permutation of the keys. It
  sees the fleet through `GetOrderDetails` (a state and a vehicle, or an error) and
  `ResolveRDSOrderID` (the core's order id, or an error), each a function of the id for the
  tick. The rds package's `StateCreated` and `OrderState.IsTerminal` are not in the source:
  they are the parameters `stateCreated` and `isTerminal`.

  Proved:
  - `poll_entry`: what a tick does to an id (its entry after, the events for it) depends
    only on its entry before, its details and its resolve (`pollEffect`), whatever the
    other ids, their results and the snapshot order.
  - `poll_emits_resolved_changes`: a tick changes an entry only on a fleet state that
    differs from the stored one: it stores the new state, or removes the entry when the
    state is terminal; the change comes with one `EmitOrderStatusChanged` naming both
    states when the resolver succeeds and with none when it fails; no event comes without
    a change, and a `GetOrderDetails` error changes nothing.
  - `poll_resolve_error_loses_transition`: the update is committed before the resolve, so
    a resolver error loses the transition: the entry holds the new state, no event is
    emitted, and the next tick sees no change to report.
-/

namespace Shingo.Fleet

/-- `rds.OrderState`, a string type. -/
abbrev OrderState := String

/-- `rds.OrderDetail`, the two fields `poll` reads. -/
structure OrderDetail where
  state : OrderState
  vehicle : String
  deriving DecidableEq, Repr

/-- `Poller.active`: RDS order id to last known state. -/
abbrev Active := AList fun _ : String => OrderState

/-- A call of `PollerEmitter.EmitOrderStatusChanged`. -/
structure StatusChanged where
  orderID : Int
  rdsOrderID : String
  oldStatus : String
  newStatus : String
  robotID : String
  detail : String
  deriving DecidableEq, Repr

/-- The events of a tick for one RDS order id. -/
def eventsFor (rdsID : String) (evs : List StatusChanged) : List StatusChanged :=
  evs.filter (·.rdsOrderID = rdsID)

/-- The emit for a transition of `rdsID` from `oldState` to `detail.state`. -/
def statusChanged (orderID : Int) (rdsID : String) (oldState : OrderState) (detail : OrderDetail) :
    StatusChanged :=
  ⟨orderID, rdsID, oldState, detail.state, detail.vehicle,
    "fleet state: " ++ oldState ++ " -> " ++ detail.state⟩

section
variable (stateCreated : OrderState) (isTerminal : OrderState → Bool)

/-- `Poller.Track`: a new id starts at `StateCreated`; a tracked one keeps its state. -/
def track (active : Active) (rdsOrderID : String) : Active :=
  match active.lookup rdsOrderID with
  | some _ => active
  | none => active.insert rdsOrderID stateCreated

/-- `Poller.Untrack`. -/
def untrack (active : Active) (rdsOrderID : String) : Active := active.erase rdsOrderID

/-- `Poller.ActiveCount`. -/
def activeCount (active : Active) : Nat := active.entries.length

/-- The locked update of a transition: a terminal state removes the entry. -/
def commitState (active : Active) (rdsID : String) (newState : OrderState) : Active :=
  if isTerminal newState then active.erase rdsID else active.insert rdsID newState

/-- One iteration of `poll`'s loop, for `rdsID`, on the map and the events so far. -/
def pollOne (details : String → Except String OrderDetail) (resolve : String → Except String Int)
    (acc : Active × List StatusChanged) (rdsID : String) : Active × List StatusChanged :=
  match details rdsID with
  | .error _ => acc
  | .ok detail =>
    match acc.1.lookup rdsID with
    | none => acc
    | some oldState =>
      if detail.state = oldState then acc
      else
        let active := commitState isTerminal acc.1 rdsID detail.state
        match resolve rdsID with
        | .error _ => (active, acc.2)
        | .ok orderID => (active, acc.2 ++ [statusChanged orderID rdsID oldState detail])

/-- `Poller.poll` over the key snapshot `ids`: the map after the tick and its emits. -/
def poll (details : String → Except String OrderDetail) (resolve : String → Except String Int)
    (ids : List String) (active : Active) : Active × List StatusChanged :=
  ids.foldl (pollOne isTerminal details resolve) (active, [])

/-- What a tick does to `rdsID`, from its entry before the tick: its entry after and the
    events for it. -/
def pollEffect (entry : Option OrderState) (detail : Except String OrderDetail)
    (resolved : Except String Int) (rdsID : String) : Option OrderState × List StatusChanged :=
  match detail, entry with
  | .ok d, some old =>
    if d.state = old then (entry, [])
    else (if isTerminal d.state then none else some d.state,
      match resolved with
      | .ok orderID => [statusChanged orderID rdsID old d]
      | .error _ => [])
  | _, _ => (entry, [])

end

/-! ## The map operations -/

theorem lookup_track_ne (stateCreated : OrderState) (active : Active) {rdsOrderID id : String}
    (h : id ≠ rdsOrderID) : (track stateCreated active rdsOrderID).lookup id = active.lookup id := by
  unfold track; split
  · rfl
  · exact AList.lookup_insert_ne h

@[simp] theorem lookup_track_self (stateCreated : OrderState) (active : Active) (id : String) :
    (track stateCreated active id).lookup id = some ((active.lookup id).getD stateCreated) := by
  unfold track; split <;> simp [*, AList.lookup_insert]

@[simp] theorem lookup_untrack_self (active : Active) (id : String) : (untrack active id).lookup id = none :=
  AList.lookup_erase _ _

theorem lookup_untrack_ne (active : Active) {rdsOrderID id : String} (h : id ≠ rdsOrderID) :
    (untrack active rdsOrderID).lookup id = active.lookup id :=
  AList.lookup_erase_ne h

section
variable {isTerminal : OrderState → Bool}

@[simp] theorem lookup_commitState_self (active : Active) (rdsID : String) (s : OrderState) :
    (commitState isTerminal active rdsID s).lookup rdsID = if isTerminal s then none else some s := by
  unfold commitState; split <;> simp [AList.lookup_erase, AList.lookup_insert]

theorem lookup_commitState_ne (active : Active) {rdsID id : String} (s : OrderState) (h : id ≠ rdsID) :
    (commitState isTerminal active rdsID s).lookup id = active.lookup id := by
  unfold commitState; split
  · exact AList.lookup_erase_ne h
  · exact AList.lookup_insert_ne h

@[simp] theorem eventsFor_nil (id : String) : eventsFor id [] = [] := rfl

@[simp] theorem eventsFor_append (id : String) (a b : List StatusChanged) :
    eventsFor id (a ++ b) = eventsFor id a ++ eventsFor id b := List.filter_append ..

theorem pollEffect_events_id {entry : Option OrderState} {d : Except String OrderDetail}
    {r : Except String Int} {rdsID : String} :
    ∀ e ∈ (pollEffect isTerminal entry d r rdsID).2, e.rdsOrderID = rdsID := by
  unfold pollEffect; split
  · split
    · simp
    · cases r <;> simp [statusChanged]
  · simp

theorem eventsFor_pollEffect_ne {entry : Option OrderState} {d : Except String OrderDetail}
    {r : Except String Int} {rdsID id : String} (h : id ≠ rdsID) :
    eventsFor id (pollEffect isTerminal entry d r rdsID).2 = [] :=
  List.filter_eq_nil_iff.mpr fun e he => by simp [pollEffect_events_id e he, Ne.symm h]

@[simp] theorem eventsFor_pollEffect_self {entry : Option OrderState} {d : Except String OrderDetail}
    {r : Except String Int} {rdsID : String} :
    eventsFor rdsID (pollEffect isTerminal entry d r rdsID).2 = (pollEffect isTerminal entry d r rdsID).2 :=
  List.filter_eq_self.mpr fun e he => by simp [pollEffect_events_id e he]

@[simp] theorem pollEffect_none (d : Except String OrderDetail) (r : Except String Int) (rdsID : String) :
    pollEffect isTerminal none d r rdsID = (none, []) := by
  cases d <;> rfl

theorem pollEffect_cases (entry : Option OrderState) (d : Except String OrderDetail)
    (r : Except String Int) (rdsID : String) :
    pollEffect isTerminal entry d r rdsID = (entry, []) ∨
      ∃ old detail, entry = some old ∧ d = .ok detail ∧ detail.state ≠ old ∧
        pollEffect isTerminal entry d r rdsID =
          (if isTerminal detail.state then none else some detail.state,
            match r with
            | .ok orderID => [statusChanged orderID rdsID old detail]
            | .error _ => []) := by
  unfold pollEffect
  split
  · next detail old =>
    by_cases hs : detail.state = old
    · exact .inl (if_pos hs)
    · exact .inr ⟨old, detail, rfl, rfl, hs, if_neg hs⟩
  · exact .inl rfl

end

/-! ## One pass of the loop, then the tick -/

section
variable (isTerminal : OrderState → Bool) (details : String → Except String OrderDetail)
  (resolve : String → Except String Int)

theorem pollOne_spec (acc : Active × List StatusChanged) (rdsID : String) :
    let r := pollOne isTerminal details resolve acc rdsID
    let eff := pollEffect isTerminal (acc.1.lookup rdsID) (details rdsID) (resolve rdsID) rdsID
    r.2 = acc.2 ++ eff.2 ∧
      (r.1 = acc.1 ∧ eff.1 = acc.1.lookup rdsID ∨
        ∃ s, r.1 = commitState isTerminal acc.1 rdsID s ∧ eff.1 = if isTerminal s then none else some s) := by
  obtain ⟨active, evs⟩ := acc
  simp only [pollOne, pollEffect]
  cases details rdsID with
  | error => simp
  | ok d =>
    cases active.lookup rdsID with
    | none => simp
    | some old =>
      by_cases hs : d.state = old
      · simp [hs]
      · cases resolve rdsID <;> exact ⟨by simp [hs], .inr ⟨d.state, by simp [hs], by simp [hs]⟩⟩

theorem pollOne_self (acc : Active × List StatusChanged) (rdsID : String) :
    let r := pollOne isTerminal details resolve acc rdsID
    let eff := pollEffect isTerminal (acc.1.lookup rdsID) (details rdsID) (resolve rdsID) rdsID
    r.1.lookup rdsID = eff.1 ∧ r.2 = acc.2 ++ eff.2 := by
  obtain ⟨he, ⟨hr, hl⟩ | ⟨s, hr, hl⟩⟩ := pollOne_spec isTerminal details resolve acc rdsID
  · exact ⟨by rw [hr, hl], he⟩
  · exact ⟨by rw [hr, hl, lookup_commitState_self], he⟩

theorem pollOne_ne (acc : Active × List StatusChanged) {rdsID id : String} (h : id ≠ rdsID) :
    let r := pollOne isTerminal details resolve acc rdsID
    r.1.lookup id = acc.1.lookup id ∧ eventsFor id r.2 = eventsFor id acc.2 := by
  obtain ⟨he, hr⟩ := pollOne_spec isTerminal details resolve acc rdsID
  refine ⟨?_, by rw [he, eventsFor_append, eventsFor_pollEffect_ne h, List.append_nil]⟩
  obtain ⟨hr, -⟩ | ⟨s, hr, -⟩ := hr
  · rw [hr]
  · rw [hr, lookup_commitState_ne _ _ h]

theorem foldl_pollOne_not_mem (ids : List String) (acc : Active × List StatusChanged) {id : String}
    (h : id ∉ ids) :
    let r := ids.foldl (pollOne isTerminal details resolve) acc
    r.1.lookup id = acc.1.lookup id ∧ eventsFor id r.2 = eventsFor id acc.2 := by
  induction ids generalizing acc with
  | nil => exact ⟨rfl, rfl⟩
  | cons x xs ih =>
    simp only [List.mem_cons, not_or] at h
    obtain ⟨h1, h2⟩ := pollOne_ne isTerminal details resolve acc h.1
    simp only [List.foldl_cons]
    rw [← h1, ← h2]
    exact ih _ h.2

theorem foldl_pollOne_mem {ids : List String} (hn : ids.Nodup) (acc : Active × List StatusChanged)
    {id : String} (h : id ∈ ids) :
    let r := ids.foldl (pollOne isTerminal details resolve) acc
    let eff := pollEffect isTerminal (acc.1.lookup id) (details id) (resolve id) id
    r.1.lookup id = eff.1 ∧ eventsFor id r.2 = eventsFor id acc.2 ++ eff.2 := by
  induction ids generalizing acc with
  | nil => cases h
  | cons x xs ih =>
    rw [List.nodup_cons] at hn
    simp only [List.foldl_cons]
    by_cases hx : id = x
    · subst hx
      obtain ⟨h1, h2⟩ := foldl_pollOne_not_mem isTerminal details resolve xs (pollOne isTerminal details resolve acc id) hn.1
      obtain ⟨h3, h4⟩ := pollOne_self isTerminal details resolve acc id
      rw [h1, h2, h3, h4]
      simp
    · obtain ⟨h1, h2⟩ := pollOne_ne isTerminal details resolve acc hx
      rw [← h1, ← h2]
      exact ih hn.2 _ (List.mem_of_ne_of_mem hx h)

/-- What a tick does to an id is `pollEffect` of the id's own entry, details and resolve. -/
theorem poll_entry {ids : List String} {active : Active} (hids : ids.Perm active.keys) (id : String) :
    let r := poll isTerminal details resolve ids active
    (r.1.lookup id, eventsFor id r.2) = pollEffect isTerminal (active.lookup id) (details id) (resolve id) id := by
  by_cases h : id ∈ ids
  · obtain ⟨h1, h2⟩ := foldl_pollOne_mem isTerminal details resolve (hids.nodup_iff.mpr active.keys_nodup) (active, []) h
    simp only [poll, h1, h2, eventsFor_nil, List.nil_append]
  · have hl : active.lookup id = none :=
      AList.lookup_eq_none.mpr fun hm => h (hids.mem_iff.mpr (AList.mem_keys.mp hm))
    obtain ⟨h1, h2⟩ := foldl_pollOne_not_mem isTerminal details resolve ids (active, []) h
    simp only [poll, h1, h2, hl, pollEffect_none, eventsFor_nil]

/-! ## What a tick reports -/

/-- A tick changes an entry only to a fleet state other than the stored one (removing the
    entry for a terminal state), reports the change exactly when the resolver succeeds, and
    reports nothing else. -/
theorem poll_emits_resolved_changes {ids : List String} {active : Active} (hids : ids.Perm active.keys)
    (id : String) :
    let r := poll isTerminal details resolve ids active
    (r.1.lookup id ≠ active.lookup id →
      ∃ old detail, active.lookup id = some old ∧ details id = .ok detail ∧ detail.state ≠ old ∧
        r.1.lookup id = (if isTerminal detail.state then none else some detail.state) ∧
        eventsFor id r.2 = match resolve id with
          | .ok orderID => [statusChanged orderID id old detail]
          | .error _ => []) ∧
      (r.1.lookup id = active.lookup id → eventsFor id r.2 = []) ∧
      (∀ err, details id = .error err → r.1.lookup id = active.lookup id) := by
  intro r
  have he := poll_entry isTerminal details resolve hids id
  rcases @pollEffect_cases isTerminal (active.lookup id) (details id) (resolve id) id with
    h | ⟨old, d, hl, hd, hs, h⟩
  · rw [h, Prod.mk.injEq] at he
    exact ⟨fun hne => absurd he.1 hne, fun _ => he.2, fun _ _ => he.1⟩
  · rw [h, Prod.mk.injEq] at he
    have hne : r.1.lookup id ≠ active.lookup id := by
      rw [he.1, hl]; split <;> simp [hs]
    exact ⟨fun _ => ⟨old, d, hl, hd, hs, he⟩, fun heq => absurd heq hne,
      fun _ herr => by simp [hd] at herr⟩

end

/-- The terminal states of the spec's scenarios (it names `Completed`; the rds package's
    own list is not in the source). -/
def scenarioTerminal (s : OrderState) : Bool := s = "Completed" || s = "Failed" || s = "Cancelled"

/-- Scenario S5's first tick: `R-1` tracked at `Created`, the fleet reports `Assigned`. -/
theorem poll_emits_resolved_changes_s5 :
    let details : String → Except String OrderDetail := fun _ => .ok ⟨"Assigned", "AMB-01"⟩
    let resolve : String → Except String Int := fun _ => .ok 1
    let active := track "Created" ∅ "R-1"
    let r := poll scenarioTerminal details resolve ["R-1"] active
    ["R-1"].Perm active.keys ∧
      (r.1.lookup "R-1" ≠ active.lookup "R-1" →
        ∃ old detail, active.lookup "R-1" = some old ∧ details "R-1" = .ok detail ∧ detail.state ≠ old ∧
          r.1.lookup "R-1" = (if scenarioTerminal detail.state then none else some detail.state) ∧
          eventsFor "R-1" r.2 = match resolve "R-1" with
            | .ok orderID => [statusChanged orderID "R-1" old detail]
            | .error _ => []) ∧
      (r.1.lookup "R-1" = active.lookup "R-1" → eventsFor "R-1" r.2 = []) ∧
      (∀ err, details "R-1" = .error err → r.1.lookup "R-1" = active.lookup "R-1") := by
  intro details resolve active r
  exact ⟨by decide, poll_emits_resolved_changes scenarioTerminal details resolve (by decide) "R-1"⟩

/-- The update is committed before the resolve: with the resolver failing, `R-1` moves from
    `Created` to `Assigned` with no event, and the next tick, which sees `Assigned` again,
    has nothing to report. -/
theorem poll_resolve_error_loses_transition :
    let details : String → Except String OrderDetail := fun _ => .ok ⟨"Assigned", "AMB-01"⟩
    let r := poll scenarioTerminal details (fun _ => .error "resolve") ["R-1"] (track "Created" ∅ "R-1")
    r.1.lookup "R-1" = some "Assigned" ∧ r.2 = [] ∧
      (poll scenarioTerminal details (fun _ => .ok 1) ["R-1"] r.1).2 = [] := by
  decide

end Shingo.Fleet
