import Shingo.Fleet.Poller
/-
  Shingo.Fleet.Schedule — a `Poller.poll` tick interleaved with `Track` and `Untrack`
  (`shingo-core/rds/client.go`). Each of the tick's steps below is one atomic action; any
  other goroutine's `Track` or `Untrack`, each atomic under `Poller.mu`, can run between
  any two of them:
  - `snapshot`: the locked copy of the keys (in the order the runtime iterates the map);
  - `getOrderDetails`: the fleet's answer for the next id, unlocked;
  - `lookup`: the locked read of `active[rdsID]`, then the unlocked comparison with the
    fleet's state;
  - `update`: the separately locked write of the transition;
  - `resolve`: `ResolveRDSOrderID` and the emit that follows it (neither touches the map).
  `ActiveCount` only reads the map: it is `activeCount` of the state at the moment it runs.

  Proved:
  - `untrack_race_reinserts`: `Untrack` between the tick's `lookup` and its `update` is
    undone by the update: the id is back in the map with no `Track`, counted by
    `ActiveCount` and in the next tick's snapshot.
  - `terminal_states_never_stored`: with `Created` not terminal, no terminal state is ever
    stored; and once an update has deleted an id for a terminal state, the emit that
    follows is the id's last event along any run with no `Track` of it after the delete.
  - `track_before_emit_reemits`: a `Track` between that delete and the emit is enough for
    a later tick to emit for the id again.
-/

namespace Shingo.Fleet

/-- Where the poll goroutine is in a tick. -/
inductive Pc where
  | idle
  /-- At the top of the loop, with `ids` still to visit. -/
  | loop (ids : List String)
  /-- `GetOrderDetails(rdsID)` returned `detail`; the locked lookup is next. -/
  | fetched (rdsID : String) (detail : OrderDetail) (ids : List String)
  /-- The lookup found `oldState`, not the fleet's state; the locked update is next. -/
  | looked (rdsID : String) (oldState : OrderState) (detail : OrderDetail) (ids : List String)
  /-- The update is committed; the resolve and the emit are next. -/
  | committed (rdsID : String) (oldState : OrderState) (detail : OrderDetail) (ids : List String)
  deriving DecidableEq, Repr

/-- The loop goes on with `ids`, or the tick is over. -/
def Pc.resume : List String → Pc
  | [] => .idle
  | id :: ids => .loop (id :: ids)

structure PSt where
  active : Active
  pc : Pc
  emitted : List StatusChanged

def PSt.init : PSt := ⟨∅, .idle, []⟩

inductive Act where
  | track (rdsOrderID : String)
  | untrack (rdsOrderID : String)
  | snapshot (ids : List String)
  | getOrderDetails (result : Except String OrderDetail)
  | lookup
  | update
  | resolve (result : Except String Int)

section
variable (stateCreated : OrderState) (isTerminal : OrderState → Bool)

/-- One atomic action; an action of the tick the goroutine is not at changes nothing. -/
def pstep (s : PSt) : Act → PSt
  | .track id => { s with active := track stateCreated s.active id }
  | .untrack id => { s with active := untrack s.active id }
  | .snapshot ids =>
    match s.pc with
    | .idle => if ids.Perm s.active.keys then { s with pc := .resume ids } else s
    | _ => s
  | .getOrderDetails r =>
    match s.pc, r with
    | .loop (_ :: ids), .error _ => { s with pc := .resume ids }
    | .loop (id :: ids), .ok d => { s with pc := .fetched id d ids }
    | _, _ => s
  | .lookup =>
    match s.pc with
    | .fetched id d ids =>
      match s.active.lookup id with
      | none => { s with pc := .resume ids }
      | some old => if d.state = old then { s with pc := .resume ids } else { s with pc := .looked id old d ids }
    | _ => s
  | .update =>
    match s.pc with
    | .looked id old d ids =>
      { s with active := commitState isTerminal s.active id d.state, pc := .committed id old d ids }
    | _ => s
  | .resolve r =>
    match s.pc, r with
    | .committed _ _ _ ids, .error _ => { s with pc := .resume ids }
    | .committed id old d ids, .ok orderID =>
      { s with emitted := s.emitted ++ [statusChanged orderID id old d], pc := .resume ids }
    | _, _ => s

def prun (s : PSt) (acts : List Act) : PSt := acts.foldl (pstep stateCreated isTerminal) s

end

@[simp] theorem prun_nil (c : OrderState) (t : OrderState → Bool) (s : PSt) : prun c t s [] = s := rfl

@[simp] theorem prun_cons (c : OrderState) (t : OrderState → Bool) (s : PSt) (a : Act) (acts : List Act) :
    prun c t s (a :: acts) = prun c t (pstep c t s a) acts := rfl

theorem prun_append (c : OrderState) (t : OrderState → Bool) (s : PSt) (a b : List Act) :
    prun c t s (a ++ b) = prun c t (prun c t s a) b := List.foldl_append ..

/-! ## What one action can do -/

/-- The id whose locked update is next, if any. -/
def Pc.updating : Pc → Option String
  | .looked id _ _ _ => some id
  | _ => none

@[simp] theorem Pc.updating_resume (ids : List String) : (Pc.resume ids).updating = none := by
  cases ids <;> rfl

section
variable (c : OrderState) (t : OrderState → Bool)

/-- The code paths of one action, and the state each leaves. -/
inductive PStepPath (s : PSt) : Act → PSt → Prop
  /-- An action of a step the tick is not at, or a snapshot that is not of the keys. -/
  | skip {a : Act} : PStepPath s a s
  | track (id : String) : PStepPath s (.track id) { s with active := track c s.active id }
  | untrack (id : String) : PStepPath s (.untrack id) { s with active := untrack s.active id }
  | snapshot (ids : List String) : s.pc = .idle → ids.Perm s.active.keys →
      PStepPath s (.snapshot ids) { s with pc := .resume ids }
  | fetchFailed {id : String} {ids : List String} (err : String) : s.pc = .loop (id :: ids) →
      PStepPath s (.getOrderDetails (.error err)) { s with pc := .resume ids }
  | fetched {id : String} {ids : List String} (d : OrderDetail) : s.pc = .loop (id :: ids) →
      PStepPath s (.getOrderDetails (.ok d)) { s with pc := .fetched id d ids }
  /-- The lookup finds the id untracked, or at the fleet's state: the pass ends. -/
  | skipped {id : String} {d : OrderDetail} {ids : List String} : s.pc = .fetched id d ids →
      (s.active.lookup id).all (· = d.state) → PStepPath s .lookup { s with pc := .resume ids }
  | looked {id : String} {d : OrderDetail} {ids : List String} {old : OrderState} :
      s.pc = .fetched id d ids → s.active.lookup id = some old → d.state ≠ old →
      PStepPath s .lookup { s with pc := .looked id old d ids }
  | update {id : String} {old : OrderState} {d : OrderDetail} {ids : List String} :
      s.pc = .looked id old d ids →
      PStepPath s .update { s with active := commitState t s.active id d.state, pc := .committed id old d ids }
  | resolveFailed {id : String} {old : OrderState} {d : OrderDetail} {ids : List String} (err : String) :
      s.pc = .committed id old d ids → PStepPath s (.resolve (.error err)) { s with pc := .resume ids }
  | emit {id : String} {old : OrderState} {d : OrderDetail} {ids : List String} (orderID : Int) :
      s.pc = .committed id old d ids → PStepPath s (.resolve (.ok orderID))
        { s with emitted := s.emitted ++ [statusChanged orderID id old d], pc := .resume ids }

theorem pstepPath (s : PSt) (a : Act) : PStepPath c t s a (pstep c t s a) := by
  cases a with
  | track id => exact .track id
  | untrack id => exact .untrack id
  | snapshot ids =>
    simp only [pstep]; split
    · next hpc => split; exacts [.snapshot ids hpc ‹_›, .skip]
    · exact .skip
  | getOrderDetails r =>
    simp only [pstep]; split
    · next hpc => exact .fetchFailed _ hpc
    · next hpc => exact .fetched _ hpc
    · exact .skip
  | lookup =>
    simp only [pstep]; split
    · next hpc =>
      split
      · next hl => exact .skipped hpc (by simp [hl])
      · next old hl =>
        split
        · next hs => exact .skipped hpc (by simp [hl, hs])
        · next hs => exact .looked hpc hl hs
    · exact .skip
  | update =>
    simp only [pstep]; split
    · next hpc => exact .update hpc
    · exact .skip
  | resolve r =>
    simp only [pstep]; split
    · next hpc => exact .resolveFailed _ hpc
    · next hpc => exact .emit _ hpc
    · exact .skip

/-! ## Once untracked -/

/-- `id` is out of the map and the tick has no update of it pending. -/
def Absent (id : String) (s : PSt) : Prop := s.active.lookup id = none ∧ s.pc.updating ≠ some id

theorem absent_step {id : String} {s : PSt} (h : Absent id s) {a : Act} (ha : a ≠ .track id) :
    Absent id (pstep c t s a) := by
  obtain ⟨hl, hu⟩ := h
  have hp := pstepPath c t s a
  generalize pstep c t s a = s' at hp ⊢
  cases hp with
  | skip => exact ⟨hl, hu⟩
  | track id' => exact ⟨(lookup_track_ne c _ fun e => ha (by rw [e])).trans hl, hu⟩
  | untrack id' =>
    refine ⟨?_, hu⟩
    by_cases hid : id = id'
    · rw [hid]; exact lookup_untrack_self _ _
    · exact (lookup_untrack_ne _ hid).trans hl
  | @looked id' d ids old _ hlo _ =>
    refine ⟨hl, fun he => ?_⟩
    cases Option.some.inj he
    rw [hl] at hlo
    cases hlo
  | @update id' old d ids hpc =>
    have hne : id ≠ id' := by rintro rfl; simp [hpc, Pc.updating] at hu
    exact ⟨(lookup_commitState_ne _ _ hne).trans hl, nofun⟩
  | fetched => exact ⟨hl, nofun⟩
  | _ => exact ⟨hl, by simp⟩

end

/-- `Untrack("R-1")` lands between the tick's locked lookup and its locked update: the
    update writes `R-1` back, with no `Track`; `ActiveCount` counts it and the next tick
    polls it. -/
theorem untrack_race_reinserts :
    let s : PSt := prun "Created" scenarioTerminal PSt.init
      [.track "R-1", .snapshot ["R-1"], .getOrderDetails (.ok ⟨"Assigned", "AMB-01"⟩), .lookup, .untrack "R-1"]
    let s' := prun "Created" scenarioTerminal s [.update, .resolve (.ok 1)]
    s.active.lookup "R-1" = none ∧ s'.active.lookup "R-1" = some "Assigned" ∧ activeCount s'.active = 1 ∧
      (pstep "Created" scenarioTerminal s' (.snapshot ["R-1"])).pc = .loop ["R-1"] := by
  decide

/-! ## Terminal states -/

/-- The id whose emit is next, if any. -/
def Pc.emitting : Pc → Option String
  | .committed id _ _ _ => some id
  | _ => none

@[simp] theorem Pc.emitting_resume (ids : List String) : (Pc.resume ids).emitting = none := by
  cases ids <;> rfl

section
variable (c : OrderState) (t : OrderState → Bool)

/-- No state stored in the map is terminal. -/
def NoTerminal (s : PSt) : Prop := ∀ id v, s.active.lookup id = some v → t v = false

theorem noTerminal_step (hc : t c = false) {s : PSt} (h : NoTerminal t s) (a : Act) :
    NoTerminal t (pstep c t s a) := by
  have hp := pstepPath c t s a
  generalize pstep c t s a = s' at hp ⊢
  cases hp with
  | track id' =>
    intro id v hv
    by_cases hid : id = id'
    · subst hid
      rw [lookup_track_self, Option.some.injEq] at hv
      cases hl : s.active.lookup id <;> simp only [hl, Option.getD_none, Option.getD_some] at hv <;> subst hv
      exacts [hc, h id _ hl]
    · exact h id v ((lookup_track_ne c _ hid).symm.trans hv)
  | untrack id' =>
    intro id v hv
    by_cases hid : id = id'
    · subst hid; simp at hv
    · exact h id v ((lookup_untrack_ne _ hid).symm.trans hv)
  | @update id' old d ids _ =>
    intro id v hv
    by_cases hid : id = id'
    · subst hid
      rw [lookup_commitState_self] at hv
      obtain ⟨hterm, hv⟩ := Option.ite_none_left_eq_some.mp hv
      cases hv
      simpa using hterm
    · exact h id v ((lookup_commitState_ne _ _ hid).symm.trans hv)
  | _ => exact h

theorem noTerminal_run (hc : t c = false) {s : PSt} (h : NoTerminal t s) (acts : List Act) :
    NoTerminal t (prun c t s acts) := by
  induction acts generalizing s with
  | nil => exact h
  | cons a acts ih => exact ih (noTerminal_step c t hc h a)

theorem silent_step {id : String} {s : PSt} (h : Absent id s) (he : s.pc.emitting ≠ some id) {a : Act}
    (ha : a ≠ .track id) :
    (pstep c t s a).pc.emitting ≠ some id ∧ eventsFor id (pstep c t s a).emitted = eventsFor id s.emitted := by
  have hp := pstepPath c t s a
  generalize pstep c t s a = s' at hp ⊢
  cases hp with
  | @update id' old d ids hpc =>
    refine ⟨fun he' => h.2 ?_, rfl⟩
    cases Option.some.inj he'
    simp [hpc, Pc.updating]
  | @emit id' old d ids o hpc =>
    have hne : id' ≠ id := by rintro rfl; simp [hpc, Pc.emitting] at he
    exact ⟨by simp, by simp [eventsFor, statusChanged, hne]⟩
  | skip | track | untrack => exact ⟨he, rfl⟩
  | fetched | looked => exact ⟨nofun, rfl⟩
  | _ => exact ⟨by simp, rfl⟩

theorem silent_run {id : String} {s : PSt} (h : Absent id s) (he : s.pc.emitting ≠ some id)
    (acts : List Act) (hacts : ∀ a ∈ acts, a ≠ .track id) :
    eventsFor id (prun c t s acts).emitted = eventsFor id s.emitted := by
  induction acts generalizing s with
  | nil => rfl
  | cons a acts ih =>
    have ha := hacts a (.head _)
    obtain ⟨he', hev⟩ := silent_step c t h he ha
    exact (ih (absent_step c t h ha) he' fun b hb => hacts b (.tail _ hb)).trans hev

theorem window_step {id : String} {old : OrderState} {d : OrderDetail} {ids : List String} {s : PSt}
    (hpc : s.pc = .committed id old d ids) (hl : s.active.lookup id = none) {a : Act}
    (ha : a ≠ .track id) (hr : ∀ r, a ≠ .resolve r) :
    (pstep c t s a).pc = .committed id old d ids ∧ (pstep c t s a).active.lookup id = none ∧
      (pstep c t s a).emitted = s.emitted := by
  have hp := pstepPath c t s a
  generalize pstep c t s a = s' at hp ⊢
  cases hp with
  | skip => exact ⟨hpc, hl, rfl⟩
  | track id' => exact ⟨hpc, (lookup_track_ne c _ fun e => ha (by rw [e])).trans hl, rfl⟩
  | untrack id' =>
    refine ⟨hpc, ?_, rfl⟩
    by_cases hid : id = id'
    · subst hid; exact lookup_untrack_self _ _
    · exact (lookup_untrack_ne _ hid).trans hl
  | resolveFailed _ | emit _ => exact absurd rfl (hr _)
  | snapshot _ h' _ | fetchFailed _ h' | fetched _ h' | skipped h' _ | looked h' _ _ | update h' =>
    rw [hpc] at h'; cases h'

theorem window_run {id : String} {old : OrderState} {d : OrderDetail} {ids : List String} {s : PSt}
    (hpc : s.pc = .committed id old d ids) (hl : s.active.lookup id = none) (acts : List Act)
    (hacts : ∀ a ∈ acts, a ≠ .track id ∧ ∀ r, a ≠ .resolve r) :
    (prun c t s acts).pc = .committed id old d ids ∧ (prun c t s acts).active.lookup id = none ∧
      (prun c t s acts).emitted = s.emitted := by
  induction acts generalizing s with
  | nil => exact ⟨hpc, hl, rfl⟩
  | cons a acts ih =>
    obtain ⟨ha, hr⟩ := hacts a (.head _)
    obtain ⟨hpc', hl', hem⟩ := window_step c t hpc hl ha hr
    obtain ⟨h1, h2, h3⟩ := ih hpc' hl' fun b hb => hacts b (.tail _ hb)
    exact ⟨h1, h2, h3.trans hem⟩

end

/-- With `Created` not terminal, no state stored in the map is ever terminal, along every
    run of ticks interleaved with `Track` and `Untrack`, whatever the fleet answers. Once a
    tick's locked update has deleted `id` for a terminal state, the emit that follows is the
    last event for `id` unless `Track(id)` is called after that update: a `Track(id)` that
    lands between the delete and the emit is the only way back. -/
theorem terminal_states_never_stored (c : OrderState) (t : OrderState → Bool) (hc : t c = false) :
    (∀ (acts : List Act) (id : String) (v : OrderState),
      (prun c t PSt.init acts).active.lookup id = some v → t v = false) ∧
    ∀ (s : PSt) (id : String) (old : OrderState) (d : OrderDetail) (ids : List String),
      s.pc = .looked id old d ids → t d.state = true →
      ∀ (orderID : Int) (window post : List Act),
        (∀ a ∈ window, a ≠ .track id ∧ ∀ r, a ≠ .resolve r) → (∀ a ∈ post, a ≠ .track id) →
        eventsFor id (prun c t s (.update :: window ++ .resolve (.ok orderID) :: post)).emitted =
          eventsFor id s.emitted ++ [statusChanged orderID id old d] := by
  refine ⟨fun acts => noTerminal_run c t hc (fun _ _ h => by cases h) acts, ?_⟩
  intro s id old d ids hpc hterm orderID window post hwin hpost
  have hu : pstep c t s .update =
      { s with active := commitState t s.active id d.state, pc := .committed id old d ids } := by
    simp only [pstep, hpc]
  obtain ⟨hpc', hl', hem⟩ := window_run c t
    (show (pstep c t s .update).pc = .committed id old d ids by rw [hu]) (by simp [hu, hterm]) window hwin
  rw [prun_append, prun_cons, prun_cons]
  generalize prun c t (pstep c t s .update) window = s₁ at hpc' hl' hem
  have hres : pstep c t s₁ (.resolve (.ok orderID)) =
      { s₁ with emitted := s₁.emitted ++ [statusChanged orderID id old d], pc := .resume ids } := by
    simp only [pstep, hpc']
  rw [hres]
  refine Eq.trans (silent_run c t ?_ ?_ post hpost) ?_
  · exact ⟨hl', by simp⟩
  · simp
  · simp [hem, hu, eventsFor, statusChanged]

/-- Spec S5's tracker: `Created` is not terminal. -/
theorem terminal_states_never_stored_s5 :
    scenarioTerminal "Created" = false ∧
      ((∀ (acts : List Act) (id : String) (v : OrderState),
        (prun "Created" scenarioTerminal PSt.init acts).active.lookup id = some v →
          scenarioTerminal v = false) ∧
      ∀ (s : PSt) (id : String) (old : OrderState) (d : OrderDetail) (ids : List String),
        s.pc = .looked id old d ids → scenarioTerminal d.state = true →
        ∀ (orderID : Int) (window post : List Act),
          (∀ a ∈ window, a ≠ .track id ∧ ∀ r, a ≠ .resolve r) → (∀ a ∈ post, a ≠ .track id) →
          eventsFor id (prun "Created" scenarioTerminal s
            (.update :: window ++ .resolve (.ok orderID) :: post)).emitted =
            eventsFor id s.emitted ++ [statusChanged orderID id old d]) :=
  ⟨by decide, terminal_states_never_stored "Created" scenarioTerminal (by decide)⟩

/-- `Track("R-1")` lands between the tick's locked delete of `R-1` (fleet state `Completed`)
    and its emit: after that emit, with no `Track` after it, the next tick emits
    `Created -> Completed` for `R-1` again. -/
theorem track_before_emit_reemits :
    let s : PSt := prun "Created" scenarioTerminal PSt.init
      [.track "R-1", .snapshot ["R-1"], .getOrderDetails (.ok ⟨"Completed", "AMB-01"⟩), .lookup, .update,
        .track "R-1", .resolve (.ok 1)]
    let s' := prun "Created" scenarioTerminal s
      [.snapshot ["R-1"], .getOrderDetails (.ok ⟨"Completed", "AMB-01"⟩), .lookup, .update, .resolve (.ok 1)]
    eventsFor "R-1" s.emitted = [statusChanged 1 "R-1" "Created" ⟨"Completed", "AMB-01"⟩] ∧
      eventsFor "R-1" s'.emitted =
        [statusChanged 1 "R-1" "Created" ⟨"Completed", "AMB-01"⟩,
          statusChanged 1 "R-1" "Created" ⟨"Completed", "AMB-01"⟩] := by
  decide

end Shingo.Fleet
