import Shingo.Outbox.Store
/-
  Shingo.Outbox.Drainer — the edge's `OutboxDrainer.drain` (`shingo-edge/messaging/outbox.go`)
  interleaved with everything else that touches the outbox table.

  A tick checks `IsConnected` and lists up to 50 pending rows (`ListPendingOutbox(50)`),
  then publishes each in order: after a successful `Publish` it calls `AckOutbox`, after a
  failed one `IncrementOutboxRetries`, and goes on either way. Any store call may fail; a
  failed statement changes nothing. The drainer's own state is where it is in a tick
  (`Phase`). The events are its steps, `EnqueueOutbox` from any goroutine, `PurgeOldOutbox`
  with any age and the clock, in any order (`drainLoop` purges between ticks every 100
  ticks, one of these orders). Two ghosts: `sent` records every `Publish` with its outcome,
  `enqueued` every id `EnqueueOutbox` returned, with its payload.

  Proved:
  - `inv`: in every reachable state the table holds enqueued rows in id order, the rows
    the drainer holds are pending rows of the table, and every row satisfies `RowOk`:
    retries at most the maximum and at most its failed publishes, an acknowledged row below
    the maximum and published successfully; a deleted row was acknowledged or failed
    `maxOutboxRetries` times.
  - `enqueued_row_accounted`: every id `EnqueueOutbox` returned is in exactly one of the
    four states of `RowState`: pending (then listed by a large enough `ListPendingOutbox`),
    acknowledged (after a successful publish of its payload), dead-lettered (after at least
    `maxOutboxRetries` failed publishes), purged (after one or the other).
-/

namespace Shingo.Outbox

/-- A `Publish` call: the row's id, the payload passed, and whether it succeeded. -/
structure Attempt where
  id : Nat
  payload : List UInt8
  ok : Bool
  deriving DecidableEq, Repr

def failures (sent : List Attempt) (id : Nat) : Nat := sent.countP fun a => a.id = id ∧ a.ok = false

/-- Where the drain goroutine is: between ticks; holding listed rows still to publish; or
    after the `Publish` of `m`, before its store write. -/
inductive Phase where
  | idle
  | batch (rest : List OutboxMessage)
  | published (m : OutboxMessage) (ok : Bool) (rest : List OutboxMessage)
  deriving DecidableEq, Repr

/-- The loop goes on with the rows left; with none the tick is over. -/
def Phase.resume : List OutboxMessage → Phase
  | [] => .idle
  | rest => .batch rest

/-- The listed rows whose store write is still to come. -/
def Phase.held : Phase → List OutboxMessage
  | .idle => []
  | .batch rest => rest
  | .published m _ rest => m :: rest

structure St where
  db : DB
  phase : Phase
  sent : List Attempt
  enqueued : List (Nat × List UInt8)

inductive Ev where
  | enqueue (payload : List UInt8) (msgType : String) (ok : Bool)
  /-- A tick starts: `IsConnected`, then `ListPendingOutbox(50)`. -/
  | list (connected ok : Bool)
  /-- `Publish` of the next listed row. -/
  | publish (ok : Bool)
  /-- `AckOutbox` after a successful publish, `IncrementOutboxRetries` after a failed one. -/
  | write (ok : Bool)
  | purge (olderThan : Int) (ok : Bool)
  | advance (dt : Nat)
  deriving Repr

def init : St := ⟨DB.empty, .idle, [], []⟩

def step (s : St) : Ev → St
  | .enqueue p t ok =>
    if ok then { s with db := (enqueueOutbox s.db p t).1, enqueued := s.enqueued ++ [((enqueueOutbox s.db p t).2, p)] }
    else s
  | .list connected ok =>
    match s.phase with
    | .idle => if connected && ok then { s with phase := .resume (listPendingOutbox s.db 50) } else s
    | _ => s
  | .publish ok =>
    match s.phase with
    | .batch (m :: rest) => { s with phase := .published m ok rest, sent := s.sent ++ [⟨m.id, m.payload, ok⟩] }
    | _ => s
  | .write ok =>
    match s.phase with
    | .published m pubOk rest =>
      { s with phase := .resume rest,
               db := if ok then (if pubOk then ackOutbox s.db m.id else incrementOutboxRetries s.db m.id) else s.db }
    | _ => s
  | .purge olderThan ok => if ok then { s with db := purgeOldOutbox s.db olderThan } else s
  | .advance dt => { s with db := { s.db with clock := s.db.clock + dt } }

inductive Reach : St → Prop
  | init : Reach init
  | step {s : St} (e : Ev) : Reach s → Reach (step s e)

def run (s : St) (evs : List Ev) : St := evs.foldl step s

theorem reach_run {s : St} (h : Reach s) (evs : List Ev) : Reach (run s evs) := by
  induction evs generalizing s with
  | nil => exact h
  | cons e evs ih => exact ih (.step e h)

/-- The code paths of one event, and the state each leaves. -/
inductive StepPath (s : St) : Ev → St → Prop
  /-- A failed statement, a disconnected tick, or an event of a phase the drainer is not in. -/
  | skip {e : Ev} : StepPath s e s
  | enqueue (p : List UInt8) (t : String) : StepPath s (.enqueue p t true)
      { s with db := (enqueueOutbox s.db p t).1, enqueued := s.enqueued ++ [((enqueueOutbox s.db p t).2, p)] }
  | list (connected ok : Bool) : s.phase = .idle →
      StepPath s (.list connected ok) { s with phase := .resume (listPendingOutbox s.db 50) }
  | publish (ok : Bool) {m : OutboxMessage} {rest : List OutboxMessage} : s.phase = .batch (m :: rest) →
      StepPath s (.publish ok) { s with phase := .published m ok rest, sent := s.sent ++ [⟨m.id, m.payload, ok⟩] }
  | writeFailed {m : OutboxMessage} {pubOk : Bool} {rest : List OutboxMessage} :
      s.phase = .published m pubOk rest → StepPath s (.write false) { s with phase := .resume rest }
  | ack {m : OutboxMessage} {rest : List OutboxMessage} : s.phase = .published m true rest →
      StepPath s (.write true) { s with phase := .resume rest, db := ackOutbox s.db m.id }
  | retry {m : OutboxMessage} {rest : List OutboxMessage} : s.phase = .published m false rest →
      StepPath s (.write true) { s with phase := .resume rest, db := incrementOutboxRetries s.db m.id }
  | purge (olderThan : Int) : StepPath s (.purge olderThan true) { s with db := purgeOldOutbox s.db olderThan }
  | advance (dt : Nat) : StepPath s (.advance dt) { s with db := { s.db with clock := s.db.clock + dt } }

theorem stepPath (s : St) (e : Ev) : StepPath s e (step s e) := by
  cases e with
  | enqueue p t ok => cases ok; exact .skip; exact .enqueue p t
  | list c ok =>
    simp only [step]; split
    · split
      · exact .list c ok ‹_›
      · exact .skip
    · exact .skip
  | publish ok =>
    simp only [step]; split
    · exact .publish ok ‹_›
    · exact .skip
  | write ok =>
    simp only [step]; split
    · next hp => cases ok; exact .writeFailed hp; next pubOk _ => cases pubOk; exact .retry hp; exact .ack hp
    · exact .skip
  | purge o ok => cases ok; exact .skip; exact .purge o
  | advance dt => exact .advance dt

/-! ## Small facts -/

@[simp] theorem resume_held (rest : List OutboxMessage) : (Phase.resume rest).held = rest := by
  cases rest <;> rfl

theorem resume_ne_published (rest : List OutboxMessage) (m ok r) : Phase.resume rest ≠ .published m ok r := by
  cases rest <;> simp [Phase.resume]

theorem failures_append (sent more : List Attempt) (id : Nat) :
    failures sent id ≤ failures (sent ++ more) id := by
  simp [failures]

theorem failures_snoc (sent : List Attempt) (a : Attempt) (id : Nat) :
    failures (sent ++ [a]) id = failures sent id + if a.id = id ∧ a.ok = false then 1 else 0 := by
  simp only [failures, List.countP_append, List.countP_singleton, decide_eq_true_eq]

/-! ## The invariant -/

/-- What every row of the table satisfies, against the publishes so far. -/
structure RowOk (sent : List Attempt) (r : OutboxMessage) : Prop where
  retriesLe : r.retries ≤ maxOutboxRetries
  ackedLive : r.sentAt ≠ none → r.retries < maxOutboxRetries
  ackedSent : r.sentAt ≠ none → ⟨r.id, r.payload, true⟩ ∈ sent
  retriesFailed : r.retries ≤ failures sent r.id

theorem RowOk.append {sent : List Attempt} {r : OutboxMessage} (h : RowOk sent r) (more : List Attempt) :
    RowOk (sent ++ more) r :=
  ⟨h.retriesLe, h.ackedLive, fun hs => List.mem_append_left _ (h.ackedSent hs),
    Nat.le_trans h.retriesFailed (failures_append _ _ _)⟩

structure Inv (s : St) : Prop where
  /-- Ids are given in increasing order, below `nextId`. -/
  idsSorted : (s.enqueued.map (·.1)).Pairwise (· < ·)
  idsIssued : ∀ e ∈ s.enqueued, e.1 < s.db.nextId
  /-- The table holds enqueued rows, in order. -/
  rowsEnqueued : List.Sublist (s.db.rows.map OutboxMessage.entry) s.enqueued
  /-- The rows the drainer holds are pending rows of the table, as the table has them. -/
  heldPending : ∀ m ∈ s.phase.held, m ∈ s.db.rows ∧ isPending m = true
  heldNodup : (s.phase.held.map (·.id)).Nodup
  /-- What the publish whose store write is still to come did. -/
  inflight : ∀ m ok rest, s.phase = .published m ok rest →
    (ok = true → ⟨m.id, m.payload, true⟩ ∈ s.sent) ∧ (ok = false → m.retries < failures s.sent m.id)
  rowsOk : ∀ r ∈ s.db.rows, RowOk s.sent r
  /-- A deleted row had been acknowledged or dead-lettered. -/
  purgedDone : ∀ e ∈ s.enqueued, (∀ r ∈ s.db.rows, r.id ≠ e.1) →
    ⟨e.1, e.2, true⟩ ∈ s.sent ∨ maxOutboxRetries ≤ failures s.sent e.1

section
variable {s : St} (h : Inv s)
include h

theorem Inv.rowIds : (s.db.rows.map (·.id)).Pairwise (· < ·) := by
  have := h.idsSorted.sublist (h.rowsEnqueued.map Prod.fst)
  simpa [List.map_map, Function.comp_def] using this

theorem Inv.row_eq {r r' : OutboxMessage} (hr : r ∈ s.db.rows) (hr' : r' ∈ s.db.rows) (he : r.id = r'.id) :
    r = r' :=
  List.inj_on_of_nodup_map h.rowIds.nodup hr hr' he

theorem Inv.entry_eq {e : Nat × List UInt8} {r : OutboxMessage} (he : e ∈ s.enqueued) (hr : r ∈ s.db.rows)
    (hid : r.id = e.1) : e = r.entry :=
  List.inj_on_of_nodup_map h.idsSorted.nodup he
    (h.rowsEnqueued.subset (List.mem_map_of_mem _ hr)) hid.symm

end

/-! ## Each event keeps it -/

theorem inv_init : Inv init :=
  ⟨List.Pairwise.nil, by simp [init], by simp [init, DB.empty], by simp [init, Phase.held],
    List.nodup_nil, by simp [init], by simp [init, DB.empty], by simp [init]⟩

section
variable {s : St} (h : Inv s)
include h

theorem inv_enqueue (p : List UInt8) (t : String) :
    Inv { s with db := (enqueueOutbox s.db p t).1, enqueued := s.enqueued ++ [((enqueueOutbox s.db p t).2, p)] } := by
  have hnew : ∀ e ∈ s.enqueued, e.1 ≠ s.db.nextId := fun e he => Nat.ne_of_lt (h.idsIssued e he)
  refine ⟨?_, ?_, ?_, fun m hm => ?_, h.heldNodup, h.inflight, fun r hr => ?_, fun e he hpre => ?_⟩
  · simp only [List.map_append, List.pairwise_append, enqueueOutbox_id]
    exact ⟨h.idsSorted, by simp, by simpa using h.idsIssued⟩
  · simp only [List.mem_append, List.mem_singleton, enqueueOutbox_nextId, enqueueOutbox_id]
    rintro e (he | rfl)
    · exact Nat.lt_succ_of_lt (h.idsIssued e he)
    · exact Nat.lt_succ_self _
  · simp only [enqueueOutbox_rows, List.map_append]
    exact h.rowsEnqueued.append (List.Sublist.refl _)
  · exact ⟨List.mem_append_left _ (h.heldPending m hm).1, (h.heldPending m hm).2⟩
  · simp only [enqueueOutbox_rows, List.mem_append, List.mem_singleton] at hr
    rcases hr with hr | rfl
    · exact h.rowsOk r hr
    · exact ⟨by simp, by simp, by simp, by simp⟩
  · simp only [List.mem_append, List.mem_singleton] at he
    rcases he with he | rfl
    · exact h.purgedDone e he fun r hr => hpre r (List.mem_append_left _ hr)
    · exact absurd rfl (hpre ⟨s.db.nextId, p, t, 0, s.db.clock, none⟩ (List.mem_append_right _ (List.mem_singleton_self _)))

theorem inv_list : Inv { s with phase := .resume (listPendingOutbox s.db 50) } := by
  refine ⟨h.idsSorted, h.idsIssued, h.rowsEnqueued, fun m hm => ?_, ?_, ?_, h.rowsOk, h.purgedDone⟩
  · exact mem_listPendingOutbox (by simpa using hm)
  · simp only [resume_held]
    refine (h.rowIds.sublist ?_).nodup
    exact ((List.take_sublist _ _).trans (List.filter_sublist _)).map _
  · intro m ok rest he; exact absurd he (resume_ne_published _ _ _ _)

theorem inv_publish {m : OutboxMessage} {rest : List OutboxMessage} (hp : s.phase = .batch (m :: rest)) (ok : Bool) :
    Inv { s with phase := .published m ok rest, sent := s.sent ++ [⟨m.id, m.payload, ok⟩] } := by
  have hheld : s.phase.held = m :: rest := by rw [hp]; rfl
  refine ⟨h.idsSorted, h.idsIssued, h.rowsEnqueued, fun r hr => h.heldPending r (hheld ▸ hr), ?_, ?_,
    fun r hr => (h.rowsOk r hr).append _, fun e he hpre => ?_⟩
  · have := h.heldNodup; rw [hheld] at this; exact this
  · rintro m' ok' rest' ⟨⟩
    have hm := h.rowsOk m (h.heldPending m (by simp [hheld])).1
    refine ⟨fun hok => by simp [hok], fun hok => ?_⟩
    rw [failures_snoc, if_pos ⟨rfl, hok⟩]
    exact Nat.lt_succ_of_le hm.retriesFailed
  · exact (h.purgedDone e he hpre).imp (List.mem_append_left _) fun hle => Nat.le_trans hle (failures_append _ _ _)

theorem held_rest {m : OutboxMessage} {ok : Bool} {rest : List OutboxMessage}
    (hp : s.phase = .published m ok rest) :
    (∀ r ∈ rest, r ∈ s.db.rows ∧ isPending r = true ∧ r.id ≠ m.id) ∧ (rest.map (·.id)).Nodup := by
  have hheld : s.phase.held = m :: rest := by rw [hp]; rfl
  have hnd := h.heldNodup
  simp only [hheld, List.map_cons, List.nodup_cons] at hnd
  exact ⟨fun r hr => ⟨(h.heldPending r (by simp [hheld, hr])).1, (h.heldPending r (by simp [hheld, hr])).2,
    fun he => hnd.1 (he ▸ List.mem_map_of_mem _ hr)⟩, hnd.2⟩

theorem inv_resume {m : OutboxMessage} {ok : Bool} {rest : List OutboxMessage}
    (hp : s.phase = .published m ok rest) : Inv { s with phase := .resume rest } := by
  obtain ⟨hrest, hnd⟩ := held_rest h hp
  exact ⟨h.idsSorted, h.idsIssued, h.rowsEnqueued, fun r hr => ⟨(hrest r (by simpa using hr)).1,
    (hrest r (by simpa using hr)).2.1⟩, by simpa using hnd,
    fun _ _ _ he => absurd he (resume_ne_published _ _ _ _), h.rowsOk, h.purgedDone⟩

theorem inv_writeBack {m : OutboxMessage} {ok : Bool} {rest : List OutboxMessage}
    (hp : s.phase = .published m ok rest) (f : OutboxMessage → OutboxMessage)
    (hf : ∀ r, (f r).entry = r.entry) (hm : RowOk s.sent (f m)) :
    Inv { s with phase := .resume rest, db := { s.db with rows := updateRow s.db.rows m.id f } } := by
  have hheld : s.phase.held = m :: rest := by rw [hp]; rfl
  have hmrow := (h.heldPending m (by simp [hheld])).1
  have hfid : ∀ r, (f r).id = r.id := fun r => congrArg Prod.fst (hf r)
  obtain ⟨hrest, hnd⟩ := held_rest h hp
  refine ⟨h.idsSorted, h.idsIssued, by simpa [updateRow_entries hf] using h.rowsEnqueued,
    fun r hr => ?_, by simpa using hnd, fun _ _ _ he => absurd he (resume_ne_published _ _ _ _),
    fun r hr => ?_, fun e he hpre => h.purgedDone e he fun r hr hid => ?_⟩
  · have hr' := hrest r (by simpa using hr)
    exact ⟨mem_updateRow_of_ne f hr'.1 hr'.2.2, hr'.2.1⟩
  · rcases mem_updateRow_cases hr with ⟨hr, -⟩ | ⟨r0, hr0, hid, rfl⟩
    · exact h.rowsOk r hr
    · rwa [h.row_eq hr0 hmrow hid]
  · refine hpre (if r.id = m.id then f r else r) (mem_updateRow.mpr ⟨r, hr, rfl⟩) ?_
    split <;> simp [hfid, hid]

theorem inv_purge (o : Int) : Inv { s with db := purgeOldOutbox s.db o } := by
  refine ⟨h.idsSorted, h.idsIssued, ?_, fun m hm => ?_, h.heldNodup, h.inflight,
    fun r hr => h.rowsOk r (mem_purgeOldOutbox.mp hr).1, fun e he hpre => ?_⟩
  · exact ((List.filter_sublist _).map _).trans h.rowsEnqueued
  · have := h.heldPending m hm
    exact ⟨mem_purgeOldOutbox.mpr ⟨this.1, not_purgeable_of_pending this.2 _⟩, this.2⟩
  · by_cases hex : ∃ r ∈ s.db.rows, r.id = e.1
    · obtain ⟨r, hr, hid⟩ := hex
      have hpurged : purgeable (s.db.clock - o) r = true := by
        by_contra hn
        exact hpre r (mem_purgeOldOutbox.mpr ⟨hr, by simpa using hn⟩) hid
      have hok := h.rowsOk r hr
      rw [h.entry_eq he hr hid]
      rcases done_of_purgeable hpurged with hs | hd
      · exact .inl (hok.ackedSent hs)
      · exact .inr (Nat.le_trans hd hok.retriesFailed)
    · exact h.purgedDone e he fun r hr hid => hex ⟨r, hr, hid⟩

theorem inv_step (e : Ev) : Inv (step s e) := by
  have hp := stepPath s e
  generalize step s e = s' at hp ⊢
  cases hp with
  | skip => exact h
  | enqueue p t => exact inv_enqueue h p t
  | list => exact inv_list h
  | publish ok hp => exact inv_publish h hp ok
  | writeFailed hp => exact inv_resume h hp
  | @ack m rest hp =>
    have hmheld : m ∈ s.phase.held := by simp [hp, Phase.held]
    have hpend := (isPending_iff m).mp (h.heldPending m hmheld).2
    have hm := h.rowsOk m (h.heldPending m hmheld).1
    exact inv_writeBack h hp (fun r => { r with sentAt := some s.db.clock }) (fun _ => rfl)
      ⟨hm.retriesLe, fun _ => hpend.2, fun _ => (h.inflight m true rest hp).1 rfl, hm.retriesFailed⟩
  | @retry m rest hp =>
    have hpend := (isPending_iff m).mp (h.heldPending m (by simp [hp, Phase.held])).2
    exact inv_writeBack h hp (fun r => { r with retries := r.retries + 1 }) (fun _ => rfl)
      ⟨hpend.2, by simp [hpend.1], by simp [hpend.1], (h.inflight m false rest hp).2 rfl⟩
  | purge o => exact inv_purge h o
  | advance dt => exact ⟨h.1, h.2, h.3, h.4, h.5, h.6, h.7, h.8⟩

end

theorem inv {s : St} (h : Reach s) : Inv s := by
  induction h with
  | init => exact inv_init
  | step e _ ih => exact inv_step ih e

/-! ## Every enqueued id is in exactly one state -/

/-- The state of an id whose row is `r`. -/
def stateOf (r : OutboxMessage) : RowState :=
  if r.sentAt ≠ none then .acknowledged else if r.retries < maxOutboxRetries then .pending else .deadLettered

theorem holds_iff_stateOf {s : St} (h : Inv s) {r : OutboxMessage} (hr : r ∈ s.db.rows) (st : RowState) :
    st.Holds s.db r.id ↔ st = stateOf r := by
  have hlive := (h.rowsOk r hr).ackedLive
  have same : ∀ {r'}, r' ∈ s.db.rows → r'.id = r.id → r' = r := fun hr' hid => h.row_eq hr' hr hid
  cases st with
  | pending =>
    refine ⟨fun ⟨r', hr', hid, hs, hlt⟩ => ?_, fun hst => ⟨r, hr, rfl, ?_⟩⟩
    · rw [same hr' hid] at hs hlt; simp [stateOf, hs, hlt]
    · unfold stateOf at hst; split_ifs at hst; simp_all
  | acknowledged =>
    refine ⟨fun ⟨r', hr', hid, hs⟩ => ?_, fun hst => ⟨r, hr, rfl, ?_⟩⟩
    · rw [same hr' hid] at hs; simp [stateOf, hs]
    · unfold stateOf at hst; split_ifs at hst; simp_all
  | deadLettered =>
    refine ⟨fun ⟨r', hr', hid, hle⟩ => ?_, fun hst => ⟨r, hr, rfl, ?_⟩⟩
    · rw [same hr' hid] at hle
      have hs : r.sentAt = none := by by_contra hs; exact absurd (hlive hs) (Nat.not_lt.mpr hle)
      simp [stateOf, hs, Nat.not_lt.mpr hle]
    · unfold stateOf at hst; split_ifs at hst; simp_all
  | purged => exact ⟨fun hp => absurd rfl (hp r hr), fun hst => by unfold stateOf at hst; split_ifs at hst⟩

/-- Every id `EnqueueOutbox` returned is in exactly one of the four states: pending, and
    then listed by `ListPendingOutbox` with a limit as large as the table; acknowledged,
    only after a successful publish of its payload; dead-lettered, only after at least
    `maxOutboxRetries` failed publishes; or deleted, after one or the other. -/
theorem enqueued_row_accounted {s : St} (hs : Reach s) {id : Nat} {payload : List UInt8}
    (he : (id, payload) ∈ s.enqueued) :
    (∃! st : RowState, st.Holds s.db id) ∧
      (RowState.pending.Holds s.db id →
        ∀ limit, s.db.rows.length ≤ limit → id ∈ (listPendingOutbox s.db limit).map (·.id)) ∧
      (RowState.acknowledged.Holds s.db id → ⟨id, payload, true⟩ ∈ s.sent) ∧
      (RowState.deadLettered.Holds s.db id → maxOutboxRetries ≤ failures s.sent id) ∧
      (RowState.purged.Holds s.db id → ⟨id, payload, true⟩ ∈ s.sent ∨ maxOutboxRetries ≤ failures s.sent id) := by
  have h := inv hs
  refine ⟨?_, fun ⟨r, hr, hid, hpend⟩ limit hl => ?_, fun ⟨r, hr, hid, hsent⟩ => ?_,
    fun ⟨r, hr, hid, hle⟩ => ?_, h.purgedDone _ he⟩
  · by_cases hex : ∃ r ∈ s.db.rows, r.id = id
    · obtain ⟨r, hr, rfl⟩ := hex
      exact ⟨stateOf r, (holds_iff_stateOf h hr _).mpr rfl, fun st hst => (holds_iff_stateOf h hr st).mp hst⟩
    · refine ⟨.purged, fun r hr hid => hex ⟨r, hr, hid⟩, fun st hst => ?_⟩
      cases st with
      | purged => rfl
      | _ => obtain ⟨r, hr, hid, -⟩ := hst; exact absurd ⟨r, hr, hid⟩ hex
  · rw [listPendingOutbox_all hl]
    exact List.mem_map.mpr ⟨r, List.mem_filter.mpr ⟨hr, (isPending_iff r).mpr hpend⟩, hid⟩
  · have := (h.rowsOk r hr).ackedSent hsent
    have hpl : payload = r.payload := congrArg Prod.snd (h.entry_eq he hr hid)
    rwa [← hid, hpl]
  · rw [← hid]; exact Nat.le_trans hle (h.rowsOk r hr).retriesFailed

/-- Scenario S3's first tick: three rows enqueued, the middle one's publish fails. -/
def scenarioS3 : List Ev :=
  [.enqueue [1] "order.request" true, .enqueue [2] "order.request" true, .enqueue [3] "order.request" true,
    .list true true, .publish true, .write true, .publish false, .write true, .publish true, .write true]

/-- After scenario S3's first tick, row 2 (its publish failed once) is accounted for. -/
theorem enqueued_row_accounted_s3 :
    let s := run init scenarioS3
    Reach s ∧ (2, [2]) ∈ s.enqueued ∧
      (∃! st : RowState, st.Holds s.db 2) ∧
      (RowState.pending.Holds s.db 2 →
        ∀ limit, s.db.rows.length ≤ limit → 2 ∈ (listPendingOutbox s.db limit).map (·.id)) ∧
      (RowState.acknowledged.Holds s.db 2 → ⟨2, [2], true⟩ ∈ s.sent) ∧
      (RowState.deadLettered.Holds s.db 2 → maxOutboxRetries ≤ failures s.sent 2) ∧
      (RowState.purged.Holds s.db 2 → ⟨2, [2], true⟩ ∈ s.sent ∨ maxOutboxRetries ≤ failures s.sent 2) := by
  intro s
  exact ⟨reach_run .init _, by decide, enqueued_row_accounted (reach_run .init _) (by decide)⟩

end Shingo.Outbox
