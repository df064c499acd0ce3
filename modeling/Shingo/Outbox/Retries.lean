import Shingo.Outbox.Drainer
/-
  Shingo.Outbox.Retries — how often the drainer publishes one row
  (`OutboxDrainer.drain`, `MaxOutboxRetries`).

  Proved:
  - `settled_never_published`: once a row is acknowledged or dead-lettered, no later event
    of any run publishes its id again, whatever fails; deleting it changes nothing, as ids
    are never reused. The drainer publishes only the rows it holds, and those are pending.
  - `publishes_bounded`: in a run where every `AckOutbox` and `IncrementOutboxRetries`
    succeeds, each id is published at most `maxOutboxRetries` times and successfully at
    most once, and no row has more retries than that. Each row's failed publishes equal
    its retries, its successful ones its acknowledgement, plus the publish whose write is
    still to come (`Exact`).
-/

namespace Shingo.Outbox

def attempts (sent : List Attempt) (id : Nat) : Nat := sent.countP fun a => a.id = id

def successes (sent : List Attempt) (id : Nat) : Nat := sent.countP fun a => a.id = id ∧ a.ok = true

theorem attempts_eq (sent : List Attempt) (id : Nat) :
    attempts sent id = failures sent id + successes sent id := by
  induction sent with
  | nil => rfl
  | cons a sent ih =>
    unfold attempts failures successes at ih ⊢
    rw [List.countP_cons, List.countP_cons, List.countP_cons, ih]
    by_cases h : a.id = id <;> cases a.ok <;> simp [h] <;> omega

theorem successes_snoc (sent : List Attempt) (a : Attempt) (id : Nat) :
    successes (sent ++ [a]) id = successes sent id + if a.id = id ∧ a.ok = true then 1 else 0 := by
  simp only [successes, List.countP_append, List.countP_singleton, decide_eq_true_eq]

theorem Inv.rows_issued {s : St} (h : Inv s) {r : OutboxMessage} (hr : r ∈ s.db.rows) : r.id < s.db.nextId :=
  h.idsIssued _ (h.rowsEnqueued.subset (List.mem_map_of_mem _ hr))

/-! ## A settled row is never published again -/

/-- `id` was issued and its row, if still there, is acknowledged or dead-lettered. -/
def Settled (s : St) (id : Nat) : Prop :=
  id < s.db.nextId ∧ ∀ r ∈ s.db.rows, r.id = id → r.sentAt ≠ none ∨ maxOutboxRetries ≤ r.retries

theorem Settled.not_held {s : St} (h : Inv s) {id : Nat} (hs : Settled s id) {m : OutboxMessage}
    (hm : m ∈ s.phase.held) : m.id ≠ id := by
  intro hid
  obtain ⟨hrow, hpend⟩ := h.heldPending m hm
  rw [isPending_iff] at hpend
  rcases hs.2 m hrow hid with hs' | hd
  · exact hs' hpend.1
  · exact Nat.not_le.mpr hpend.2 hd

theorem Settled.writeBack {s : St} (h : Inv s) {id : Nat} (hs : Settled s id) {m : OutboxMessage} {ok : Bool}
    {rest : List OutboxMessage} (hp : s.phase = .published m ok rest) (f : OutboxMessage → OutboxMessage)
    (hf : ∀ r, (f r).id = r.id) :
    Settled { s with phase := .resume rest, db := { s.db with rows := updateRow s.db.rows m.id f } } id := by
  have hne := hs.not_held h (m := m) (by simp [hp, Phase.held])
  refine ⟨hs.1, fun r hr hid => ?_⟩
  rcases mem_updateRow_cases hr with ⟨hr, -⟩ | ⟨r0, -, hr0id, rfl⟩
  · exact hs.2 r hr hid
  · exact absurd (hr0id ▸ hf r0 ▸ hid) hne

theorem settled_step {s : St} (h : Inv s) {id : Nat} (hs : Settled s id) (e : Ev) :
    Settled (step s e) id ∧ ∃ later, (step s e).sent = s.sent ++ later ∧ ∀ a ∈ later, a.id ≠ id := by
  have hp := stepPath s e
  generalize step s e = s' at hp ⊢
  cases hp with
  | enqueue p t =>
    refine ⟨⟨Nat.lt_succ_of_lt hs.1, fun r hr hid => ?_⟩, [], by simp⟩
    simp only [enqueueOutbox_rows, List.mem_append, List.mem_singleton] at hr
    rcases hr with hr | rfl
    · exact hs.2 r hr hid
    · exact absurd hid (Nat.ne_of_gt hs.1)
  | publish ok hp => exact ⟨hs, [_], rfl, by simpa using hs.not_held h (by simp [hp, Phase.held])⟩
  | ack hp => exact ⟨hs.writeBack h hp _ fun _ => rfl, [], by simp⟩
  | retry hp => exact ⟨hs.writeBack h hp _ fun _ => rfl, [], by simp⟩
  | purge o => exact ⟨⟨hs.1, fun r hr hid => hs.2 r (mem_purgeOldOutbox.mp hr).1 hid⟩, [], by simp⟩
  | _ => exact ⟨hs, [], by simp⟩

/-- Once a row is acknowledged or dead-lettered, no later event of any run publishes it. -/
theorem settled_never_published {s : St} (hs : Reach s) {id : Nat} (hset : Settled s id) (evs : List Ev) :
    ∃ later, (run s evs).sent = s.sent ++ later ∧ ∀ a ∈ later, a.id ≠ id := by
  induction evs generalizing s with
  | nil => exact ⟨[], by simp [run]⟩
  | cons e evs ih =>
    obtain ⟨hset', l1, hl1, hne1⟩ := settled_step (inv hs) hset e
    obtain ⟨l2, hl2, hne2⟩ := ih (.step e hs) hset'
    refine ⟨l1 ++ l2, by simp only [run, List.foldl_cons] at hl2 ⊢; rw [hl2, hl1, List.append_assoc], ?_⟩
    intro a ha
    rcases List.mem_append.mp ha with ha | ha
    · exact hne1 a ha
    · exact hne2 a ha

/-! ## With every store write succeeding, each row is published at most `maxOutboxRetries` times -/

def writesOk : Ev → Bool
  | .write ok => ok
  | _ => true

/-- The publish of `id` whose store write is still to come, if it had outcome `ok`. -/
def Phase.inflight (p : Phase) (id : Nat) (ok : Bool) : Nat :=
  match p with
  | .published m o _ => if m.id = id ∧ o = ok then 1 else 0
  | _ => 0

/-- A row's failed publishes are its retries, its successful ones its acknowledgement,
    counting the publish whose write is still to come. -/
def Exact (s : St) (r : OutboxMessage) : Prop :=
  failures s.sent r.id = r.retries + s.phase.inflight r.id false ∧
    successes s.sent r.id = (if r.sentAt = none then 0 else 1) + s.phase.inflight r.id true

structure WInv (s : St) : Prop where
  exact : ∀ r ∈ s.db.rows, Exact s r
  bound : ∀ id, attempts s.sent id ≤ maxOutboxRetries ∧ successes s.sent id ≤ 1
  fresh : ∀ a ∈ s.sent, a.id < s.db.nextId

@[simp] theorem resume_inflight (rest : List OutboxMessage) (id : Nat) (ok : Bool) :
    (Phase.resume rest).inflight id ok = 0 := by
  cases rest <;> rfl

section
variable {s : St} (h : Inv s) (w : WInv s)
include h w

theorem winv_enqueue (p : List UInt8) (t : String) :
    WInv { s with db := (enqueueOutbox s.db p t).1, enqueued := s.enqueued ++ [((enqueueOutbox s.db p t).2, p)] } := by
  have hinfl : ∀ ok, s.phase.inflight s.db.nextId ok = 0 := fun ok => by
    unfold Phase.inflight; split
    · rename_i m o rest hp
      have := h.rows_issued (h.heldPending m (by simp [hp, Phase.held])).1
      simp [Nat.ne_of_lt this]
    · rfl
  have hf : failures s.sent s.db.nextId = 0 :=
    List.countP_eq_zero.mpr fun a ha hpa => Nat.ne_of_lt (w.fresh a ha) (of_decide_eq_true hpa).1
  have hs : successes s.sent s.db.nextId = 0 :=
    List.countP_eq_zero.mpr fun a ha hpa => Nat.ne_of_lt (w.fresh a ha) (of_decide_eq_true hpa).1
  refine ⟨fun r hr => ?_, w.bound, fun a ha => Nat.lt_succ_of_lt (w.fresh a ha)⟩
  simp only [enqueueOutbox_rows, List.mem_append, List.mem_singleton] at hr
  rcases hr with hr | rfl
  · exact w.exact r hr
  · simp [Exact, hf, hs, hinfl]

theorem winv_publish {m : OutboxMessage} {rest : List OutboxMessage} (hp : s.phase = .batch (m :: rest))
    (ok : Bool) : WInv { s with phase := .published m ok rest, sent := s.sent ++ [⟨m.id, m.payload, ok⟩] } := by
  have hmh := h.heldPending m (by simp [hp, Phase.held])
  have hpend := (isPending_iff m).mp hmh.2
  have hm := w.exact m hmh.1
  simp only [Exact, hp, Phase.inflight, hpend.1, if_true] at hm
  refine ⟨fun r hr => ?_, fun id => ?_, fun a ha => ?_⟩
  · by_cases hid : r.id = m.id
    · rw [h.row_eq hr hmh.1 hid]
      cases ok <;> simp [Exact, Phase.inflight, failures_snoc, successes_snoc, hm, hpend.1]
    · have := w.exact r hr
      simp only [Exact, hp, Phase.inflight] at this
      simp [Exact, Phase.inflight, failures_snoc, successes_snoc, this, Ne.symm hid, hid]
  · by_cases hid : m.id = id
    · subst hid
      have hb := attempts_eq s.sent m.id
      rw [attempts_eq, failures_snoc, successes_snoc]
      cases ok <;> simp <;> omega
    · have := w.bound id
      simpa [attempts, successes, List.countP_append, hid] using this
  · rcases List.mem_append.mp ha with ha | ha
    · exact w.fresh a ha
    · simp only [List.mem_singleton] at ha; subst ha; exact h.rows_issued hmh.1

theorem winv_write {m : OutboxMessage} {pubOk : Bool} {rest : List OutboxMessage}
    (hp : s.phase = .published m pubOk rest) :
    WInv { s with phase := .resume rest,
                  db := if pubOk then ackOutbox s.db m.id else incrementOutboxRetries s.db m.id } := by
  have hmh := h.heldPending m (by simp [hp, Phase.held])
  have hpend := (isPending_iff m).mp hmh.2
  have hm := w.exact m hmh.1
  simp only [Exact, hp, Phase.inflight, hpend.1, if_true] at hm
  -- the row of `m` is the only one whose counts change
  have key : ∀ f : OutboxMessage → OutboxMessage, (∀ r, (f r).id = r.id) →
      Exact { s with phase := .resume rest } (f m) →
      WInv { s with phase := .resume rest, db := { s.db with rows := updateRow s.db.rows m.id f } } := by
    intro f hf hfm
    refine ⟨fun r hr => ?_, w.bound, w.fresh⟩
    rcases mem_updateRow_cases hr with ⟨hr, hid⟩ | ⟨r0, hr0, hr0id, rfl⟩
    · have := w.exact r hr
      simp only [Exact, hp, Phase.inflight, Ne.symm hid, false_and, if_false] at this
      simpa [Exact] using this
    · rwa [h.row_eq hr0 hmh.1 hr0id]
  cases pubOk
  · exact key (fun r => { r with retries := r.retries + 1 }) (fun _ => rfl) (by simp [Exact, hm, hpend.1])
  · exact key (fun r => { r with sentAt := some s.db.clock }) (fun _ => rfl) (by simp [Exact, hm])

theorem winv_step (e : Ev) (he : writesOk e = true) : WInv (step s e) := by
  have hp := stepPath s e
  generalize step s e = s' at hp ⊢
  cases hp with
  | skip => exact w
  | enqueue p t => exact winv_enqueue h w p t
  | list _ _ hp =>
    refine ⟨fun r hr => ?_, w.bound, w.fresh⟩
    have := w.exact r hr
    simp only [Exact, hp, Phase.inflight] at this
    simpa [Exact] using this
  | publish ok hp => exact winv_publish h w hp ok
  | writeFailed => simp [writesOk] at he
  | ack hp => exact winv_write h w hp
  | retry hp => exact winv_write h w hp
  | purge o => exact ⟨fun r hr => w.exact r (mem_purgeOldOutbox.mp hr).1, w.bound, w.fresh⟩
  | advance dt => exact ⟨w.exact, w.bound, w.fresh⟩

end

theorem winv_run (evs : List Ev) (hw : ∀ e ∈ evs, writesOk e = true) :
    Reach (run init evs) ∧ WInv (run init evs) := by
  suffices ∀ s, Reach s → WInv s → Reach (run s evs) ∧ WInv (run s evs) from
    this init .init ⟨by simp [init, DB.empty], fun _ => by simp [attempts, successes, init], by simp [init]⟩
  induction evs with
  | nil => exact fun s hs w => ⟨hs, w⟩
  | cons e evs ih =>
    intro s hs w
    exact ih (fun e' he' => hw e' (List.mem_cons_of_mem _ he')) _ (.step e hs)
      (winv_step (inv hs) w e (hw e (List.mem_cons_self _ _)))

/-- With every store write succeeding, each id is published at most `maxOutboxRetries`
    times and successfully at most once, and no row passes `maxOutboxRetries` retries. -/
theorem publishes_bounded (evs : List Ev) (hw : ∀ e ∈ evs, writesOk e = true) (id : Nat) :
    attempts (run init evs).sent id ≤ maxOutboxRetries ∧ successes (run init evs).sent id ≤ 1 ∧
      ∀ r ∈ (run init evs).db.rows, r.retries ≤ maxOutboxRetries := by
  obtain ⟨hr, w⟩ := winv_run evs hw
  exact ⟨(w.bound id).1, (w.bound id).2, fun r hm => ((inv hr).rowsOk r hm).retriesLe⟩

/-- Once a row's `sent_at` is set or its retries reach `maxOutboxRetries`, no later event
    of any run passes it to `Publish`; and in a run where every store write succeeds,
    each row is published at most `maxOutboxRetries` times, successfully at most once, and
    its retries never pass `maxOutboxRetries`. -/
theorem settled_rows_publish_bounds :
    (∀ s, Reach s → ∀ r ∈ s.db.rows, r.sentAt ≠ none ∨ maxOutboxRetries ≤ r.retries →
      ∀ evs, ∃ later, (run s evs).sent = s.sent ++ later ∧ ∀ a ∈ later, a.id ≠ r.id) ∧
    (∀ evs, (∀ e ∈ evs, writesOk e = true) → ∀ id,
      attempts (run init evs).sent id ≤ maxOutboxRetries ∧ successes (run init evs).sent id ≤ 1 ∧
        ∀ r ∈ (run init evs).db.rows, r.retries ≤ maxOutboxRetries) := by
  refine ⟨fun s hs r hr hdone evs => settled_never_published hs ⟨(inv hs).rows_issued hr, ?_⟩ evs,
    fun evs hw id => publishes_bounded evs hw id⟩
  intro r' hr' hid
  rwa [(inv hs).row_eq hr' hr hid]

/-- In scenario S3, row 1, acknowledged, is never published again, and no row passes the
    bounds. -/
theorem settled_rows_publish_bounds_s3 :
    ⟨1, [1], "order.request", 0, 0, some 0⟩ ∈ (run init scenarioS3).db.rows ∧
      (∃ later, (run (run init scenarioS3) [.list true true, .publish false, .write true]).sent =
        (run init scenarioS3).sent ++ later ∧ ∀ a ∈ later, a.id ≠ 1) ∧
      (attempts (run init scenarioS3).sent 2 ≤ maxOutboxRetries ∧ successes (run init scenarioS3).sent 2 ≤ 1 ∧
        ∀ r ∈ (run init scenarioS3).db.rows, r.retries ≤ maxOutboxRetries) :=
  ⟨by decide, settled_rows_publish_bounds.1 (run init scenarioS3) (reach_run .init _)
    ⟨1, [1], "order.request", 0, 0, some 0⟩ (by decide) (.inl (by decide)) [.list true true, .publish false, .write true],
    settled_rows_publish_bounds.2 scenarioS3 (by decide) 2⟩

end Shingo.Outbox
