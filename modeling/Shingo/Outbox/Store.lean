import Mathlib.Data.List.Sort
/-
  Shingo.Outbox.Store — the edge's `outbox` table and its five statements
  (`shingo-edge/store/outbox.go`): `EnqueueOutbox`, `ListPendingOutbox`, `AckOutbox`,
  `IncrementOutboxRetries`, `PurgeOldOutbox`.

  `DB` is the table: a list of rows in rowid order; `nextId` is the next AUTOINCREMENT id, so an
  id is never given twice, and `ORDER BY id` is the list order. Times are one clock,
  `clock`. Each statement is one atomic SQL statement: a failed one changes nothing, which
  the drainer's step (`Shingo.Outbox.Drainer`) applies. A row is pending while unsent with
  fewer than `maxOutboxRetries` retries, acknowledged once `sentAt` is set, dead-lettered
  at `maxOutboxRetries` retries.

  The lemmas say what each statement does to the pending rows and to any one row, so that
  the drainer's invariants never unfold a statement.
-/

namespace Shingo.Outbox

/-- `MaxOutboxRetries`. -/
def maxOutboxRetries : Nat := 10

/-- A row of `outbox` (`OutboxMessage`; the table's `topic` column is always `'orders'`
    on the edge and is read by nothing). -/
structure OutboxMessage where
  id : Nat
  payload : List UInt8
  msgType : String
  retries : Nat
  createdAt : Nat
  sentAt : Option Nat
  deriving DecidableEq, Repr

/-- What `EnqueueOutbox` returned for the row: its id and its payload. -/
def OutboxMessage.entry (m : OutboxMessage) : Nat × List UInt8 := (m.id, m.payload)

/-- `sent_at IS NULL AND retries < MaxOutboxRetries`. -/
def isPending (m : OutboxMessage) : Bool := m.sentAt.isNone && decide (m.retries < maxOutboxRetries)

structure DB where
  rows : List OutboxMessage
  nextId : Nat
  clock : Nat
  deriving Repr

def DB.empty : DB := ⟨[], 1, 0⟩

/-- `INSERT INTO outbox (topic, payload, msg_type) VALUES ('orders', ?, ?)`, returning
    `LastInsertId`: retries and `sent_at` take their defaults, `created_at` is now. -/
def enqueueOutbox (db : DB) (payload : List UInt8) (msgType : String) : DB × Nat :=
  ({ db with rows := db.rows ++ [⟨db.nextId, payload, msgType, 0, db.clock, none⟩], nextId := db.nextId + 1 },
    db.nextId)

/-- `SELECT ... WHERE sent_at IS NULL AND retries < ? ORDER BY id LIMIT ?`. -/
def listPendingOutbox (db : DB) (limit : Nat) : List OutboxMessage :=
  (db.rows.filter isPending).take limit

/-- `UPDATE outbox SET ... WHERE id = ?`. -/
def updateRow (rows : List OutboxMessage) (id : Nat) (f : OutboxMessage → OutboxMessage) :
    List OutboxMessage :=
  rows.map fun r => if r.id = id then f r else r

/-- `UPDATE outbox SET sent_at = datetime('now','localtime') WHERE id = ?`. -/
def ackOutbox (db : DB) (id : Nat) : DB :=
  { db with rows := updateRow db.rows id fun r => { r with sentAt := some db.clock } }

/-- `UPDATE outbox SET retries = retries + 1 WHERE id = ?`. -/
def incrementOutboxRetries (db : DB) (id : Nat) : DB :=
  { db with rows := updateRow db.rows id fun r => { r with retries := r.retries + 1 } }

/-- The `WHERE` of `PurgeOldOutbox`: sent before the cutoff, or dead-lettered and created
    before it. -/
def purgeable (cutoff : Int) (r : OutboxMessage) : Bool :=
  r.sentAt.any (fun t => decide ((t : Int) < cutoff)) ||
    (decide (maxOutboxRetries ≤ r.retries) && decide ((r.createdAt : Int) < cutoff))

/-- `DELETE FROM outbox WHERE ...`, the cutoff `olderThan` before now. -/
def purgeOldOutbox (db : DB) (olderThan : Int) : DB :=
  { db with rows := db.rows.filter fun r => !purgeable (db.clock - olderThan) r }

/-! ## One row at a time -/

@[simp] theorem entry_id (m : OutboxMessage) : m.entry.1 = m.id := rfl

theorem isPending_iff (m : OutboxMessage) :
    isPending m = true ↔ m.sentAt = none ∧ m.retries < maxOutboxRetries := by
  simp [isPending, Option.isNone_iff_eq_none]

theorem not_purgeable_of_pending {m : OutboxMessage} (h : isPending m = true) (cutoff : Int) :
    purgeable cutoff m = false := by
  rw [isPending_iff] at h
  simp [purgeable, h.1, Nat.not_le.mpr h.2]

theorem done_of_purgeable {m : OutboxMessage} {cutoff : Int} (h : purgeable cutoff m = true) :
    m.sentAt ≠ none ∨ maxOutboxRetries ≤ m.retries := by
  cases hs : m.sentAt <;> simp_all [purgeable]

theorem mem_updateRow {rows : List OutboxMessage} {id : Nat} {f : OutboxMessage → OutboxMessage}
    {r : OutboxMessage} : r ∈ updateRow rows id f ↔ ∃ r0 ∈ rows, (if r0.id = id then f r0 else r0) = r :=
  List.mem_map

theorem mem_updateRow_of_ne {rows : List OutboxMessage} {id : Nat} (f : OutboxMessage → OutboxMessage)
    {r : OutboxMessage} (hr : r ∈ rows) (hne : r.id ≠ id) : r ∈ updateRow rows id f :=
  mem_updateRow.mpr ⟨r, hr, if_neg hne⟩

theorem mem_updateRow_cases {rows : List OutboxMessage} {id : Nat} {f : OutboxMessage → OutboxMessage}
    {r : OutboxMessage} (h : r ∈ updateRow rows id f) :
    (r ∈ rows ∧ r.id ≠ id) ∨ ∃ r0 ∈ rows, r0.id = id ∧ f r0 = r := by
  obtain ⟨r0, hr0, he⟩ := mem_updateRow.mp h
  by_cases hid : r0.id = id
  · exact .inr ⟨r0, hr0, hid, by simpa [hid] using he⟩
  · simp only [hid, if_false] at he
    exact .inl ⟨he ▸ hr0, he ▸ hid⟩

theorem updateRow_entries {rows : List OutboxMessage} {id : Nat} {f : OutboxMessage → OutboxMessage}
    (hf : ∀ r, (f r).entry = r.entry) : (updateRow rows id f).map OutboxMessage.entry = rows.map OutboxMessage.entry := by
  simp only [updateRow, List.map_map]
  exact List.map_congr_left fun r _ => by by_cases h : r.id = id <;> simp [h, hf]

theorem filter_updateRow {rows : List OutboxMessage} {id : Nat} {f : OutboxMessage → OutboxMessage}
    (hf : ∀ r, isPending (f r) = false) :
    (updateRow rows id f).filter isPending = (rows.filter isPending).filter (·.id ≠ id) := by
  induction rows with
  | nil => rfl
  | cons r rows ih =>
    by_cases h : r.id = id
    · by_cases hp : isPending r = true <;> simp_all [updateRow, List.filter_cons]
    · by_cases hp : isPending r = true <;> simp_all [updateRow, List.filter_cons]

/-! ## The state of one id -/

/-- The four states the spec names for an enqueued id. -/
inductive RowState where
  | pending
  | acknowledged
  | deadLettered
  | purged
  deriving DecidableEq, Repr

/-- `id` is in state `st`, as the table says. -/
def RowState.Holds (db : DB) (id : Nat) : RowState → Prop
  | .pending => ∃ r ∈ db.rows, r.id = id ∧ r.sentAt = none ∧ r.retries < maxOutboxRetries
  | .acknowledged => ∃ r ∈ db.rows, r.id = id ∧ r.sentAt ≠ none
  | .deadLettered => ∃ r ∈ db.rows, r.id = id ∧ maxOutboxRetries ≤ r.retries
  | .purged => ∀ r ∈ db.rows, r.id ≠ id

/-! ## The statements -/

@[simp] theorem enqueueOutbox_rows (db : DB) (p : List UInt8) (t : String) :
    (enqueueOutbox db p t).1.rows = db.rows ++ [⟨db.nextId, p, t, 0, db.clock, none⟩] := rfl
@[simp] theorem enqueueOutbox_nextId (db : DB) (p : List UInt8) (t : String) :
    (enqueueOutbox db p t).1.nextId = db.nextId + 1 := rfl
@[simp] theorem enqueueOutbox_id (db : DB) (p : List UInt8) (t : String) :
    (enqueueOutbox db p t).2 = db.nextId := rfl
@[simp] theorem ackOutbox_nextId (db : DB) (id : Nat) : (ackOutbox db id).nextId = db.nextId := rfl
@[simp] theorem incrementOutboxRetries_nextId (db : DB) (id : Nat) :
    (incrementOutboxRetries db id).nextId = db.nextId := rfl
@[simp] theorem purgeOldOutbox_nextId (db : DB) (o : Int) : (purgeOldOutbox db o).nextId = db.nextId := rfl

theorem mem_listPendingOutbox {db : DB} {limit : Nat} {m : OutboxMessage}
    (h : m ∈ listPendingOutbox db limit) : m ∈ db.rows ∧ isPending m = true :=
  List.mem_filter.mp (List.mem_of_mem_take h)

theorem listPendingOutbox_all {db : DB} {limit : Nat} (hl : db.rows.length ≤ limit) :
    listPendingOutbox db limit = db.rows.filter isPending :=
  List.take_of_length_le (Nat.le_trans (List.length_filter_le _ _) hl)

theorem mem_purgeOldOutbox {db : DB} {o : Int} {r : OutboxMessage} :
    r ∈ (purgeOldOutbox db o).rows ↔ r ∈ db.rows ∧ purgeable (db.clock - o) r = false := by
  simp [purgeOldOutbox]

theorem purgeOldOutbox_pending (db : DB) (o : Int) :
    (purgeOldOutbox db o).rows.filter isPending = db.rows.filter isPending := by
  simp only [purgeOldOutbox, List.filter_filter]
  exact List.filter_congr fun r _ => by
    cases hp : isPending r
    · simp
    · simp [not_purgeable_of_pending hp]

theorem ackOutbox_pending (db : DB) (id : Nat) :
    (ackOutbox db id).rows.filter isPending = (db.rows.filter isPending).filter (·.id ≠ id) :=
  filter_updateRow fun r => by simp [isPending]

theorem ackOutbox_entries (db : DB) (id : Nat) :
    (ackOutbox db id).rows.map OutboxMessage.entry = db.rows.map OutboxMessage.entry :=
  updateRow_entries fun _ => rfl

theorem incrementOutboxRetries_entries (db : DB) (id : Nat) :
    (incrementOutboxRetries db id).rows.map OutboxMessage.entry = db.rows.map OutboxMessage.entry :=
  updateRow_entries fun _ => rfl

end Shingo.Outbox
