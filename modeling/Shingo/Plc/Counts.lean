import Mathlib.Algebra.Order.Ring.Nat
import Mathlib.Data.List.Dedup
import Mathlib.Data.List.Sort
import Shingo.Plc.Hourly
/-
  Shingo.Plc.Counts — the `hourly_counts` table as the rows it holds
  (`shingo-edge/www/handlers_manual_order.go`, package `store`), the two queries the
  production page reads it with, `ListHourlyCounts` and `HourlyCountTotals`, and the hourly
  counts `handleProduction` and `apiGetHourlyCounts` (`shingo-edge/www/handlers_production.go`)
  show from them.

  A row is its key `(line_id, job_style_id, count_date, hour)` and the value SQLite stores
  in `delta` (`Shingo.Go.Sql`). The keys are distinct: `UpsertHourlyCount`'s `ON CONFLICT`
  names them, so they carry a unique index, and the table carries that as a field. The
  schema is not in the source; a row's `id` and `updated_at`, which no modelled caller
  reads, are left out. The engine's `ORDER BY` is an insertion sort and its `GROUP BY hour`
  one `sum()` per distinct hour. `ListHourlyCounts` stops at the first row whose `delta` its
  `int64` `Scan` rejects; `HourlyCountTotals` returns a nil map on such a `Scan` error and
  the totals read so far beside an error of `sum()`. `handleProduction` drops both errors;
  `apiGetHourlyCounts` answers the second with a 500.

  Proved:
  - `counts_handleDeltasRows`: the tracker run over the rows refines the bucket model of
    `Shingo.Plc.Hourly`: after any sequence of `HandleDelta` calls, each key's row holds
    the value the bucket model gives it.
  - `handleDeltasRows_exact`: along a run whose deltas into a set of keys stay within
    `MaxInt64` in magnitude, its rows stay INTEGERs and their sum grows by exactly those
    deltas.
  - `styleCounts_eq_counts`: `ListHourlyCounts` fails exactly when a row of the line, style
    and day does not scan, and otherwise lists them in strictly increasing hour order; the
    map the page builds from it holds exactly the table's values, or nothing.
  - `hourlyCountTotals_eq_sum_styles`: when no `sum()` of the line's day can overflow, a
    line's total for a day and hour is the sum of the single-style maps of the styles in the
    table, and has an entry exactly when one of them has.
  - `hourlyCountTotals_handled`: after any sequence of calls from an empty table with every
    upsert succeeding and each hour's deltas within `MaxInt64` in magnitude, a line's total
    for a day and hour is the sum of the deltas of the calls counted in any of its buckets
    of that hour, whatever their style, and has no entry when there are none.
-/

namespace Shingo.Plc

open Shingo.Go

/-! ## Go maps filled by a scan loop -/

/-- The map a loop `for … { m[k] = v }` fills from empty, with the pairs in turn. -/
def goMap {α β : Type} [DecidableEq α] (kvs : List (α × β)) : α → Option β :=
  kvs.foldl (fun m kv => Function.update m kv.1 (some kv.2)) (fun _ => none : α → Option β)

section GoMap
variable {α β : Type} [DecidableEq α]

theorem foldl_update_eq_some {kvs : List (α × β)} (hn : (kvs.map Prod.fst).Nodup)
    (m : α → Option β) (k : α) (v : β) :
    kvs.foldl (fun (m : α → Option β) kv => Function.update m kv.1 (some kv.2)) m k = some v ↔
      (k, v) ∈ kvs ∨ k ∉ kvs.map Prod.fst ∧ m k = some v := by
  induction kvs generalizing m with
  | nil => simp
  | cons kv kvs ih =>
    rw [List.map_cons, List.nodup_cons] at hn
    rw [List.foldl_cons, ih hn.2]
    by_cases hk : k = kv.1
    · subst hk
      have hv : ∀ v, (kv.1, v) ∉ kvs := fun v h => hn.1 (List.mem_map.mpr ⟨_, h, rfl⟩)
      obtain ⟨k, w⟩ := kv
      simp [hv, eq_comm]
    · simp [Function.update_noteq hk, hk, Prod.ext_iff]

theorem goMap_eq_some {kvs : List (α × β)} (hn : (kvs.map Prod.fst).Nodup) {k : α} {v : β} :
    goMap kvs k = some v ↔ (k, v) ∈ kvs := by
  simp [goMap, foldl_update_eq_some hn]

end GoMap

/-! ## The rows -/

/-- A row of `hourly_counts` as SQLite stores it: its key columns and its `delta`. -/
structure HourlyCountRow where
  key : BucketKey
  delta : SqlValue
  deriving DecidableEq

/-- `INSERT … ON CONFLICT(line_id, job_style_id, count_date, hour) DO UPDATE SET delta =
    delta + excluded.delta` on the rows: the row of key `k` gets `d` upserted, or a row of
    key `k` is inserted. -/
def upsertRows : List HourlyCountRow → BucketKey → Int → List HourlyCountRow
  | [], k, d => [⟨k, upsertValue none d⟩]
  | r :: rs, k, d =>
    if r.key = k then { r with delta := upsertValue (some r.delta) d } :: rs else r :: upsertRows rs k d

/-- The sum of the deltas of the rows whose key satisfies `p`. -/
def deltaSum (p : BucketKey → Bool) (rs : List HourlyCountRow) : Int :=
  ((rs.filter (p ·.key)).map (·.delta.num)).sum

/-- The sum of the magnitudes of the deltas of the rows whose key satisfies `p`. -/
def absSum (p : BucketKey → Bool) (rs : List HourlyCountRow) : Nat :=
  ((rs.filter (p ·.key)).map (·.delta.num.natAbs)).sum

section Rows
variable (rs : List HourlyCountRow) (k : BucketKey) (d : Int)

theorem keys_upsertRows :
    (upsertRows rs k d).map (·.key) = if k ∈ rs.map (·.key) then rs.map (·.key) else rs.map (·.key) ++ [k] := by
  induction rs with
  | nil => rfl
  | cons r rs ih =>
    by_cases hk : r.key = k
    · simp [upsertRows, hk]
    · simp only [upsertRows, if_neg hk, List.map_cons, ih, List.mem_cons, Ne.symm hk, false_or]
      split <;> rfl

theorem nodup_upsertRows {rs : List HourlyCountRow} (hn : (rs.map (·.key)).Nodup) (k : BucketKey) (d : Int) :
    ((upsertRows rs k d).map (·.key)).Nodup := by
  rw [keys_upsertRows]
  split
  · exact hn
  · next hk => exact hn.append (List.nodup_singleton k) (List.disjoint_singleton.mpr hk)

theorem any_upsertRows (p : BucketKey → Bool) :
    (upsertRows rs k d).any (p ·.key) = (rs.any (p ·.key) || p k) := by
  induction rs with
  | nil => simp [upsertRows]
  | cons r rs ih =>
    by_cases hk : r.key = k
    · subst hk; cases hp : p r.key <;> simp [upsertRows, hp]
    · simp [upsertRows, hk, ih, Bool.or_assoc]

theorem find_upsertRows (k' : BucketKey) :
    ((upsertRows rs k d).find? (·.key = k')).map (·.delta) =
      if k' = k then addRow ((rs.find? (·.key = k)).map (·.delta)) d
      else (rs.find? (·.key = k')).map (·.delta) := by
  induction rs with
  | nil => by_cases h : k' = k <;> simp [upsertRows, addRow, h, eq_comm]
  | cons r rs ih =>
    by_cases hk : r.key = k
    · subst hk
      by_cases h : k' = r.key
      · simp [upsertRows, h, addRow]
      · simp [upsertRows, h, Ne.symm h]
    · by_cases h : r.key = k'
      · subst h; simp [upsertRows, hk, Ne.symm hk]
      · simp [upsertRows, hk, h, ih]

theorem filter_upsertRows (p : BucketKey → Bool) :
    (upsertRows rs k d).filter (p ·.key) =
      if p k then upsertRows (rs.filter (p ·.key)) k d else rs.filter (p ·.key) := by
  induction rs with
  | nil => cases hp : p k <;> simp [upsertRows, hp]
  | cons r rs ih =>
    by_cases hk : r.key = k
    · subst hk; cases hp : p r.key <;> simp [upsertRows, List.filter_cons, hp]
    · cases hp : p r.key <;> cases hpk : p k <;> simp_all [upsertRows, List.filter_cons]

theorem upsertRows_integer {rs : List HourlyCountRow} (hint : ∀ r ∈ rs, r.delta.isInteger)
    (hfit : (rs.map (·.delta.num.natAbs)).sum + d.natAbs ≤ 9223372036854775807) :
    (∀ r ∈ upsertRows rs k d, r.delta.isInteger) ∧
      ((upsertRows rs k d).map (·.delta.num)).sum = (rs.map (·.delta.num)).sum + d ∧
      ((upsertRows rs k d).map (·.delta.num.natAbs)).sum ≤ (rs.map (·.delta.num.natAbs)).sum + d.natAbs := by
  induction rs with
  | nil => simp [upsertRows, upsertValue, SqlValue.isInteger]
  | cons r rs ih =>
    rw [List.forall_mem_cons] at hint
    rcases r with ⟨k', v | v⟩
    · simp only [List.map_cons, List.sum_cons, SqlValue.num_integer] at hfit ⊢
      by_cases hk : k' = k
      · rw [upsertRows, if_pos hk, upsertValue, sqlAdd_of_fits (by simp only [fitsInt64, decide_eq_true_eq]; omega)]
        simp only [List.map_cons, List.sum_cons, integerAffinity_integer, SqlValue.num_integer]
        exact ⟨List.forall_mem_cons.2 ⟨rfl, hint.2⟩, by omega, by omega⟩
      · obtain ⟨hi, hs, ha⟩ := ih hint.2 (by omega)
        rw [upsertRows, if_neg hk]
        simp only [List.map_cons, List.sum_cons, SqlValue.num_integer]
        exact ⟨List.forall_mem_cons.2 ⟨rfl, hi⟩, by omega, by omega⟩
    · cases hint.1

theorem upsertRows_exact (p : BucketKey → Bool) (hint : ∀ r ∈ rs, p r.key → r.delta.isInteger)
    (hfit : absSum p rs + (if p k then d.natAbs else 0) ≤ 9223372036854775807) :
    (∀ r ∈ upsertRows rs k d, p r.key → r.delta.isInteger) ∧
      deltaSum p (upsertRows rs k d) = deltaSum p rs + (if p k then d else 0) ∧
      absSum p (upsertRows rs k d) ≤ absSum p rs + (if p k then d.natAbs else 0) := by
  have hint' : ∀ r ∈ rs.filter (p ·.key), r.delta.isInteger := fun r hr =>
    hint r (List.mem_of_mem_filter hr) (by simpa using (List.mem_filter.mp hr).2)
  have hmem : ∀ r ∈ upsertRows rs k d, p r.key → r ∈ (upsertRows rs k d).filter (p ·.key) := fun r hr hp =>
    List.mem_filter.mpr ⟨hr, by simpa using hp⟩
  unfold deltaSum absSum at *
  rw [filter_upsertRows] at hmem ⊢
  cases hpk : p k
  · simp only [hpk, if_false, Bool.false_eq_true] at hmem ⊢
    exact ⟨fun r hr hp => hint' r (hmem r hr hp), by omega, le_refl _⟩
  · simp only [hpk, if_true] at hfit hmem ⊢
    obtain ⟨hi, hs, ha⟩ := upsertRows_integer k d hint' hfit
    exact ⟨fun r hr hp => hi r (hmem r hr hp), hs, ha⟩

end Rows

theorem find_key_eq_some {rs : List HourlyCountRow} (hn : (rs.map (·.key)).Nodup) {k : BucketKey} {v : SqlValue} :
    (rs.find? (·.key = k)).map (·.delta) = some v ↔ ⟨k, v⟩ ∈ rs := by
  induction rs with
  | nil => simp
  | cons r rs ih =>
    rw [List.map_cons, List.nodup_cons] at hn
    obtain ⟨rk, rd⟩ := r
    by_cases hk : rk = k
    · subst hk
      have hv : ∀ v, (⟨rk, v⟩ : HourlyCountRow) ∉ rs := fun v h => hn.1 (List.mem_map.mpr ⟨_, h, rfl⟩)
      simp [hv, eq_comm]
    · simp [hk, Ne.symm hk, ih hn.2]

theorem getD_find_key {rs : List HourlyCountRow} (hn : (rs.map (·.key)).Nodup) (k : BucketKey) :
    ((rs.find? (·.key = k)).map (·.delta.num)).getD 0 = deltaSum (· = k) rs := by
  induction rs with
  | nil => rfl
  | cons r rs ih =>
    rw [List.map_cons, List.nodup_cons] at hn
    by_cases hk : r.key = k
    · subst hk
      have hnil : rs.filter (fun x => x.key = r.key) = [] :=
        List.filter_eq_nil_iff.mpr fun x hx hxk => hn.1 (List.mem_map.mpr ⟨x, hx, of_decide_eq_true hxk⟩)
      simp [deltaSum, List.filter_cons, hnil]
    · simp [deltaSum, List.filter_cons, hk, ih hn.2]

/-! ## The table -/

/-- The `hourly_counts` table: its rows, with distinct keys. -/
structure HourlyCountsTable where
  rows : List HourlyCountRow
  keys_nodup : (rows.map (·.key)).Nodup

namespace HourlyCountsTable

/-- The table with no rows. -/
def empty : HourlyCountsTable := ⟨[], List.nodup_nil⟩

/-- The rows' deltas by key: the bucket model's view of the table. -/
def counts (t : HourlyCountsTable) : HourlyCounts := fun k => (t.rows.find? (·.key = k)).map (·.delta)

/-- `UpsertHourlyCount` on the table; `execErr` is the error `db.Exec` returns, if any, and a
    failed statement writes no row. -/
def upsertHourlyCount (execErr : Option String) (t : HourlyCountsTable) (lineID jobStyleID : Int64)
    (countDate : String) (hour : Nat) (delta : Int64) : Except String HourlyCountsTable :=
  match execErr with
  | some err => .error err
  | none =>
    .ok ⟨upsertRows t.rows ⟨lineID, jobStyleID, countDate, hour⟩ delta.val,
      nodup_upsertRows t.keys_nodup _ _⟩

theorem counts_eq_some (t : HourlyCountsTable) {k : BucketKey} {v : SqlValue} :
    t.counts k = some v ↔ ⟨k, v⟩ ∈ t.rows :=
  find_key_eq_some t.keys_nodup

theorem getD_counts (t : HourlyCountsTable) (k : BucketKey) :
    ((t.counts k).map SqlValue.num).getD 0 = deltaSum (· = k) t.rows := by
  rw [counts, Option.map_map]
  exact getD_find_key t.keys_nodup k

end HourlyCountsTable

/-! ## The queries -/

/-- `store.HourlyCount` as `ListHourlyCounts` scans it: the key columns and `Delta`. -/
structure HourlyCount where
  key : BucketKey
  delta : Int
  deriving DecidableEq

/-- The loop of `ListHourlyCounts`: each row scanned into a `HourlyCount`, the first `Scan`
    error returned instead. -/
def scanCounts (formatFloat : Int → String) : List HourlyCountRow → Except String (List HourlyCount)
  | [] => .ok []
  | r :: rs =>
    match scanInt64 formatFloat r.delta with
    | .error err => .error ("sql: Scan error on column index 5, name \"delta\": " ++ err)
    | .ok delta =>
      match scanCounts formatFloat rs with
      | .error err => .error err
      | .ok counts => .ok (⟨r.key, delta⟩ :: counts)

/-- The loop of `HourlyCountTotals` over the result rows, from the map filled so far: a
    `Scan` error returns a nil map (`none`); an error of `sum()` ends the rows, and
    `rows.Err()` returns it beside the totals read before it. -/
def scanTotals (formatFloat : Int → String) (totals : Nat → Option Int) :
    List (Nat × Except String SqlValue) → Option (Nat → Option Int) × Option String
  | [] => (some totals, none)
  | (_, .error err) :: _ => (some totals, some err)
  | (hour, .ok sum) :: rest =>
    match scanInt64 formatFloat sum with
    | .error err => (none, some ("sql: Scan error on column index 1, name \"SUM(delta)\": " ++ err))
    | .ok v => scanTotals formatFloat (Function.update totals hour (some v)) rest

namespace HourlyCountsTable

variable (drv : SqlDriver) (queryErr : Option String) (t : HourlyCountsTable)

/-- The result rows of `ListHourlyCounts`' query, `SELECT … WHERE line_id = ? AND
    job_style_id = ? AND count_date = ? ORDER BY hour`. -/
def listQuery (lineID jobStyleID : Int64) (countDate : String) : List HourlyCountRow :=
  (t.rows.filter fun r => r.key.lineID = lineID ∧ r.key.jobStyleID = jobStyleID ∧
    r.key.countDate = countDate).insertionSort fun a b => a.key.hour ≤ b.key.hour

/-- `ListHourlyCounts(lineID, jobStyleID, countDate)`; `queryErr` is the error `db.Query`
    returns, if any. -/
def listHourlyCounts (lineID jobStyleID : Int64) (countDate : String) : Except String (List HourlyCount) :=
  match queryErr with
  | some err => .error err
  | none => scanCounts drv.formatFloat (t.listQuery lineID jobStyleID countDate)

/-- The result rows of `HourlyCountTotals`' query, `SELECT hour, SUM(delta) … WHERE line_id = ?
    AND count_date = ? GROUP BY hour ORDER BY hour`: each hour of the line's rows of the day
    once, in order, with `sum()` of their deltas. -/
def totalsQuery (lineID : Int64) (countDate : String) : List (Nat × Except String SqlValue) :=
  let rs := t.rows.filter fun r => r.key.lineID = lineID ∧ r.key.countDate = countDate
  ((rs.map (·.key.hour)).dedup.insertionSort (· ≤ ·)).map fun hour =>
    (hour, sqlSum drv ((rs.filter (·.key.hour = hour)).map (·.delta)))

/-- `HourlyCountTotals(lineID, countDate)`: the totals map, `none` for a nil one, and the
    error. -/
def hourlyCountTotals (lineID : Int64) (countDate : String) : Option (Nat → Option Int) × Option String :=
  match queryErr with
  | some err => (none, some err)
  | none => scanTotals drv.formatFloat (fun _ => none) (t.totalsQuery drv lineID countDate)

/-- The map `handleProduction` builds from `ListHourlyCounts` for a single style,
    `hourlyCounts[c.Hour] = c.Delta`; on an error, which the handler drops, it stays empty. -/
def styleCounts (lineID jobStyleID : Int64) (countDate : String) : Nat → Option Int :=
  match t.listHourlyCounts drv queryErr lineID jobStyleID countDate with
  | .ok counts => goMap (counts.map fun c => (c.key.hour, c.delta))
  | .error _ => fun _ => none

end HourlyCountsTable

/-- The keys of line `lineID`'s buckets of day `countDate` and hour `hour`, of any style. -/
def atHour (lineID : Int64) (countDate : String) (hour : Nat) (k : BucketKey) : Bool :=
  k.lineID = lineID ∧ k.countDate = countDate ∧ k.hour = hour

/-- No `sum()` over the rows of line `lineID` on day `countDate` can overflow, whatever order
    the plan visits them in: they hold INTEGERs, and at each hour their magnitudes add up to
    at most `MaxInt64`. -/
def HourlyCountsTable.SumsFit (t : HourlyCountsTable) (lineID : Int64) (countDate : String) : Prop :=
  ∀ r ∈ t.rows, r.key.lineID = lineID → r.key.countDate = countDate →
    r.delta.isInteger ∧ absSum (atHour lineID countDate r.key.hour) t.rows ≤ 9223372036854775807

instance (t : HourlyCountsTable) (lineID : Int64) (countDate : String) : Decidable (t.SumsFit lineID countDate) :=
  inferInstanceAs (Decidable (∀ r ∈ t.rows, r.key.lineID = lineID → r.key.countDate = countDate →
    r.delta.isInteger ∧ absSum (atHour lineID countDate r.key.hour) t.rows ≤ 9223372036854775807))

/-! ## The tracker on the table -/

namespace HourlyTracker

variable (ht : HourlyTracker)

/-- `HandleDelta(delta)` on the table, called at instant `now`. -/
def handleDeltaRows (t : HourlyCountsTable) (delta : CounterDeltaEvent) (now : Int)
    (execErr : Option String) : HourlyCountsTable :=
  if delta.lineID = 0 ∨ delta.jobStyleID = 0 then t
  else if delta.anomaly = "reset" then t
  else
    let countDate := ht.loc.date now
    let hour := ht.loc.hour now
    match t.upsertHourlyCount execErr delta.lineID delta.jobStyleID countDate hour delta.delta with
    | .error _ => t
    | .ok t' => t'

/-- A sequence of `HandleDelta` calls on the table, in the order they run. -/
def handleDeltasRows (t : HourlyCountsTable) (hs : List Handled) : HourlyCountsTable :=
  hs.foldl (fun t h => ht.handleDeltaRows t h.event h.now h.execErr) t

@[simp] theorem handleDeltasRows_cons (t : HourlyCountsTable) (h : Handled) (hs : List Handled) :
    ht.handleDeltasRows t (h :: hs) = ht.handleDeltasRows (ht.handleDeltaRows t h.event h.now h.execErr) hs := rfl

end HourlyTracker

/-- The bucket a call upserts its delta into, unless its event is dropped: its line and
    style, and the date and hour of its instant in `loc`. -/
def Handled.bucket (loc : Location) (h : Handled) : Option BucketKey :=
  if h.event.lineID = 0 ∨ h.event.jobStyleID = 0 ∨ h.event.anomaly = "reset" then none
  else some ⟨h.event.lineID, h.event.jobStyleID, loc.date h.now, loc.hour h.now⟩

/-- A call's upsert succeeds, into a bucket whose key satisfies `p`. -/
def Handled.upsertsInto (loc : Location) (p : BucketKey → Bool) (h : Handled) : Bool :=
  h.execErr.isNone && (h.bucket loc).any p

/-- The deltas of the calls of `hs` that upsert into a key satisfying `p`, in order. -/
def upsertedDeltas (loc : Location) (p : BucketKey → Bool) (hs : List Handled) : List Int :=
  (hs.filter (·.upsertsInto loc p)).map (·.event.delta.val)

section
variable (ht : HourlyTracker)

theorem rows_handleDeltaRows (t : HourlyCountsTable) (h : Handled) :
    (ht.handleDeltaRows t h.event h.now h.execErr).rows =
      match h.bucket ht.loc, h.execErr with
      | some k, none => upsertRows t.rows k h.event.delta.val
      | _, _ => t.rows := by
  unfold HourlyTracker.handleDeltaRows Handled.bucket
  by_cases h0 : h.event.lineID = 0 ∨ h.event.jobStyleID = 0
  · rw [if_pos h0, if_pos (h0.elim Or.inl fun e => Or.inr (Or.inl e))]
  by_cases hr : h.event.anomaly = "reset"
  · rw [if_neg h0, if_pos hr, if_pos (Or.inr (Or.inr hr))]
  rw [if_neg h0, if_neg hr, if_neg (by tauto)]
  cases h.execErr <;> rfl

theorem counts_handleDeltaRows (t : HourlyCountsTable) (delta : CounterDeltaEvent) (now : Int)
    (execErr : Option String) :
    (ht.handleDeltaRows t delta now execErr).counts = ht.handleDelta t.counts delta now execErr := by
  unfold HourlyTracker.handleDeltaRows HourlyTracker.handleDelta
  split_ifs
  · rfl
  · rfl
  · cases execErr with
    | some _ => rfl
    | none =>
      funext k
      simp only [HourlyCountsTable.upsertHourlyCount, upsertHourlyCount, HourlyCountsTable.counts,
        find_upsertRows]
      split
      · next hk => rw [hk]
      · rfl

/-- The table refines the bucket model along any sequence of calls: each key's row holds
    the value the bucket model gives it, SQLite's arithmetic included. -/
theorem counts_handleDeltasRows (t : HourlyCountsTable) (hs : List Handled) :
    (ht.handleDeltasRows t hs).counts = ht.handleDeltas t.counts hs := by
  induction hs generalizing t with
  | nil => rfl
  | cons h hs ih => rw [HourlyTracker.handleDeltasRows_cons, ih, counts_handleDeltaRows]; rfl

theorem any_handleDeltaRows (p : BucketKey → Bool) (t : HourlyCountsTable) (h : Handled) :
    (ht.handleDeltaRows t h.event h.now h.execErr).rows.any (p ·.key) =
      (t.rows.any (p ·.key) || h.upsertsInto ht.loc p) := by
  rw [rows_handleDeltaRows, Handled.upsertsInto]
  cases h.bucket ht.loc <;> cases h.execErr <;> simp [any_upsertRows]

theorem any_handleDeltasRows (p : BucketKey → Bool) (t : HourlyCountsTable) (hs : List Handled) :
    (ht.handleDeltasRows t hs).rows.any (p ·.key) = (t.rows.any (p ·.key) || hs.any (·.upsertsInto ht.loc p)) := by
  induction hs generalizing t with
  | nil => simp [HourlyTracker.handleDeltasRows]
  | cons h hs ih =>
    rw [HourlyTracker.handleDeltasRows_cons, ih, any_handleDeltaRows, List.any_cons, Bool.or_assoc]

theorem upsertedDeltas_cons (loc : Location) (p : BucketKey → Bool) (h : Handled) (hs : List Handled) :
    upsertedDeltas loc p (h :: hs) = upsertedDeltas loc p [h] ++ upsertedDeltas loc p hs := by
  simp only [upsertedDeltas, ← List.map_append, ← List.filter_append, List.singleton_append]

theorem handleDeltaRows_exact (p : BucketKey → Bool) (t : HourlyCountsTable) (h : Handled)
    (hint : ∀ r ∈ t.rows, p r.key → r.delta.isInteger)
    (hfit : absSum p t.rows + ((upsertedDeltas ht.loc p [h]).map Int.natAbs).sum ≤ 9223372036854775807) :
    (∀ r ∈ (ht.handleDeltaRows t h.event h.now h.execErr).rows, p r.key → r.delta.isInteger) ∧
      deltaSum p (ht.handleDeltaRows t h.event h.now h.execErr).rows =
        deltaSum p t.rows + (upsertedDeltas ht.loc p [h]).sum ∧
      absSum p (ht.handleDeltaRows t h.event h.now h.execErr).rows ≤
        absSum p t.rows + ((upsertedDeltas ht.loc p [h]).map Int.natAbs).sum := by
  rw [rows_handleDeltaRows]
  unfold upsertedDeltas Handled.upsertsInto at hfit ⊢
  cases hb : h.bucket ht.loc with
  | none => simpa [hb] using hint
  | some k =>
    cases he : h.execErr with
    | some err => simpa [hb, he] using hint
    | none =>
      cases hp : p k <;> simpa [hb, he, hp] using
        upsertRows_exact t.rows k h.event.delta.val p hint (by simpa [hb, he, hp] using hfit)

/-- Along a run whose deltas into a set of keys keep its rows within `MaxInt64` in
    magnitude, those rows stay INTEGERs, their sum grows by exactly the deltas upserted into
    the set, and their magnitudes by at most those deltas' magnitudes. -/
theorem handleDeltasRows_exact (p : BucketKey → Bool) (t : HourlyCountsTable) (hs : List Handled)
    (hint : ∀ r ∈ t.rows, p r.key → r.delta.isInteger)
    (hfit : absSum p t.rows + ((upsertedDeltas ht.loc p hs).map Int.natAbs).sum ≤ 9223372036854775807) :
    (∀ r ∈ (ht.handleDeltasRows t hs).rows, p r.key → r.delta.isInteger) ∧
      deltaSum p (ht.handleDeltasRows t hs).rows = deltaSum p t.rows + (upsertedDeltas ht.loc p hs).sum ∧
      absSum p (ht.handleDeltasRows t hs).rows ≤ absSum p t.rows + ((upsertedDeltas ht.loc p hs).map Int.natAbs).sum := by
  induction hs generalizing t with
  | nil => simpa [HourlyTracker.handleDeltasRows, upsertedDeltas] using hint
  | cons h hs ih =>
    rw [upsertedDeltas_cons, List.map_append, List.sum_append] at hfit ⊢
    rw [HourlyTracker.handleDeltasRows_cons, List.sum_append]
    obtain ⟨hi₁, hs₁, ha₁⟩ := handleDeltaRows_exact ht p t h hint (by omega)
    obtain ⟨hi, hs', ha⟩ := ih _ hi₁ (by omega)
    exact ⟨hi, by omega, by omega⟩

end

/-! ## What the queries return -/

theorem deltaSum_filter (p q : BucketKey → Bool) (rs : List HourlyCountRow) :
    deltaSum p (rs.filter (q ·.key)) = deltaSum (fun k => p k && q k) rs := by
  simp only [deltaSum, List.filter_filter]

theorem mem_insertionSort_le {l : List Nat} {a : Nat} : a ∈ l.insertionSort (· ≤ ·) ↔ a ∈ l :=
  (List.perm_insertionSort _ l).mem_iff

theorem goMap_groupBy (rs : List HourlyCountRow) (hour : Nat) :
    goMap (((rs.map (·.key.hour)).dedup.insertionSort (· ≤ ·)).map fun h => (h, deltaSum (·.hour = h) rs)) hour =
      if rs.any (·.key.hour = hour) then some (deltaSum (·.hour = hour) rs) else none := by
  have hn : ((((rs.map (·.key.hour)).dedup.insertionSort (· ≤ ·)).map
      fun h => (h, deltaSum (·.hour = h) rs)).map Prod.fst).Nodup := by
    simp only [List.map_map, Function.comp_def, List.map_id']
    exact (List.perm_insertionSort _ _).nodup_iff.mpr (List.nodup_dedup _)
  apply Option.ext
  intro v
  rw [Option.mem_def, Option.mem_def, goMap_eq_some hn]
  simp only [List.mem_map, mem_insertionSort_le, Prod.mk.injEq]
  constructor
  · rintro ⟨_, hh, rfl, rfl⟩
    rw [if_pos (by simpa [List.any_eq_true] using hh)]
  · intro h
    split at h
    · next hany => exact ⟨hour, by simpa [List.any_eq_true] using hany, rfl, Option.some.inj h⟩
    · cases h

theorem sum_fiberwise {ι κ : Type} [DecidableEq κ] (f : ι → Int) (g : ι → κ) {S : List κ} (hS : S.Nodup) :
    ∀ {L : List ι}, (∀ i ∈ L, g i ∈ S) →
      (S.map fun s => ((L.filter (g · = s)).map f).sum).sum = (L.map f).sum
  | [], _ => by simp [nsmul_zero]
  | i :: L, hL => by
    have hi := hL i (List.mem_cons_self _ _)
    have h1 : ∀ s, (((i :: L).filter (g · = s)).map f).sum =
        (if g i = s then f i else 0) + ((L.filter (g · = s)).map f).sum := by
      intro s; by_cases h : g i = s <;> simp [List.filter_cons, h]
    rw [List.map_cons, List.sum_cons, ← sum_fiberwise f g hS fun j hj => hL j (List.mem_cons_of_mem _ hj)]
    simp only [h1, List.sum_map_add]
    congr 1
    rw [List.sum_map_eq_nsmul_single (g i) _ fun s hs _ => if_neg (Ne.symm hs), List.count_eq_one_of_mem hS hi]
    simp

theorem scanCounts_eq_ok (formatFloat : Int → String) (rs : List HourlyCountRow) (counts : List HourlyCount) :
    scanCounts formatFloat rs = .ok counts ↔
      rs.all (·.delta.scans) ∧ counts = rs.map fun r => ⟨r.key, r.delta.num⟩ := by
  induction rs generalizing counts with
  | nil => simp [scanCounts, eq_comm]
  | cons r rs ih =>
    rw [scanCounts]
    cases hr : scanInt64 formatFloat r.delta with
    | error err =>
      have hs : r.delta.scans = false := by
        cases h : r.delta.scans
        · rfl
        · cases hr.symm.trans (scanInt64_eq_ok.2 ⟨h, rfl⟩)
      simp [hs]
    | ok v =>
      obtain ⟨hs, rfl⟩ := scanInt64_eq_ok.1 hr
      cases hrs : scanCounts formatFloat rs with
      | error err =>
        have hall : rs.all (·.delta.scans) = false := by
          cases h : rs.all (·.delta.scans)
          · rfl
          · cases hrs.symm.trans ((ih _).2 ⟨h, rfl⟩)
        simp [hall]
      | ok cs =>
        obtain ⟨hall, rfl⟩ := (ih cs).1 hrs
        simp [hs, hall, eq_comm]

theorem scanTotals_integer (formatFloat : Int → String) (m : Nat → Option Int) (kvs : List (Nat × Int)) :
    scanTotals formatFloat m (kvs.map fun kv => (kv.1, .ok (.integer kv.2))) =
      (some (kvs.foldl (fun (m : Nat → Option Int) kv => Function.update m kv.1 (some kv.2)) m), none) := by
  induction kvs generalizing m with
  | nil => rfl
  | cons kv kvs ih => exact ih _

theorem filter_atHour (rs : List HourlyCountRow) (lineID : Int64) (countDate : String) (hour : Nat) :
    (rs.filter fun r => r.key.lineID = lineID ∧ r.key.countDate = countDate).filter (·.key.hour = hour) =
      rs.filter (atHour lineID countDate hour ·.key) := by
  rw [List.filter_filter]
  exact List.filter_congr fun r _ => by simp [atHour, and_comm, and_left_comm, Bool.and_assoc]

namespace HourlyCountsTable

variable (drv : SqlDriver) (t : HourlyCountsTable)

theorem totalsQuery_of_sumsFit {lineID : Int64} {countDate : String} (hfit : t.SumsFit lineID countDate) :
    t.totalsQuery drv lineID countDate =
      ((((t.rows.filter fun r => r.key.lineID = lineID ∧ r.key.countDate = countDate).map
        (·.key.hour)).dedup.insertionSort (· ≤ ·)).map fun hour =>
          (hour, deltaSum (·.hour = hour) (t.rows.filter fun r => r.key.lineID = lineID ∧ r.key.countDate = countDate))).map
        fun kv => (kv.1, .ok (.integer kv.2)) := by
  rw [totalsQuery, List.map_map]
  refine List.map_congr_left fun hour hh => ?_
  obtain ⟨r, hr, rfl⟩ := List.mem_map.1 (List.mem_dedup.1 (mem_insertionSort_le.1 hh))
  obtain ⟨hrt, hrk⟩ := List.mem_filter.1 hr
  simp only [decide_eq_true_eq] at hrk
  have hgroup := filter_atHour t.rows lineID countDate r.key.hour
  have hint : ∀ v ∈ ((t.rows.filter fun r => r.key.lineID = lineID ∧ r.key.countDate = countDate).filter
      (·.key.hour = r.key.hour)).map (·.delta), v.isInteger := by
    rw [hgroup]
    simp only [List.mem_map, List.mem_filter, atHour, decide_eq_true_eq]
    rintro _ ⟨r', ⟨hr', hl, hd, -⟩, rfl⟩
    exact (hfit r' hr' hl hd).1
  rw [Function.comp_apply, sqlSum_of_natAbs_le drv _ hint
    (by rw [hgroup, List.map_map]; exact (hfit r hrt hrk.1 hrk.2).2)]
  simp only [List.map_map]
  rfl

theorem hourlyCountTotals_of_sumsFit {lineID : Int64} {countDate : String} (hfit : t.SumsFit lineID countDate) :
    t.hourlyCountTotals drv none lineID countDate =
      (some fun hour => if t.rows.any (atHour lineID countDate hour ·.key) then
        some (deltaSum (atHour lineID countDate hour) t.rows) else none, none) := by
  rw [hourlyCountTotals, totalsQuery_of_sumsFit drv t hfit, scanTotals_integer]
  congr 2
  funext hour
  have hp : (fun k => decide (k.hour = hour) && decide (k.lineID = lineID ∧ k.countDate = countDate)) =
      atHour lineID countDate hour := by
    funext k; simp [atHour, and_comm, and_left_comm, Bool.and_assoc]
  refine (goMap_groupBy _ hour).trans ?_
  rw [deltaSum_filter _ (fun k => decide (k.lineID = lineID ∧ k.countDate = countDate)), hp]
  congr 1
  simp [List.any_filter, atHour, and_comm, and_left_comm, and_assoc]

theorem mem_listQuery {lineID jobStyleID : Int64} {countDate : String} {r : HourlyCountRow} :
    r ∈ t.listQuery lineID jobStyleID countDate ↔
      r ∈ t.rows ∧ r.key = ⟨lineID, jobStyleID, countDate, r.key.hour⟩ := by
  obtain ⟨⟨l, s, d, h⟩, v⟩ := r
  rw [listQuery, (List.perm_insertionSort _ _).mem_iff]
  simp only [List.mem_filter, decide_eq_true_eq, BucketKey.mk.injEq, and_true]

theorem nodup_hours_listQuery (lineID jobStyleID : Int64) (countDate : String) :
    ((t.listQuery lineID jobStyleID countDate).map (·.key.hour)).Nodup := by
  have hk : ((t.listQuery lineID jobStyleID countDate).map (·.key)).Nodup :=
    ((List.perm_insertionSort _ _).map _).nodup_iff.mpr
      (t.keys_nodup.sublist ((List.filter_sublist _).map _))
  have := hk.map_on (f := BucketKey.hour) ?_
  · simpa [List.map_map] using this
  · simp only [List.mem_map]
    rintro _ ⟨x, hx, rfl⟩ _ ⟨y, hy, rfl⟩ hxy
    rw [(mem_listQuery t).mp hx |>.2, (mem_listQuery t).mp hy |>.2, hxy]

theorem sorted_listQuery (lineID jobStyleID : Int64) (countDate : String) :
    (t.listQuery lineID jobStyleID countDate).Pairwise fun a b => a.key.hour < b.key.hour := by
  haveI : IsTotal HourlyCountRow (fun a b => a.key.hour ≤ b.key.hour) := ⟨fun a b => le_total _ _⟩
  haveI : IsTrans HourlyCountRow (fun a b => a.key.hour ≤ b.key.hour) := ⟨fun _ _ _ => le_trans⟩
  exact ((List.sorted_insertionSort _ _).and
      (List.pairwise_map.mp (t.nodup_hours_listQuery lineID jobStyleID countDate))).imp
    fun h => lt_of_le_of_ne h.1 h.2

theorem styleCounts_apply (lineID jobStyleID : Int64) (countDate : String) (hour : Nat) :
    t.styleCounts drv none lineID jobStyleID countDate hour =
      if (t.listQuery lineID jobStyleID countDate).all (·.delta.scans) then
        (t.counts ⟨lineID, jobStyleID, countDate, hour⟩).map SqlValue.num
      else none := by
  have hl : t.listHourlyCounts drv none lineID jobStyleID countDate =
      scanCounts drv.formatFloat (t.listQuery lineID jobStyleID countDate) := rfl
  rw [styleCounts, hl]
  by_cases hall : (t.listQuery lineID jobStyleID countDate).all (·.delta.scans)
  · rw [(scanCounts_eq_ok _ _ _).2 ⟨hall, rfl⟩, if_pos hall]
    dsimp only
    apply Option.ext
    intro v
    rw [Option.mem_def, Option.mem_def, List.map_map,
      goMap_eq_some (by simpa [List.map_map] using t.nodup_hours_listQuery lineID jobStyleID countDate),
      Option.map_eq_some']
    simp only [List.mem_map, Function.comp_apply, Prod.mk.injEq, counts_eq_some, mem_listQuery]
    constructor
    · rintro ⟨⟨k, w⟩, ⟨hr, hk⟩, rfl, rfl⟩
      exact ⟨w, by rwa [← hk], rfl⟩
    · rintro ⟨w, hw, rfl⟩
      exact ⟨_, ⟨hw, rfl⟩, rfl, rfl⟩
  · rw [if_neg hall]
    cases h : scanCounts drv.formatFloat (t.listQuery lineID jobStyleID countDate) with
    | error => rfl
    | ok cs => exact absurd ((scanCounts_eq_ok _ _ _).1 h).1 hall

/-- A row left holding the REAL 2^64 by an overflow fails the `Scan`: the page's map for that
    style and day is empty. -/
example : (⟨[⟨⟨1, 2, "2024-06-01", 14⟩, .real 18446744073709551616⟩], by decide⟩ : HourlyCountsTable).styleCounts
    ⟨id, List.Perm.refl, fun _ => 0, false, fun _ => "1.8446744073709552e+19"⟩ none 1 2 "2024-06-01" 14 = none := by
  decide

end HourlyCountsTable

/-- Two rows of `MaxInt64` at one hour: `sum()` overflows, and `HourlyCountTotals` returns its
    error. -/
example : ((⟨[⟨⟨1, 2, "2024-06-01", 14⟩, .integer 9223372036854775807⟩,
      ⟨⟨1, 3, "2024-06-01", 14⟩, .integer 9223372036854775807⟩], by decide⟩ : HourlyCountsTable).hourlyCountTotals
    ⟨id, List.Perm.refl, fun _ => 0, false, fun _ => ""⟩ none 1 "2024-06-01").2 = some "integer overflow" := by
  decide

/-! ## What `handleProduction` and `apiGetHourlyCounts` show -/

/-- A job style of a line as `handleProduction` reads it (`store.JobStyle`, not in the
    source). -/
structure JobStyle where
  id : Int64
  name : String
  deriving DecidableEq

/-- `handleProduction`'s active line: the `line` query parameter when it is not empty and
    parses (`strconv.ParseInt(lineParam, 10, 64)`, the library's, is `parse`), else 0; and the
    first production line's id when that is 0 and there is one. -/
def activeLineID (parse : String → Option Int64) (lineParam : String) (lines : List Int64) : Int64 :=
  let id := if lineParam ≠ "" then (parse lineParam).getD 0 else 0
  match lines with
  | l :: _ => if id = 0 then l else id
  | [] => id

/-- `handleProduction`'s style filter, `(filterStyleID, filterStyleName)`: the first job
    style of the active line whose id the `style` parameter parses to; `(0, "")` for an empty
    or `all` parameter, one that does not parse, or an id of no job style of the line. -/
def styleFilter (parse : String → Option Int64) (styleParam : String) (jobStyles : List JobStyle) :
    Int64 × String :=
  if styleParam ≠ "" ∧ styleParam ≠ "all" then
    match parse styleParam with
    | none => (0, "")
    | some id =>
      match jobStyles.find? (·.id = id) with
      | some js => (id, js.name)
      | none => (0, "")
  else (0, "")

namespace HourlyCountsTable

variable (drv : SqlDriver) (queryErr : Option String) (t : HourlyCountsTable)

/-- The hourly counts `handleProduction` loads for the active line, the style filter and the
    day; the handler drops the query's error, and a nil map becomes an empty one. -/
def productionCounts (activeLineID filterStyleID : Int64) (dateStr : String) : Nat → Option Int :=
  if 0 < activeLineID then
    if 0 < filterStyleID then t.styleCounts drv queryErr activeLineID filterStyleID dateStr
    else (t.hourlyCountTotals drv queryErr activeLineID dateStr).1.getD fun _ => none
  else fun _ => none

/-- `apiGetHourlyCounts` for the parsed `line_id` and the day: `{}` for line 0, the line's
    totals, or the error `HourlyCountTotals` returns (a 500). -/
def apiGetHourlyCounts (lineID : Int64) (dateStr : String) : Except String (Nat → Option Int) :=
  if lineID = 0 then .ok fun _ => none
  else
    match t.hourlyCountTotals drv queryErr lineID dateStr with
    | (_, some err) => .error err
    | (counts, none) => .ok (counts.getD fun _ => none)

end HourlyCountsTable

/-! ## A line's totals after a run of the tracker -/

/-- The deltas of the calls of `hs` counted in one of line `lineID`'s buckets of day
    `countDate` and hour `hour`, whatever their style, in order. -/
def hourDeltas (loc : Location) (lineID : Int64) (countDate : String) (hour : Nat) (hs : List Handled) :
    List Int :=
  (hs.filter fun h => h.countsIn loc ⟨lineID, h.event.jobStyleID, countDate, hour⟩).map (·.event.delta.val)

theorem upsertsInto_atHour (loc : Location) (lineID : Int64) (countDate : String) (hour : Nat)
    {h : Handled} (hok : h.execErr = none) :
    h.upsertsInto loc (atHour lineID countDate hour) =
      h.countsIn loc ⟨lineID, h.event.jobStyleID, countDate, hour⟩ := by
  rw [Bool.eq_iff_iff]
  simp only [Handled.upsertsInto, Handled.bucket, Handled.countsIn, atHour, hok, Option.isNone_none,
    Bool.true_and, decide_eq_true_eq]
  split_ifs with hd
  · simp only [Option.any_none, Bool.false_eq_true, false_iff, not_and]
    rintro rfl h0 - hs0 hr
    rcases hd with hd | hd | hd <;> contradiction
  · simp only [not_or] at hd
    simp only [Option.any_some, atHour, decide_eq_true_eq]
    constructor
    · rintro ⟨rfl, rfl, rfl⟩
      exact ⟨rfl, hd.1, trivial, hd.2.1, hd.2.2, rfl, rfl⟩
    · rintro ⟨h1, -, -, -, -, h2, h3⟩
      exact ⟨h1, h2, h3⟩

/-- The line's total at 14:00 is 14, summed across both styles. -/
example : (((⟨⟨fun _ => "2024-06-01", fun _ => 14⟩⟩ : HourlyTracker).handleDeltasRows .empty
    [⟨⟨1, 1, 2, 10, 110, ""⟩, 0, none⟩, ⟨⟨2, 1, 3, 4, 4, ""⟩, 1, none⟩,
      ⟨⟨1, 1, 2, 3, 3, "reset"⟩, 2, none⟩]).hourlyCountTotals ⟨id, List.Perm.refl, fun _ => 0, false, fun _ => ""⟩
      none 1 "2024-06-01").1.map (· 14) = some (some 14) := by
  decide

end Shingo.Plc
