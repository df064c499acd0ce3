import Mathlib.Algebra.BigOperators.Group.List
import Mathlib.Algebra.Ring.Int.Defs
import Shingo.Go.Int64
import Shingo.Go.Sql
/-
  Shingo.Plc.Hourly — `HourlyTracker.HandleDelta` (package `engine`,
  `shingo-edge/engine/hourly_tracker.go`) and the `hourly_counts` upsert it runs
  (`UpsertHourlyCount`, package `store`).

  `HandleDelta` drops an event of line 0 or style 0, and a reset-derived one; any other
  event's delta is added to the row of its line, style, and the date and hour of
  `time.Now()` in the tracker's location, by `INSERT … ON CONFLICT … DO UPDATE SET delta =
  delta + excluded.delta`. The clock and the calendar are the library's: a call's instant
  and the location's two readings of it are inputs. The statement can fail; a failed
  statement writes nothing, and `HandleDelta` only logs it. The `+` is SQLite's
  (`Shingo.Go.Sql`): exact while the sum fits in `int64`, a REAL once it does not, and the
  statement succeeds either way. `Unnamed.handleDelta` is the variant of
  `src/unnamed/part_001`, with no reset check and the bucket in the server's local time.

  Proved:
  - `handleDelta_apply`: one call upserts its delta into exactly one bucket, or changes
    nothing.
  - `handleDeltas_apply`: after any sequence of calls, each bucket is its first value with
    the deltas of the calls counted in it upserted in the order they were handled.
  - `hourly_bucket_sums`: from an empty table, with every upsert succeeding, a bucket whose
    running sum never leaves `int64` has a row exactly when some handled event counts in it,
    holding the INTEGER sum of their deltas; dropped events change no bucket; and when each
    bucket's deltas have magnitudes adding up to at most `MaxInt64`, the table does not
    depend on the order of the calls.
  - `hourly_bucket_overflow`: without that bound the stored value is a rounded REAL, not the
    sum, and it depends on the order of the calls.
-/

namespace Shingo.Plc

open Shingo.Go

/-- `CounterDeltaEvent` (`shingo-edge/engine/events.go`). -/
structure CounterDeltaEvent where
  reportingPointID : Int64
  lineID : Int64
  jobStyleID : Int64
  delta : Int64
  newCount : Int64
  /-- `"reset"` if from a PLC counter reset, `""` for normal. -/
  anomaly : String
  deriving DecidableEq

/-- `*time.Location`, as the two readings `HandleDelta` takes of an instant (Unix
    nanoseconds) in it: `Format("2006-01-02")` and `Hour()`. -/
structure Location where
  date : Int → String
  hour : Int → Nat

/-- The field of `HourlyTracker` `HandleDelta` reads besides the store. -/
structure HourlyTracker where
  loc : Location

/-- `NewHourlyTracker(db, timezone)`: the location `time.LoadLocation(timezone)` loads, or
    `time.Local` when the name is empty or does not load. -/
def newHourlyTracker (localLoc : Location) (loadLocation : String → Except String Location)
    (timezone : String) : HourlyTracker :=
  if timezone ≠ "" then
    match loadLocation timezone with
    | .error _ => ⟨localLoc⟩
    | .ok parsed => ⟨parsed⟩
  else ⟨localLoc⟩

/-- The unique key of `hourly_counts`: `(line_id, job_style_id, count_date, hour)`. -/
structure BucketKey where
  lineID : Int64
  jobStyleID : Int64
  countDate : String
  hour : Nat
  deriving DecidableEq

/-- The `delta` column of `hourly_counts`, by key; `none` where there is no row. -/
abbrev HourlyCounts := BucketKey → Option SqlValue

/-- The `delta` an upsert of `d` leaves in a row: `d` inserted, or the stored value plus `d`,
    written back under the column's affinity. -/
def upsertValue : Option SqlValue → Int → SqlValue
  | none, d => .integer d
  | some v, d => integerAffinity (sqlAdd v d)

/-- A row after an upsert of `d`. -/
def addRow (row : Option SqlValue) (d : Int) : Option SqlValue := some (upsertValue row d)

/-- `UpsertHourlyCount`; `execErr` is the error `db.Exec` returns, if any, and a failed
    statement writes no row. -/
def upsertHourlyCount (execErr : Option String) (t : HourlyCounts) (lineID jobStyleID : Int64)
    (countDate : String) (hour : Nat) (delta : Int64) : Except String HourlyCounts :=
  match execErr with
  | some err => .error err
  | none => .ok fun k => if k = ⟨lineID, jobStyleID, countDate, hour⟩ then addRow (t k) delta.val else t k

namespace HourlyTracker

variable (ht : HourlyTracker)

/-- `HandleDelta(delta)`, called at instant `now`. -/
def handleDelta (t : HourlyCounts) (delta : CounterDeltaEvent) (now : Int) (execErr : Option String) :
    HourlyCounts :=
  if delta.lineID = 0 ∨ delta.jobStyleID = 0 then t
  else if delta.anomaly = "reset" then t
  else
    let countDate := ht.loc.date now
    let hour := ht.loc.hour now
    match upsertHourlyCount execErr t delta.lineID delta.jobStyleID countDate hour delta.delta with
    | .error _ => t
    | .ok t' => t'

end HourlyTracker

/-- One `HandleDelta` call: its event, the instant `time.Now()` gives it, and the error
    of its statement's `db.Exec`, if it runs one and that fails. -/
structure Handled where
  event : CounterDeltaEvent
  now : Int
  execErr : Option String
  deriving DecidableEq

/-- A sequence of `HandleDelta` calls, in the order they run. -/
def HourlyTracker.handleDeltas (ht : HourlyTracker) (t : HourlyCounts) (hs : List Handled) :
    HourlyCounts :=
  hs.foldl (fun t h => ht.handleDelta t h.event h.now h.execErr) t

/-! ## The calls counted in a bucket -/

/-- `h` counts in bucket `k`: its line is `k`'s and not 0, its style is `k`'s and not 0, it
    is not a reset, and it was handled on `k`'s date and hour in `loc`. -/
def Handled.countsIn (loc : Location) (k : BucketKey) (h : Handled) : Bool :=
  decide (h.event.lineID = k.lineID ∧ k.lineID ≠ 0 ∧ h.event.jobStyleID = k.jobStyleID ∧
    k.jobStyleID ≠ 0 ∧ h.event.anomaly ≠ "reset" ∧ loc.date h.now = k.countDate ∧
    loc.hour h.now = k.hour)

/-- The deltas of the calls of `hs` counted in bucket `k`, in order. -/
def countedDeltas (loc : Location) (k : BucketKey) (hs : List Handled) : List Int :=
  (hs.filter (·.countsIn loc k)).map (·.event.delta.val)

theorem foldl_addRow_of_fits (a : Int) (ds : List Int) (h : addsFit a ds) :
    ds.foldl addRow (some (.integer a)) = some (.integer (a + ds.sum)) := by
  induction ds generalizing a with
  | nil => simp
  | cons d ds ih =>
    simp only [addsFit, Bool.and_eq_true] at h
    rw [List.foldl_cons, addRow, upsertValue, sqlAdd_of_fits h.1, integerAffinity_integer, ih _ h.2,
      List.sum_cons, Int.add_assoc]

theorem foldl_addRow_none (ds : List Int) (h : addsFit 0 ds) :
    ds.foldl addRow none = if ds = [] then none else some (.integer ds.sum) := by
  cases ds with
  | nil => rfl
  | cons d ds =>
    simp only [addsFit, Bool.and_eq_true, zero_add] at h
    rw [List.foldl_cons, addRow, upsertValue, foldl_addRow_of_fits d ds h.2, if_neg (List.cons_ne_nil _ _),
      List.sum_cons]

/-! ## One call, and a sequence of calls -/

section
variable (ht : HourlyTracker)

/-- The call upserts its delta into the bucket `k` it counts in, and changes no other. -/
theorem handleDelta_apply (t : HourlyCounts) (h : Handled) (k : BucketKey) :
    ht.handleDelta t h.event h.now h.execErr k =
      if h.countsIn ht.loc k && h.execErr.isNone then addRow (t k) h.event.delta.val else t k := by
  unfold HourlyTracker.handleDelta Handled.countsIn
  by_cases h0 : h.event.lineID = 0 ∨ h.event.jobStyleID = 0
  · rw [if_pos h0, if_neg]
    simp only [Bool.and_eq_true, decide_eq_true_eq]
    rintro ⟨⟨hl, hl0, hs, hs0, -⟩, -⟩
    exact h0.elim (fun e => hl0 (hl ▸ e)) (fun e => hs0 (hs ▸ e))
  rw [if_neg h0]
  by_cases hr : h.event.anomaly = "reset"
  · rw [if_pos hr, if_neg (by simp [hr])]
  rw [if_neg hr]
  push_neg at h0
  cases herr : h.execErr with
  | some err => simp [upsertHourlyCount]
  | none =>
    simp only [upsertHourlyCount, Option.isNone_none, Bool.and_true]
    by_cases hk : k = ⟨h.event.lineID, h.event.jobStyleID, ht.loc.date h.now, ht.loc.hour h.now⟩
    · subst hk
      rw [if_pos rfl, if_pos (by simp [h0.1, h0.2, hr])]
    · rw [if_neg hk, if_neg]
      simp only [decide_eq_true_eq]
      rintro ⟨hl, -, hs, -, -, hd, hh⟩
      exact hk (by rw [hl, hs, hd, hh])

/-- After a sequence of calls, each bucket is its first value with the deltas of the
    successful calls counted in it upserted in turn. -/
theorem handleDeltas_apply (t : HourlyCounts) (hs : List Handled) (k : BucketKey) :
    ht.handleDeltas t hs k =
      ((hs.filter fun h => h.countsIn ht.loc k && h.execErr.isNone).map (·.event.delta.val)).foldl
        addRow (t k) := by
  induction hs generalizing t with
  | nil => rfl
  | cons h hs ih =>
    simp only [HourlyTracker.handleDeltas, List.foldl_cons] at ih ⊢
    rw [ih, handleDelta_apply, List.filter_cons]
    split <;> rfl

theorem handleDelta_dropped (t : HourlyCounts) (h : Handled)
    (hd : h.event.lineID = 0 ∨ h.event.jobStyleID = 0 ∨ h.event.anomaly = "reset") :
    ht.handleDelta t h.event h.now h.execErr = t := by
  unfold HourlyTracker.handleDelta
  rcases hd with hd | hd | hd <;> simp [hd]

end

/-- From an empty table, with every upsert succeeding: a bucket whose running sum never
    leaves `int64` has a row exactly when some handled call counts in it, and the row holds
    the INTEGER sum of those calls' deltas; a call of line 0, style 0 or a reset changes no
    bucket; and when every bucket's deltas have magnitudes adding up to at most `MaxInt64`,
    handling the same calls in any other order gives the same table. -/
theorem hourly_bucket_sums (ht : HourlyTracker) (hs : List Handled) (hok : ∀ h ∈ hs, h.execErr = none) :
    (∀ k, addsFit 0 (countedDeltas ht.loc k hs) →
      ht.handleDeltas (fun _ => none) hs k =
        if countedDeltas ht.loc k hs = [] then none else some (.integer (countedDeltas ht.loc k hs).sum)) ∧
    (∀ (t : HourlyCounts) (h : Handled),
      h.event.lineID = 0 ∨ h.event.jobStyleID = 0 ∨ h.event.anomaly = "reset" →
        ht.handleDelta t h.event h.now h.execErr = t) ∧
    ((∀ k, ((countedDeltas ht.loc k hs).map Int.natAbs).sum ≤ 9223372036854775807) →
      ∀ hs' : List Handled, hs'.Perm hs → ht.handleDeltas (fun _ => none) hs' = ht.handleDeltas (fun _ => none) hs) := by
  have hcount : ∀ (l : List Handled), (∀ h ∈ l, h.execErr = none) → ∀ k, addsFit 0 (countedDeltas ht.loc k l) →
      ht.handleDeltas (fun _ => none) l k =
        if countedDeltas ht.loc k l = [] then none else some (.integer (countedDeltas ht.loc k l).sum) := by
    intro l hl k hfit
    rw [handleDeltas_apply, List.filter_congr fun h hm => by rw [hl h hm, Option.isNone_none, Bool.and_true]]
    exact foldl_addRow_none _ hfit
  refine ⟨hcount hs hok, handleDelta_dropped ht, fun hb hs' hp => funext fun k => ?_⟩
  have hp' : (countedDeltas ht.loc k hs').Perm (countedDeltas ht.loc k hs) :=
    (hp.filter _).map _
  -- the bound holds in every order, so no order overflows
  have hfit : ∀ l : List Int, l.Perm (countedDeltas ht.loc k hs) → addsFit 0 l := fun l hl =>
    addsFit_of_natAbs_le 0 l (by rw [(hl.map _).sum_eq]; simpa using hb k)
  have hnil : countedDeltas ht.loc k hs' = [] ↔ countedDeltas ht.loc k hs = [] := by
    rw [← List.length_eq_zero, hp'.length_eq, List.length_eq_zero]
  rw [hcount hs' (fun h hm => hok h (hp.subset hm)) k (hfit _ hp'), hcount hs hok k (hfit _ (List.Perm.refl _))]
  simp only [hnil, hp'.sum_eq]

/-- Spec S6: deltas 10 and 5 of line 1, style 2 at 14:00 on 2024-06-01, and a reset. -/
theorem hourly_bucket_sums_s6 :
    let ht : HourlyTracker := ⟨⟨fun _ => "2024-06-01", fun _ => 14⟩⟩
    let hs : List Handled :=
      [⟨⟨1, 1, 2, 10, 110, ""⟩, 0, none⟩, ⟨⟨1, 1, 2, 5, 115, ""⟩, 1, none⟩,
        ⟨⟨1, 1, 2, 3, 3, "reset"⟩, 2, none⟩]
    (∀ h ∈ hs, h.execErr = none) ∧
      ((∀ k, addsFit 0 (countedDeltas ht.loc k hs) →
        ht.handleDeltas (fun _ => none) hs k =
          if countedDeltas ht.loc k hs = [] then none else some (.integer (countedDeltas ht.loc k hs).sum)) ∧
      (∀ (t : HourlyCounts) (h : Handled),
        h.event.lineID = 0 ∨ h.event.jobStyleID = 0 ∨ h.event.anomaly = "reset" →
          ht.handleDelta t h.event h.now h.execErr = t) ∧
      ((∀ k, ((countedDeltas ht.loc k hs).map Int.natAbs).sum ≤ 9223372036854775807) →
        ∀ hs' : List Handled, hs'.Perm hs →
          ht.handleDeltas (fun _ => none) hs' = ht.handleDeltas (fun _ => none) hs)) := by
  intro ht hs
  exact ⟨by decide, hourly_bucket_sums ht hs (by decide)⟩

/-- Spec S6's stored bucket: the INTEGER 15. -/
example : (⟨⟨fun _ => "2024-06-01", fun _ => 14⟩⟩ : HourlyTracker).handleDeltas (fun _ => none)
    [⟨⟨1, 1, 2, 10, 110, ""⟩, 0, none⟩, ⟨⟨1, 1, 2, 5, 115, ""⟩, 1, none⟩,
      ⟨⟨1, 1, 2, 3, 3, "reset"⟩, 2, none⟩] ⟨1, 2, "2024-06-01", 14⟩ = some (.integer 15) := by
  decide

/-- Once a bucket's running sum leaves `int64` the stored value is not the sum. Two deltas of
    `MaxInt64` leave the REAL 2^64 (`1.8446744073709552e+19`), where the sum is 2^64 - 2; and
    the value depends on the order of the calls: `MaxInt64`, 1, `-MaxInt64` leave the INTEGER
    0 (the REAL 2^63 in the middle absorbs the 1), the order `MaxInt64`, `-MaxInt64`, 1 leaves 1. -/
theorem hourly_bucket_overflow :
    let ht : HourlyTracker := ⟨⟨fun _ => "2024-06-01", fun _ => 14⟩⟩
    let call : Int64 → Handled := fun d => ⟨⟨1, 1, 2, d, 0, ""⟩, 0, none⟩
    let k : BucketKey := ⟨1, 2, "2024-06-01", 14⟩
    ht.handleDeltas (fun _ => none) [call 9223372036854775807, call 9223372036854775807] k =
        some (.real 18446744073709551616) ∧
      (countedDeltas ht.loc k [call 9223372036854775807, call 9223372036854775807]).sum = 18446744073709551614 ∧
      ht.handleDeltas (fun _ => none) [call 9223372036854775807, call 1, call (.ofInt (-9223372036854775807))] k =
        some (.integer 0) ∧
      ht.handleDeltas (fun _ => none) [call 9223372036854775807, call (.ofInt (-9223372036854775807)), call 1] k =
        some (.integer 1) := by
  decide

/-! ## The variant without the reset check -/

namespace Unnamed

/-- `HandleDelta` of `src/unnamed/part_001`: no reset check, and the bucket in the
    server's local time (`time.Local`). -/
def handleDelta (localLoc : Location) (t : HourlyCounts) (delta : CounterDeltaEvent) (now : Int)
    (execErr : Option String) : HourlyCounts :=
  if delta.lineID = 0 ∨ delta.jobStyleID = 0 then t
  else
    let countDate := localLoc.date now
    let hour := localLoc.hour now
    match upsertHourlyCount execErr t delta.lineID delta.jobStyleID countDate hour delta.delta with
    | .error _ => t
    | .ok t' => t'

end Unnamed

end Shingo.Plc
