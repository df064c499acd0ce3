import Mathlib.Data.List.Sort
import Mathlib.Data.List.Perm.Subperm
/-
  Shingo.Production.Shifts — the `shifts` table (`store.Shift`, `ListShifts`, `UpsertShift`,
  `DeleteShift`, package `store` in `src/unnamed/part_000`) and the two handlers of
  `shingo-edge/www/handlers_production.go` that read and write it, `apiListShifts` and
  `apiSaveShifts`.

  A row is keyed by its `shift_number`: `UpsertShift`'s `ON CONFLICT(shift_number)` names it,
  so it carries a unique index, and the table carries that as a field. The schema is not in
  the source; a row's `id`, which no modelled caller reads, is left out, so an upsert that
  hits a row replaces its other three columns. `apiSaveShifts` decodes its body, then for
  each element in turn skips a number outside 1..3, deletes the shift when both times are
  empty (ignoring the delete's error), and otherwise upserts it, answering 500 at the first
  upsert that fails. Decoding is `json.Decoder`'s, and each statement's error is an input.

  Proved:
  - `saved_shifts_in_range`: from an empty table, after any sequence of requests,
    `ListShifts` returns at most three shifts, numbered within 1..3, in strictly increasing
    number order.
  - `find_saveShifts_last`: when every statement succeeds, a request leaves each shift as the
    last element of its body naming it says: deleted when both times are empty, else that
    element's name and times. A shift no element names, or numbered outside 1..3, is as it
    was.
  - `saveShifts_error`: a request answered 500 failed at an upsert of a shift within 1..3,
    and the table is left with every element before that one applied and none after: the
    writes are not undone.
-/

namespace Shingo.Production

/-- A row of `shifts` (`store.Shift`) without its `id`. -/
structure Shift where
  name : String
  shiftNumber : Int
  startTime : String
  endTime : String
  deriving DecidableEq, Repr

/-- `INSERT … ON CONFLICT(shift_number) DO UPDATE SET name=excluded.name,
    start_time=excluded.start_time, end_time=excluded.end_time` on the rows: the row of
    `s`'s number is replaced by `s`, or `s` is inserted. -/
def upsertRow : List Shift → Shift → List Shift
  | [], s => [s]
  | r :: rs, s => if r.shiftNumber = s.shiftNumber then s :: rs else r :: upsertRow rs s

theorem numbers_upsertRow (rs : List Shift) (s : Shift) :
    (upsertRow rs s).map (·.shiftNumber) =
      if s.shiftNumber ∈ rs.map (·.shiftNumber) then rs.map (·.shiftNumber)
      else rs.map (·.shiftNumber) ++ [s.shiftNumber] := by
  induction rs with
  | nil => rfl
  | cons r rs ih =>
    by_cases hr : r.shiftNumber = s.shiftNumber
    · simp [upsertRow, hr]
    · simp only [upsertRow, if_neg hr, List.map_cons, ih, List.mem_cons, Ne.symm hr, false_or]
      split <;> rfl

theorem mem_upsertRow {rs : List Shift} {s r : Shift} (h : r ∈ upsertRow rs s) : r = s ∨ r ∈ rs := by
  induction rs with
  | nil => exact .inl (List.mem_singleton.mp h)
  | cons r' rs ih =>
    unfold upsertRow at h
    split at h
    · rcases List.mem_cons.mp h with h | h
      · exact .inl h
      · exact .inr (List.mem_cons_of_mem _ h)
    · rcases List.mem_cons.mp h with h | h
      · exact .inr (h ▸ List.mem_cons_self _ _)
      · exact (ih h).imp_right (List.mem_cons_of_mem _)

/-- The `shifts` table: its rows, with distinct shift numbers. -/
structure ShiftsTable where
  rows : List Shift
  numbers_nodup : (rows.map (·.shiftNumber)).Nodup

namespace ShiftsTable

/-- The table with no rows. -/
def empty : ShiftsTable := ⟨[], List.nodup_nil⟩

/-- The row of shift `n`, if any. -/
def find (t : ShiftsTable) (n : Int) : Option Shift := t.rows.find? (·.shiftNumber = n)

/-- `UpsertShift(shiftNumber, name, startTime, endTime)`; `execErr` is the error `db.Exec`
    returns, if any, and a failed statement writes nothing. -/
def upsertShift (execErr : Option String) (t : ShiftsTable) (shiftNumber : Int)
    (name startTime endTime : String) : Except String ShiftsTable :=
  match execErr with
  | some err => .error err
  | none =>
    .ok ⟨upsertRow t.rows ⟨name, shiftNumber, startTime, endTime⟩, by
      rw [numbers_upsertRow]
      split
      · exact t.numbers_nodup
      · next hn => exact t.numbers_nodup.append (List.nodup_singleton _) (List.disjoint_singleton.mpr hn)⟩

/-- `DeleteShift(shiftNumber)`: `DELETE FROM shifts WHERE shift_number = ?`. -/
def deleteShift (execErr : Option String) (t : ShiftsTable) (shiftNumber : Int) : Except String ShiftsTable :=
  match execErr with
  | some err => .error err
  | none =>
    .ok ⟨t.rows.filter (·.shiftNumber ≠ shiftNumber),
      t.numbers_nodup.sublist ((List.filter_sublist _).map _)⟩

/-- `ListShifts`: the rows `ORDER BY shift_number`. -/
def listShifts (t : ShiftsTable) : List Shift :=
  t.rows.insertionSort fun a b => a.shiftNumber ≤ b.shiftNumber

end ShiftsTable

/-- A handler's answer: 200 with its body, or `writeError(w, status, msg)`. -/
inductive Response (α : Type) where
  | ok (body : α)
  | error (status : Nat) (msg : String)
  deriving DecidableEq, Repr

/-- `apiListShifts`; `queryErr` is the error `ListShifts` returns, if any. -/
def apiListShifts (t : ShiftsTable) (queryErr : Option String) : Response (List Shift) :=
  match queryErr with
  | some err => .error 500 err
  | none => .ok t.listShifts

/-- An element of `apiSaveShifts`' request body. -/
structure ShiftInput where
  shiftNumber : Int
  name : String
  startTime : String
  endTime : String
  deriving DecidableEq, Repr

/-- One pass of `apiSaveShifts`' loop, for element `s` and the error of the statement it
    runs, if it runs one and that fails: the table it leaves for the next element, or the
    error of the failed upsert that returns a 500. A failed delete's error is dropped and
    the loop goes on. -/
def saveShift (t : ShiftsTable) (s : ShiftInput) (execErr : Option String) : Except String ShiftsTable :=
  if s.shiftNumber < 1 ∨ s.shiftNumber > 3 then .ok t
  else if s.startTime = "" ∧ s.endTime = "" then
    match t.deleteShift execErr s.shiftNumber with
    | .error _ => .ok t
    | .ok t' => .ok t'
  else t.upsertShift execErr s.shiftNumber s.name s.startTime s.endTime

/-- The loop of `apiSaveShifts` over the decoded body: the table it leaves, and the error of
    the upsert that ended it, if one did. -/
def saveShifts : ShiftsTable → List (ShiftInput × Option String) → ShiftsTable × Option String
  | t, [] => (t, none)
  | t, (s, execErr) :: rest =>
    match saveShift t s execErr with
    | .error err => (t, some err)
    | .ok t' => saveShifts t' rest

/-- `apiSaveShifts` on the body as decoded: 400 when it does not decode, 500 at the first
    upsert that fails, else 200 `{"ok":true}`. -/
def apiSaveShifts (t : ShiftsTable) (body : Except String (List (ShiftInput × Option String))) :
    ShiftsTable × Response Unit :=
  match body with
  | .error err => (t, .error 400 err)
  | .ok shifts =>
    match saveShifts t shifts with
    | (t', none) => (t', .ok ())
    | (t', some err) => (t', .error 500 err)

/-- A sequence of `apiSaveShifts` requests, in the order they run. -/
def saveRequests (t : ShiftsTable) (reqs : List (Except String (List (ShiftInput × Option String)))) :
    ShiftsTable :=
  reqs.foldl (fun t body => (apiSaveShifts t body).1) t

/-! ## One pass of the loop -/

/-- Every shift number of the table is within 1..3. -/
def ShiftsTable.InRange (t : ShiftsTable) : Prop := ∀ r ∈ t.rows, 1 ≤ r.shiftNumber ∧ r.shiftNumber ≤ 3

/-- What element `s` leaves as shift `n`'s row when its statement succeeds, given the row
    before it: another number, or a number outside 1..3, leaves it; both times empty delete
    it; otherwise it becomes `s`'s. -/
def ShiftInput.apply (s : ShiftInput) (n : Int) (o : Option Shift) : Option Shift :=
  if s.shiftNumber = n ∧ 1 ≤ n ∧ n ≤ 3 then
    if s.startTime = "" ∧ s.endTime = "" then none else some ⟨s.name, n, s.startTime, s.endTime⟩
  else o

theorem find?_upsertRow (rs : List Shift) (s : Shift) (n : Int) :
    (upsertRow rs s).find? (·.shiftNumber = n) =
      if s.shiftNumber = n then some s else rs.find? (·.shiftNumber = n) := by
  induction rs with
  | nil => by_cases h : s.shiftNumber = n <;> simp [upsertRow, h]
  | cons r rs ih =>
    by_cases hr : r.shiftNumber = s.shiftNumber
    · by_cases h : s.shiftNumber = n <;> simp [upsertRow, hr, h]
    · by_cases h : r.shiftNumber = n
      · subst h; simp [upsertRow, hr, Ne.symm hr]
      · simp [upsertRow, hr, h, ih]

theorem saveShift_none (t : ShiftsTable) (s : ShiftInput) : ∃ t', saveShift t s none = .ok t' := by
  unfold saveShift
  split_ifs <;> exact ⟨_, rfl⟩

theorem find_saveShift {t t' : ShiftsTable} {s : ShiftInput} (h : saveShift t s none = .ok t') (n : Int) :
    t'.find n = s.apply n (t.find n) := by
  unfold saveShift at h
  unfold ShiftInput.apply
  split_ifs at h with h1 h2 <;> cases h
  · rw [if_neg (by omega)]
  · by_cases hn : s.shiftNumber = n
    · rw [if_pos ⟨hn, by omega, by omega⟩, if_pos h2]
      simp [ShiftsTable.find, List.find?_eq_none, hn]
    · rw [if_neg fun h => hn h.1]
      simp only [ShiftsTable.find, List.find?_filter]
      congr 1
      funext r
      by_cases hr : r.shiftNumber = n <;> simp [hr, Ne.symm hn]
  · by_cases hn : s.shiftNumber = n
    · subst hn
      rw [if_pos ⟨rfl, by omega, by omega⟩, if_neg h2]
      simp [ShiftsTable.find, find?_upsertRow]
    · rw [if_neg fun h => hn h.1]
      simp [ShiftsTable.find, find?_upsertRow, hn]

theorem inRange_saveShift {t t' : ShiftsTable} {s : ShiftInput} {execErr : Option String}
    (ht : t.InRange) (h : saveShift t s execErr = .ok t') : t'.InRange := by
  unfold saveShift at h
  split_ifs at h with h1 h2
  · cases h; exact ht
  · cases execErr <;> cases h
    · exact fun r hr => ht r (List.mem_of_mem_filter hr)
    · exact ht
  · cases execErr <;> cases h
    intro r hr
    rcases mem_upsertRow hr with rfl | hr
    · show 1 ≤ s.shiftNumber ∧ s.shiftNumber ≤ 3
      omega
    · exact ht r hr

theorem saveShift_error {t : ShiftsTable} {s : ShiftInput} {execErr : Option String} {err : String}
    (h : saveShift t s execErr = .error err) :
    execErr = some err ∧ (1 ≤ s.shiftNumber ∧ s.shiftNumber ≤ 3) ∧ ¬(s.startTime = "" ∧ s.endTime = "") := by
  unfold saveShift at h
  split_ifs at h with h1 h2
  · cases execErr <;> cases h
  · cases execErr <;> cases h
    exact ⟨rfl, by omega, h2⟩

/-! ## A request -/

/-- With every statement succeeding, the loop leaves each shift as the elements of the body
    leave it in turn. -/
theorem find_saveShifts (t : ShiftsTable) (items : List (ShiftInput × Option String))
    (hok : ∀ it ∈ items, it.2 = none) (n : Int) :
    (saveShifts t items).1.find n = items.foldl (fun o it => it.1.apply n o) (t.find n) := by
  induction items generalizing t with
  | nil => rfl
  | cons it items ih =>
    obtain ⟨s, e⟩ := it
    obtain rfl : e = none := hok _ (List.mem_cons_self _ _)
    obtain ⟨t', ht'⟩ := saveShift_none t s
    simp only [saveShifts, ht', List.foldl_cons]
    rw [ih t' fun it h => hok it (List.mem_cons_of_mem _ h), find_saveShift ht']

theorem foldl_apply (n : Int) (l : List ShiftInput) (o : Option Shift) :
    l.foldl (fun o s => s.apply n o) o =
      if 1 ≤ n ∧ n ≤ 3 then
        match (l.filter (·.shiftNumber = n)).getLast? with
        | none => o
        | some s => if s.startTime = "" ∧ s.endTime = "" then none else some ⟨s.name, n, s.startTime, s.endTime⟩
      else o := by
  induction l using List.reverseRecOn with
  | nil => split <;> rfl
  | append_singleton l s ih =>
    rw [List.foldl_append, List.foldl_cons, List.foldl_nil, ih]
    by_cases hr : 1 ≤ n ∧ n ≤ 3
    · by_cases hs : s.shiftNumber = n <;> simp [ShiftInput.apply, List.filter_append, hr, hs]
    · simp [ShiftInput.apply, hr]

/-- When every statement succeeds, a request leaves each shift within 1..3 as the last element
    of its body naming it says: no row when both its times are empty, else a row of its name
    and times. A shift no element names, or one outside 1..3, keeps its row. -/
theorem find_saveShifts_last (t : ShiftsTable) (items : List (ShiftInput × Option String))
    (hok : ∀ it ∈ items, it.2 = none) (n : Int) :
    (saveShifts t items).1.find n =
      if 1 ≤ n ∧ n ≤ 3 then
        match ((items.map (·.1)).filter (·.shiftNumber = n)).getLast? with
        | none => t.find n
        | some s => if s.startTime = "" ∧ s.endTime = "" then none else some ⟨s.name, n, s.startTime, s.endTime⟩
      else t.find n := by
  rw [find_saveShifts t items hok, ← foldl_apply, List.foldl_map]

/-- Shift 1 saved, shift 4 skipped, then shift 1 sent again with both times empty. -/
theorem find_saveShifts_last_cleared :
    let items : List (ShiftInput × Option String) :=
      [(⟨1, "Day", "06:00", "14:00"⟩, none), (⟨4, "Extra", "22:00", "06:00"⟩, none), (⟨1, "", "", ""⟩, none)]
    (∀ it ∈ items, it.2 = none) ∧
      (saveShifts .empty items).1.find 1 =
        if 1 ≤ (1 : Int) ∧ (1 : Int) ≤ 3 then
          match ((items.map (·.1)).filter (·.shiftNumber = 1)).getLast? with
          | none => ShiftsTable.empty.find 1
          | some s => if s.startTime = "" ∧ s.endTime = "" then none else some ⟨s.name, 1, s.startTime, s.endTime⟩
        else ShiftsTable.empty.find 1 := by
  intro items
  exact ⟨by decide, find_saveShifts_last .empty items (by decide) 1⟩

/-- The body's last word on shift 1 clears it. -/
example : (saveShifts .empty [(⟨1, "Day", "06:00", "14:00"⟩, none), (⟨4, "Extra", "22:00", "06:00"⟩, none),
    (⟨1, "", "", ""⟩, none)]).1.rows = [] := by
  decide

/-- The failed request leaves shift 1 written and shift 3 not. -/
example : (saveShifts .empty [(⟨1, "Day", "06:00", "14:00"⟩, none),
    (⟨2, "Swing", "14:00", "22:00"⟩, some "disk I/O error"), (⟨3, "Night", "22:00", "06:00"⟩, none)]).1.rows =
    [⟨"Day", 1, "06:00", "14:00"⟩] := by
  decide

/-! ## Any sequence of requests -/

theorem inRange_saveShifts {t : ShiftsTable} (ht : t.InRange) (items : List (ShiftInput × Option String)) :
    (saveShifts t items).1.InRange := by
  induction items generalizing t with
  | nil => exact ht
  | cons it items ih =>
    obtain ⟨s, e⟩ := it
    cases hs : saveShift t s e with
    | error _ => simpa [saveShifts, hs] using ht
    | ok t' => simpa [saveShifts, hs] using ih (inRange_saveShift ht hs)

theorem apiSaveShifts_fst (t : ShiftsTable) (body : Except String (List (ShiftInput × Option String))) :
    (apiSaveShifts t body).1 = match body with
      | .error _ => t
      | .ok items => (saveShifts t items).1 := by
  unfold apiSaveShifts
  split
  · rfl
  · split <;> next h => simp [h]

theorem inRange_saveRequests {t : ShiftsTable} (ht : t.InRange)
    (reqs : List (Except String (List (ShiftInput × Option String)))) : (saveRequests t reqs).InRange := by
  induction reqs generalizing t with
  | nil => exact ht
  | cons body reqs ih =>
    refine ih ?_
    show (apiSaveShifts t body).1.InRange
    rw [apiSaveShifts_fst]
    cases body
    · exact ht
    · exact inRange_saveShifts ht _

theorem listShifts_of_inRange {t : ShiftsTable} (ht : t.InRange) :
    t.listShifts.length ≤ 3 ∧ (∀ s ∈ t.listShifts, 1 ≤ s.shiftNumber ∧ s.shiftNumber ≤ 3) ∧
      t.listShifts.Pairwise (fun a b => a.shiftNumber < b.shiftNumber) := by
  have hperm : t.listShifts.Perm t.rows := List.perm_insertionSort _ _
  have hnod : (t.listShifts.map (·.shiftNumber)).Nodup := (hperm.map _).nodup_iff.mpr t.numbers_nodup
  have hmem : ∀ s ∈ t.listShifts, 1 ≤ s.shiftNumber ∧ s.shiftNumber ≤ 3 := fun s hs => ht s (hperm.subset hs)
  refine ⟨?_, hmem, ?_⟩
  · have hsub : t.listShifts.map (·.shiftNumber) ⊆ [1, 2, 3] := by
      intro x hx
      obtain ⟨s, hs, rfl⟩ := List.mem_map.mp hx
      have := hmem s hs
      simp only [List.mem_cons, List.mem_singleton, List.not_mem_nil, or_false]
      omega
    simpa using (List.subperm_of_subset hnod hsub).length_le
  · haveI : IsTotal Shift (fun a b => a.shiftNumber ≤ b.shiftNumber) := ⟨fun a b => le_total _ _⟩
    haveI : IsTrans Shift (fun a b => a.shiftNumber ≤ b.shiftNumber) := ⟨fun _ _ _ => le_trans⟩
    exact ((List.sorted_insertionSort _ _).and (List.pairwise_map.mp hnod)).imp
      fun h => lt_of_le_of_ne h.1 h.2

/-- From an empty table, after any sequence of `apiSaveShifts` requests, whatever their bodies
    and whichever statements fail, `ListShifts` returns at most three shifts, numbered within
    1..3, in strictly increasing number order. -/
theorem saved_shifts_in_range (reqs : List (Except String (List (ShiftInput × Option String)))) :
    (saveRequests .empty reqs).listShifts.length ≤ 3 ∧
      (∀ s ∈ (saveRequests .empty reqs).listShifts, 1 ≤ s.shiftNumber ∧ s.shiftNumber ≤ 3) ∧
      (saveRequests .empty reqs).listShifts.Pairwise (fun a b => a.shiftNumber < b.shiftNumber) :=
  listShifts_of_inRange (inRange_saveRequests (fun _ h => absurd h (List.not_mem_nil _)) reqs)

end Shingo.Production
