import Shingo.Go.Int64
/-
  Shingo.Plc.Delta — `CalculateDelta` and `tryRollover` (package `plc`,
  `shingo-edge/www/handlers_manual_order.go`), over Go's wrapping `int64`.

  A reading equal to the last gives 0; a lower one is first tried as a wrap of a 16-bit,
  then a 32-bit counter (`tryRollover`: a width whose maximum is at least the last reading
  and whose wrapped distance is in `(0, jumpThreshold]`), else it is a reset and the new
  reading is returned; a higher one gives `newCount - lastCount`, flagged as a jump above
  the threshold.

  Proved:
  - `rollover_val`: the rollover sum `(max - lastCount) + newCount + 1` is exact whatever
    the intermediate wraps, since its exact value is in range.
  - `calculateDelta_counts_wraps`: a 16- or 32-bit counter that advanced `k ≤ jt` steps,
    wrapped or not, is credited exactly `k` with no anomaly; a 32-bit wrap is never taken
    for a 16-bit one.
  - `calculateDelta_far_apart`: readings `2^64 - 1` apart give the delta `-1`: the
    subtraction wraps.
-/

namespace Shingo.Plc

open Shingo.Go

/-- `max16 int64 = 1<<16 - 1`. -/
def max16 : Int64 := 65535

/-- `max32 int64 = 1<<32 - 1`. -/
def max32 : Int64 := 4294967295

/-- The loop of `tryRollover`, over the widths still to try. -/
def rolloverLoop (lastCount newCount jumpThreshold : Int64) : List Int64 → Int64
  | [] => 0
  | max :: rest =>
    if lastCount ≤ max then
      let d := (max - lastCount) + newCount + 1
      if 0 < d ∧ d ≤ jumpThreshold then d else rolloverLoop lastCount newCount jumpThreshold rest
    else rolloverLoop lastCount newCount jumpThreshold rest

def tryRollover (lastCount newCount jumpThreshold : Int64) : Int64 :=
  rolloverLoop lastCount newCount jumpThreshold [max16, max32]

def calculateDelta (lastCount newCount jumpThreshold : Int64) : Int64 × String :=
  if newCount = lastCount then (0, "")
  else if newCount < lastCount then
    let rollover := tryRollover lastCount newCount jumpThreshold
    if 0 < rollover then (rollover, "") else (newCount, "reset")
  else
    let delta := newCount - lastCount
    if delta > jumpThreshold then (delta, "jump") else (delta, "")

/-! ## The rollover sum -/

/-- The exact value of the rollover sum for the width `max`. -/
def rolloverSum (max lastCount newCount : Int64) : Int := max.val - lastCount.val + newCount.val + 1

theorem rollover_val {max lastCount newCount : Int64} (hle : lastCount ≤ max) (hlt : newCount < lastCount) :
    ((max - lastCount) + newCount + 1).val = rolloverSum max lastCount newCount := by
  have := newCount.ge_min; have := max.lt_max
  simp only [Int64.le_iff, Int64.lt_iff] at hle hlt
  simp only [Int64.val_add, Int64.val_sub, Int64.val_one, wrap_add_wrap, rolloverSum]
  exact wrap_of_fits (by omega) (by omega)

@[simp] theorem max16_val : max16.val = 65535 := rfl
@[simp] theorem max32_val : max32.val = 4294967295 := rfl

theorem rolloverLoop_skip {l n j max : Int64} (rest : List Int64) (h : ¬ l ≤ max) :
    rolloverLoop l n j (max :: rest) = rolloverLoop l n j rest := by
  simp [rolloverLoop, h]

theorem rolloverLoop_accept {l n j max : Int64} (rest : List Int64) (hle : l ≤ max) (hlt : n < l)
    (hpos : 0 < rolloverSum max l n) (hj : rolloverSum max l n ≤ j.val) :
    rolloverLoop l n j (max :: rest) = (max - l) + n + 1 := by
  have hv := rollover_val hle hlt
  have : (0 : Int64) < (max - l) + n + 1 ∧ (max - l) + n + 1 ≤ j := by
    simp only [Int64.lt_iff, Int64.le_iff, hv, Int64.val_ofNat]
    exact ⟨by rw [wrap_of_fits (by omega) (by omega)]; exact hpos, hj⟩
  simp [rolloverLoop, hle, this]

/-! ## The three branches of `calculateDelta` -/

theorem calculateDelta_forward {l n j : Int64} (hlt : l < n) :
    calculateDelta l n j = if n - l > j then (n - l, "jump") else (n - l, "") := by
  have hne : n ≠ l := fun h => by subst h; simp at hlt
  have hnlt : ¬ n < l := by simp only [Int64.lt_iff] at *; omega
  simp [calculateDelta, hne, hnlt]

theorem calculateDelta_backward {l n j : Int64} (hlt : n < l) :
    calculateDelta l n j =
      if 0 < tryRollover l n j then (tryRollover l n j, "") else (n, "reset") := by
  have hne : n ≠ l := fun h => by subst h; simp at hlt
  simp [calculateDelta, hne, hlt]

/-! ## Wrapped counters are credited exactly -/

/-- A `w`-bit counter (`w` 16 or 32) that advanced `k` steps from `last`, wrapping or not,
    with `k` within the jump threshold, is credited exactly `k` and flagged as nothing. -/
theorem calculateDelta_counts_wraps (w : Nat) (hw : w = 16 ∨ w = 32) (last jt : Int64) (k : Int)
    (hl0 : 0 ≤ last.val) (hlw : last.val ≤ 2 ^ w - 1) (hjt : jt.val ≤ 2 ^ 32 - 2 ^ 16)
    (hk1 : 1 ≤ k) (hkj : k ≤ jt.val) (hkw : k ≤ 2 ^ w - 1) :
    calculateDelta last (Int64.ofInt ((last.val + k) % 2 ^ w)) jt = (Int64.ofInt k, "") := by
  have hw32 : (2 : Int) ^ w ≤ 4294967296 := by rcases hw with rfl | rfl <;> omega
  have hwpos : (65536 : Int) ≤ 2 ^ w := by rcases hw with rfl | rfl <;> omega
  generalize hn : Int64.ofInt ((last.val + k) % 2 ^ w) = n
  have hnv : n.val = (last.val + k) % 2 ^ w := by
    rw [← hn, Int64.val_ofInt]
    exact wrap_of_fits (by have := Int.emod_nonneg (last.val + k) (by omega : (2 : Int) ^ w ≠ 0); omega)
      (by have := Int.emod_lt_of_pos (last.val + k) (by omega : (0 : Int) < 2 ^ w); omega)
  have hk : (Int64.ofInt k).val = k := wrap_of_fits (by omega) (by omega)
  by_cases hwrap : last.val + k < 2 ^ w
  · -- no wrap: the forward branch
    have hnv' : n.val = last.val + k := by rw [hnv, Int.emod_eq_of_lt (by omega) hwrap]
    rw [calculateDelta_forward (show last.val < n.val by omega)]
    have hd : n - last = Int64.ofInt k := Int64.ext (by
      rw [Int64.val_sub, hnv', hk, wrap_of_fits (by omega) (by omega)]; omega)
    simp only [hd, gt_iff_lt, Int64.lt_iff, hk]
    simp only [show ¬ jt.val < k by omega, if_false]
  · -- a wrap: the rollover branch, at the counter's own width
    have hnv' : n.val = last.val + k - 2 ^ w := by
      rw [hnv, show last.val + k = (last.val + k - 2 ^ w) + 2 ^ w by omega, Int.add_emod_self,
        Int.emod_eq_of_lt (by omega) (by omega)]
      omega
    have hlt : n < last := show n.val < last.val by omega
    have hsum : ∀ max : Int64, max.val = 2 ^ w - 1 → rolloverSum max last n = k := by
      intro max hm; unfold rolloverSum; omega
    have haccept : ∀ (max : Int64) (rest : List Int64), max.val = 2 ^ w - 1 →
        rolloverLoop last n jt (max :: rest) = Int64.ofInt k := by
      intro max rest hm
      have hle : last ≤ max := show last.val ≤ max.val by omega
      rw [rolloverLoop_accept _ hle hlt (by rw [hsum _ hm]; omega) (by rw [hsum _ hm]; omega)]
      exact Int64.ext (by rw [rollover_val hle hlt, hsum _ hm, hk])
    have hroll : tryRollover last n jt = Int64.ofInt k := by
      unfold tryRollover
      rcases hw with rfl | rfl
      · exact haccept max16 _ rfl
      · rw [rolloverLoop_skip _ (by simp; omega)]
        exact haccept max32 _ rfl
    rw [calculateDelta_backward hlt, hroll, if_pos (show (0 : Int64) < Int64.ofInt k by
      simp only [Int64.lt_iff, Int64.val_zero, hk]; omega)]

/-- Scenario S2: a 16-bit counter at 65530 that reads 5 advanced 11 steps. -/
theorem calculateDelta_counts_wraps_16bit_wrap : calculateDelta 65530 5 1000 = (11, "") :=
  calculateDelta_counts_wraps 16 (.inl rfl) 65530 1000 11 (by decide) (by decide) (by decide) (by decide)
    (by decide) (by decide)

/-! ## Non-negative and exact, unless the subtraction wraps -/

/-- What the result `r` of `calculateDelta lastCount newCount jt` should be: a reset
    returning the new reading, below the last one; or a non-negative delta, zero exactly on
    equal readings, that is the exact difference going up and the exact rollover sum of an
    accepted width going down. -/
def DeltaSound (lastCount newCount jt : Int64) (r : Int64 × String) : Prop :=
  (r.2 = "reset" ∧ r.1 = newCount ∧ newCount < lastCount) ∨
  (0 ≤ r.1.val ∧ (r.1.val = 0 ↔ newCount = lastCount) ∧
    (lastCount < newCount → r.1.val = newCount.val - lastCount.val) ∧
    (newCount < lastCount → ∃ max ∈ [max16, max32], lastCount ≤ max ∧ 0 < rolloverSum max lastCount newCount ∧
      rolloverSum max lastCount newCount ≤ jt.val ∧ r.1.val = rolloverSum max lastCount newCount))

/-- Readings `2^64 - 1` apart: `newCount - lastCount` wraps to `-1`, which is returned as
    the production delta, with no anomaly. -/
theorem calculateDelta_far_apart :
    calculateDelta (.ofInt (-9223372036854775808)) (.ofInt 9223372036854775807) 0 = (.ofInt (-1), "") ∧
      ¬ DeltaSound (.ofInt (-9223372036854775808)) (.ofInt 9223372036854775807) 0
        (calculateDelta (.ofInt (-9223372036854775808)) (.ofInt 9223372036854775807) 0) := by
  unfold DeltaSound; decide

end Shingo.Plc
