import Mathlib.Algebra.BigOperators.Group.List
import Mathlib.Algebra.Order.Ring.Nat
import Mathlib.Algebra.Ring.Int.Defs
/-
  Shingo.Go.Sql — the SQLite arithmetic and the `database/sql` conversion under the
  `hourly_counts` statements of package `store` (`shingo-edge/www/handlers_manual_order.go`):
  the `+` of `DO UPDATE SET delta = delta + excluded.delta`, the affinity of the column it
  writes, `sum()`, and `rows.Scan` into an `int64`.

  SQLite adds two INTEGERs exactly unless the sum leaves `int64` (`sqlite3AddInt64`); then,
  and whenever a REAL is involved, it converts both sides to `double` and adds them in
  double arithmetic. Every value here is an integer or a sum of them, so every REAL is an
  integer too (a double of magnitude 2^53 or more is one): `real v` holds it as that
  integer, `roundDouble` rounds to the nearest double, ties to even, and no value comes near
  the end of the double range. The schema is not in the source: `delta` is taken to have
  INTEGER affinity, which stores an integral REAL strictly inside `int64` as that INTEGER.

  `sum()` adds INTEGERs exactly and fails with `integer overflow` when the running sum
  leaves `int64`. What it does once a REAL is in the group changed in SQLite 3.43, and the
  version is the driver's; so is the order `GROUP BY` visits a group's rows in, which the
  query plan picks. Both are fields of `SqlDriver`. `rows.Scan` into an `int64` takes an
  INTEGER as it is and a REAL through `strconv.ParseInt(strconv.FormatFloat(v, 'g', -1,
  64), 10, 64)`, which parses only below 10^6 in magnitude, where the shortest `'g'` form
  has no exponent.

  Proved: an INTEGER sum that fits is exact (`sqlAdd_of_fits`); a run of additions whose
  magnitudes add up to at most `MaxInt64` never overflows (`addsFit_of_natAbs_le`); and
  `sum()` of INTEGERs whose magnitudes add up to at most `MaxInt64` is their exact sum, in
  any order the plan visits them (`sqlSum_of_natAbs_le`).
-/

namespace Shingo.Go

/-- `MinInt64 ≤ x ≤ MaxInt64`: a sum `sqlite3AddInt64` accepts. -/
def fitsInt64 (x : Int) : Bool := decide (-9223372036854775808 ≤ x ∧ x < 9223372036854775808)

/-- Adding `ds` to `a` in turn never leaves `int64`. -/
def addsFit (a : Int) : List Int → Bool
  | [] => true
  | d :: ds => fitsInt64 (a + d) && addsFit (a + d) ds

theorem addsFit_of_natAbs_le (a : Int) (ds : List Int)
    (h : a.natAbs + (ds.map Int.natAbs).sum ≤ 9223372036854775807) : addsFit a ds := by
  induction ds generalizing a with
  | nil => rfl
  | cons d ds ih =>
    simp only [List.map_cons, List.sum_cons] at h
    simp only [addsFit, fitsInt64, Bool.and_eq_true, decide_eq_true_eq]
    exact ⟨by omega, ih _ (by omega)⟩

/-- A value SQLite stores or computes: an INTEGER, or a REAL by the integer it equals. -/
inductive SqlValue where
  | integer (v : Int)
  | real (v : Int)
  deriving DecidableEq, Repr

namespace SqlValue

/-- The number a value stands for. -/
def num : SqlValue → Int
  | integer v => v
  | real v => v

@[simp] theorem num_integer (v : Int) : (integer v).num = v := rfl

def isInteger : SqlValue → Bool
  | integer _ => true
  | real _ => false

/-- The values `rows.Scan` takes into an `int64`. -/
def scans : SqlValue → Bool
  | integer _ => true
  | real v => v.natAbs < 1000000

theorem scans_of_isInteger {v : SqlValue} (h : v.isInteger) : v.scans := by
  cases v
  · rfl
  · cases h

end SqlValue

/-! ## Doubles -/

/-- The bits of `m` beyond a double's 53-bit significand; `fuel` bounds the halvings. -/
def excessBits : Nat → Nat → Nat
  | 0, _ => 0
  | fuel + 1, m => if m < 2 ^ 53 then 0 else excessBits fuel (m / 2) + 1

/-- `m` rounded to the nearest double, ties to the even significand. -/
def roundNat (m : Nat) : Nat :=
  let e := excessBits m m
  let q := m / 2 ^ e
  let r := m % 2 ^ e
  if 2 ^ e < 2 * r ∨ 2 * r = 2 ^ e ∧ q % 2 = 1 then (q + 1) * 2 ^ e else q * 2 ^ e

/-- `(double)x`: rounding to nearest is symmetric about 0. -/
def roundDouble (x : Int) : Int := if x < 0 then -(roundNat x.natAbs : Int) else roundNat x.natAbs

/-! ## The upsert's `+` -/

/-- `delta + excluded.delta` (`OP_Add`) of a stored value and a bound `int64`: the INTEGER
    sum unless it overflows, else the sum of the two sides as doubles. -/
def sqlAdd : SqlValue → Int → SqlValue
  | .integer a, b =>
    if fitsInt64 (a + b) then .integer (a + b) else .real (roundDouble (roundDouble a + roundDouble b))
  | .real a, b => .real (roundDouble (a + roundDouble b))

/-- INTEGER affinity on a value written to the column (`sqlite3VdbeIntegerAffinity`): a REAL
    strictly between `MinInt64` and `MaxInt64` is stored as an INTEGER. -/
def integerAffinity : SqlValue → SqlValue
  | .real v => if -9223372036854775808 < v ∧ v < 9223372036854775807 then .integer v else .real v
  | v => v

theorem sqlAdd_of_fits {a b : Int} (h : fitsInt64 (a + b)) : sqlAdd (.integer a) b = .integer (a + b) :=
  if_pos h

@[simp] theorem integerAffinity_integer (v : Int) : integerAffinity (.integer v) = .integer v := rfl

/-! ## `sum()` -/

/-- Where `sum()`'s exact accumulator stands after a group's values, in the order visited
    (`sumStep`): the sum, an overflow of `sqlite3AddInt64`, or a REAL that made the sum
    approximate before any overflow. -/
inductive SumState where
  | exact (v : Int)
  | overflow
  | approx

def sumFrom (acc : Int) : List SqlValue → SumState
  | [] => .exact acc
  | .integer v :: vs => if fitsInt64 (acc + v) then sumFrom (acc + v) vs else .overflow
  | .real _ :: _ => .approx

/-- What the driver under `database/sql` decides and the source does not say. -/
structure SqlDriver where
  /-- The order `GROUP BY` visits a group's values in, which the query plan picks. -/
  sumOrder : List SqlValue → List SqlValue
  sumOrder_perm : ∀ vs, (sumOrder vs).Perm vs
  /-- The REAL `sum()` returns for values, in the order visited, with a REAL among them. -/
  realSum : List SqlValue → Int
  /-- SQLite before 3.43 keeps an integer overflow as an error even if a REAL follows. -/
  overflowSticks : Bool
  /-- `strconv.FormatFloat(v, 'g', -1, 64)`, the text `Scan` quotes a REAL with. -/
  formatFloat : Int → String

/-- `sum()` of a group's values (`sumStep`, `sumFinalize`). -/
def sqlSum (drv : SqlDriver) (vs : List SqlValue) : Except String SqlValue :=
  match sumFrom 0 (drv.sumOrder vs) with
  | .exact v => .ok (.integer v)
  | .overflow =>
    if vs.all (·.isInteger) || drv.overflowSticks then .error "integer overflow"
    else .ok (.real (drv.realSum (drv.sumOrder vs)))
  | .approx => .ok (.real (drv.realSum (drv.sumOrder vs)))

theorem sumFrom_of_natAbs_le (acc : Int) (vs : List SqlValue) (hint : ∀ v ∈ vs, v.isInteger)
    (h : acc.natAbs + (vs.map (·.num.natAbs)).sum ≤ 9223372036854775807) :
    sumFrom acc vs = .exact (acc + (vs.map (·.num)).sum) := by
  induction vs generalizing acc with
  | nil => simp [sumFrom]
  | cons v vs ih =>
    rcases v with n | n
    · simp only [List.map_cons, List.sum_cons, SqlValue.num_integer] at h ⊢
      rw [sumFrom, if_pos (by simp only [fitsInt64, decide_eq_true_eq]; omega),
        ih _ (fun w hw => hint w (List.mem_cons_of_mem _ hw)) (by omega), Int.add_assoc]
    · cases hint _ (List.mem_cons_self _ _)

/-- `sum()` of INTEGERs whose magnitudes add up to at most `MaxInt64` is their exact sum,
    whatever order the plan visits them in. -/
theorem sqlSum_of_natAbs_le (drv : SqlDriver) (vs : List SqlValue) (hint : ∀ v ∈ vs, v.isInteger)
    (h : (vs.map (·.num.natAbs)).sum ≤ 9223372036854775807) :
    sqlSum drv vs = .ok (.integer (vs.map (·.num)).sum) := by
  have hp := drv.sumOrder_perm vs
  rw [sqlSum, sumFrom_of_natAbs_le 0 _ (fun v hv => hint v (hp.subset hv))
    (by rw [(hp.map _).sum_eq]; simpa using h), (hp.map _).sum_eq, zero_add]

/-! ## `rows.Scan` into an `int64` -/

/-- `convertAssign` of a column value to an `int64`. -/
def scanInt64 (formatFloat : Int → String) : SqlValue → Except String Int
  | .integer v => .ok v
  | .real v =>
    if v.natAbs < 1000000 then .ok v
    else .error ("converting driver.Value type float64 (\"" ++ formatFloat v ++ "\") to a int64: invalid syntax")

theorem scanInt64_eq_ok {formatFloat : Int → String} {v : SqlValue} {n : Int} :
    scanInt64 formatFloat v = .ok n ↔ v.scans ∧ v.num = n := by
  rcases v with v | v
  · simp [scanInt64, SqlValue.scans, SqlValue.num]
  · by_cases h : v.natAbs < 1000000 <;> simp [scanInt64, SqlValue.scans, SqlValue.num, h]

end Shingo.Go
