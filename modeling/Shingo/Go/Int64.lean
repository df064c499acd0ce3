import Mathlib.Algebra.Ring.Int.Defs
import Mathlib.Tactic.Basic
/-
  Shingo.Go.Int64 — Go's `int64` as the PLC counter arithmetic of package `plc`
  (`shingo-edge/www/handlers_manual_order.go`) uses it.

  A value is an integer in `[-2^63, 2^63)`, and the range is a field of the structure, so
  no out-of-range value can be built. `+` and `-` wrap as Go's do (two's complement, no
  panic); the comparisons are on the integer. `val_of_fits`: an operation whose exact
  result is in range returns that result; `wrap_add_wrap`: a wrap in the middle of a sum
  does not change the wrapped total.
-/

namespace Shingo.Go

/-- Two's-complement wrap onto `int64`. -/
def wrap (x : Int) : Int := (x + 9223372036854775808) % 18446744073709551616 - 9223372036854775808

theorem wrap_of_fits {x : Int} (h1 : -9223372036854775808 ≤ x) (h2 : x < 9223372036854775808) :
    wrap x = x := by
  unfold wrap; omega

theorem wrap_add_wrap (x y : Int) : wrap (wrap x + y) = wrap (x + y) := by
  unfold wrap; omega

structure Int64 where
  val : Int
  ge_min : -9223372036854775808 ≤ val
  lt_max : val < 9223372036854775808

namespace Int64

/-- `int64(x)` of an exact integer: the wrapped value. -/
def ofInt (x : Int) : Int64 := ⟨wrap x, by unfold wrap; omega, by unfold wrap; omega⟩

instance (n : Nat) : OfNat Int64 n := ⟨ofInt n⟩
instance : Add Int64 := ⟨fun a b => ofInt (a.val + b.val)⟩
instance : Sub Int64 := ⟨fun a b => ofInt (a.val - b.val)⟩
instance : LT Int64 := ⟨fun a b => a.val < b.val⟩
instance : LE Int64 := ⟨fun a b => a.val ≤ b.val⟩

theorem ext {a b : Int64} (h : a.val = b.val) : a = b := by
  cases a; cases b; cases h; rfl

theorem eq_iff {a b : Int64} : a = b ↔ a.val = b.val := ⟨fun h => h ▸ rfl, ext⟩

instance : DecidableEq Int64 := fun _ _ => decidable_of_iff _ eq_iff.symm
instance (a b : Int64) : Decidable (a < b) := inferInstanceAs (Decidable (a.val < b.val))
instance (a b : Int64) : Decidable (a ≤ b) := inferInstanceAs (Decidable (a.val ≤ b.val))

@[simp] theorem val_ofInt (x : Int) : (ofInt x).val = wrap x := rfl
theorem val_ofNat (n : Nat) : (no_index (OfNat.ofNat n : Int64)).val = wrap n := rfl
@[simp] theorem val_zero : (0 : Int64).val = 0 := rfl
@[simp] theorem val_one : (1 : Int64).val = 1 := rfl
@[simp] theorem val_add (a b : Int64) : (a + b).val = wrap (a.val + b.val) := rfl
@[simp] theorem val_sub (a b : Int64) : (a - b).val = wrap (a.val - b.val) := rfl
@[simp] theorem lt_iff (a b : Int64) : a < b ↔ a.val < b.val := Iff.rfl
@[simp] theorem le_iff (a b : Int64) : a ≤ b ↔ a.val ≤ b.val := Iff.rfl

theorem val_of_fits (a : Int64) {x : Int} (h : a.val = wrap x) (h1 : -9223372036854775808 ≤ x)
    (h2 : x < 9223372036854775808) : a.val = x := by
  rw [h, wrap_of_fits h1 h2]

end Int64

end Shingo.Go
