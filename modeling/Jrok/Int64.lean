import Mathlib.Algebra.Group.Nat.Defs
import Mathlib.Algebra.Ring.Int.Defs
import Mathlib.Data.Int.Order.Basic

/-!
# 64-bit integers

Values of Rust's `i64` are integers in `[-2^63, 2^63)`, values of `u64` are `UInt64`. Casts
between the two and `i64` arithmetic wrap, as in a release build.
-/

namespace Jrok

/-- The `i64` with the same low 64 bits. -/
def i64 (x : Int) : Int := Int.bmod x (2 ^ 64)

/-- `x as i64` of a `u64`. -/
def u64AsI64 (x : UInt64) : Int := i64 x.toNat

/-- `x as u64` of an `i64`. -/
def i64AsU64 (x : Int) : UInt64 := UInt64.ofInt x

/-- `a - b` on `i64`. -/
def subI64 (a b : Int) : Int := i64 (a - b)

/-- `a + b` on `i64`. -/
def addI64 (a b : Int) : Int := i64 (a + b)

/-- An operation with this result does not overflow. -/
def FitsI64 (x : Int) : Prop := -2 ^ 63 ≤ x ∧ x < 2 ^ 63

theorem i64_of_range {x : Int} (hlo : -2 ^ 63 ≤ x) (hhi : x < 2 ^ 63) : i64 x = x :=
  Int.bmod_eq_of_le_mul_two (by omega) (by omega)

theorem subI64_of_range {a b : Int} (hlo : -2 ^ 63 ≤ a - b) (hhi : a - b < 2 ^ 63) :
    subI64 a b = a - b :=
  i64_of_range hlo hhi

theorem i64_fits (x : Int) : FitsI64 (i64 x) := by
  have hlo := @Int.le_bmod x (2 ^ 64) (by decide)
  have hhi := @Int.bmod_lt x (2 ^ 64) (by decide)
  unfold FitsI64 i64
  constructor
  · exact hlo
  · exact hhi

/-- Casting an `i64` to `u64` and back gives it back. -/
theorem u64AsI64_i64AsU64 {x : Int} (hlo : -2 ^ 63 ≤ x) (hhi : x < 2 ^ 63) :
    u64AsI64 (i64AsU64 x) = x := by
  have hmod : ((UInt64.ofInt x).toNat : Int) = x % ((2 ^ 64 : Nat) : Int) := by
    simp [UInt64.ofInt]
    omega
  unfold u64AsI64 i64AsU64 i64
  rw [hmod, Int.emod_bmod]
  exact i64_of_range hlo hhi

theorem u64AsI64_of_lt {x : UInt64} (h : x.toNat < 2 ^ 63) : u64AsI64 x = x.toNat :=
  i64_of_range (by omega) (by omega)

/-- The upper half of `u64` turns negative. -/
theorem u64AsI64_of_le {x : UInt64} (h : 2 ^ 63 ≤ x.toNat) : u64AsI64 x = x.toNat - 2 ^ 64 := by
  have hx := x.toNat_lt
  have hshift : i64 (x.toNat - 2 ^ 64) = i64 x.toNat := Int.sub_bmod_right _ _
  unfold u64AsI64
  rw [← hshift]
  exact i64_of_range (by omega) (by omega)

/-! ## Cutoffs

`now - timeout_ms as i64`: the casts and the subtraction wrap together. -/

theorem subI64_u64AsI64 (a : Int) (x : UInt64) : subI64 a (u64AsI64 x) = i64 (a - x.toNat) := by
  simp only [subI64, u64AsI64, i64, Int.sub_bmod_bmod]

/-- The cutoff is exact unless the timeout exceeds the time by more than `2^63`. -/
theorem cutoff_exact {now : Int} {timeout : UInt64} (hlo : 0 ≤ now) (hhi : now < 2 ^ 63)
    (h : timeout.toNat ≤ 2 ^ 63 + now) : subI64 now (u64AsI64 timeout) = now - timeout.toNat := by
  rw [subI64_u64AsI64]
  exact i64_of_range (by omega) (by omega)

/-- Otherwise it lies in the future. -/
theorem cutoff_future {now : Int} {timeout : UInt64} (hlo : 0 ≤ now) (hhi : now < 2 ^ 63)
    (h : 2 ^ 63 + now < timeout.toNat) : now < subI64 now (u64AsI64 timeout) := by
  have hT := timeout.toNat_lt
  have hwrap : i64 (now - timeout.toNat) = now - timeout.toNat + 2 ^ 64 := by
    have hshift : i64 (now - timeout.toNat + 2 ^ 64) = i64 (now - timeout.toNat) :=
      Int.add_bmod_right _ _
    rw [← hshift]
    exact i64_of_range (by omega) (by omega)
  rw [subI64_u64AsI64, hwrap]
  omega

end Jrok
