import Jrok.Imperative.Loop
import Mathlib.Algebra.Group.Nat.Defs

/-!
# Big-endian integers

Two and four bytes read as an integer with the most significant byte first, and an integer written
that way.
-/

namespace BigEndian

open Imperative

/-- `u16::from_be_bytes`. -/
def u16 (a b : UInt8) : UInt16 := .ofNat (a.toNat * 256 + b.toNat)

/-- `u32::from_be_bytes`. -/
def u32 (a b c d : UInt8) : UInt32 :=
  .ofNat (((a.toNat * 256 + b.toNat) * 256 + c.toNat) * 256 + d.toNat)

/-- `u16::to_be_bytes`. -/
def bytes16 (n : UInt16) : List UInt8 := [.ofNat (n.toNat / 256), .ofNat n.toNat]

/-- `u32::to_be_bytes`. -/
def bytes32 (n : UInt32) : List UInt8 :=
  [.ofNat (n.toNat / 256 ^ 3), .ofNat (n.toNat / 256 ^ 2), .ofNat (n.toNat / 256), .ofNat n.toNat]

/-- The two bytes of an array from `i`. -/
def u16At (xs : List UInt8) (i : Nat) : Exec UInt16 := do
  return u16 (← index xs i) (← index xs (i + 1))

/-- The four bytes of an array from `i`. -/
def u32At (xs : List UInt8) (i : Nat) : Exec UInt32 := do
  return u32 (← index xs i) (← index xs (i + 1)) (← index xs (i + 2)) (← index xs (i + 3))

@[simp] theorem length_bytes16 (n : UInt16) : (bytes16 n).length = 2 := rfl

@[simp] theorem length_bytes32 (n : UInt32) : (bytes32 n).length = 4 := rfl

theorem u16_bytes16 (n : UInt16) : u16 (.ofNat (n.toNat / 256)) (.ofNat n.toNat) = n := by
  apply UInt16.toNat_inj.mp
  have hn : n.toNat < 65536 := n.toNat_lt
  simp only [u16, UInt16.toNat_ofNat', UInt8.toNat_ofNat']
  omega

theorem bytes16_u16 (a b : UInt8) : bytes16 (u16 a b) = [a, b] := by
  have ha : a.toNat < 256 := a.toNat_lt
  have hb : b.toNat < 256 := b.toNat_lt
  have hlt : a.toNat * 256 + b.toNat < 65536 := by omega
  have hn : (u16 a b).toNat = a.toNat * 256 + b.toNat := UInt16.toNat_ofNat_of_lt' hlt
  have hhi : (a.toNat * 256 + b.toNat) / 256 = a.toNat := by omega
  have hlo : (a.toNat * 256 + b.toNat) % 256 = b.toNat := by omega
  have hfirst : UInt8.ofNat ((a.toNat * 256 + b.toNat) / 256) = a := by
    rw [hhi, UInt8.ofNat_toNat]
  have hsecond : UInt8.ofNat (a.toNat * 256 + b.toNat) = b := by
    apply UInt8.toNat_inj.mp
    rw [UInt8.toNat_ofNat']
    exact hlo
  rw [bytes16, hn, hfirst, hsecond]

theorem u16At_of_lt {xs : List UInt8} {i : Nat} (h : i + 1 < xs.length) :
    ∃ n, u16At xs i = .ok n := by
  unfold u16At
  rw [index_of_lt (by omega : i < xs.length), index_of_lt h]
  exact ⟨_, rfl⟩

theorem u16At_of_le {xs : List UInt8} {i : Nat} (h : xs.length ≤ i + 1) :
    u16At xs i = .panic := by
  unfold u16At
  by_cases hi : i < xs.length
  · rw [index_of_lt hi, index_of_le h]
    rfl
  · rw [index_of_le (Nat.le_of_not_lt hi)]
    rfl

theorem u32At_of_lt {xs : List UInt8} {i : Nat} (h : i + 3 < xs.length) :
    ∃ n, u32At xs i = .ok n := by
  unfold u32At
  rw [index_of_lt (by omega : i < xs.length), index_of_lt (by omega : i + 1 < xs.length),
    index_of_lt (by omega : i + 2 < xs.length), index_of_lt h]
  exact ⟨_, rfl⟩

theorem u16At_append {front xs : List UInt8} {i : Nat} :
    u16At (front ++ xs) (front.length + i) = u16At xs i := by
  unfold u16At
  rw [Nat.add_assoc, index_append, index_append]

theorem u16At_append_left {xs rest : List UInt8} {i : Nat} (h : i + 1 < xs.length) :
    u16At (xs ++ rest) i = u16At xs i := by
  unfold u16At
  rw [index_append_left (by omega : i < xs.length), index_append_left h]

theorem u32At_append_left {xs rest : List UInt8} {i : Nat} (h : i + 3 < xs.length) :
    u32At (xs ++ rest) i = u32At xs i := by
  unfold u32At
  rw [index_append_left (by omega : i < xs.length), index_append_left (by omega : i + 1 < xs.length),
    index_append_left (by omega : i + 2 < xs.length), index_append_left h]

theorem u16At_take {xs : List UInt8} {n i : Nat} (h : i + 1 < n) :
    u16At (xs.take n) i = u16At xs i := by
  unfold u16At
  rw [index_take (by omega : i < n), index_take h]

theorem u32At_take {xs : List UInt8} {n i : Nat} (h : i + 3 < n) :
    u32At (xs.take n) i = u32At xs i := by
  unfold u32At
  rw [index_take (by omega : i < n), index_take (by omega : i + 1 < n),
    index_take (by omega : i + 2 < n), index_take h]

theorem u16At_drop {xs : List UInt8} {start i : Nat} :
    u16At (xs.drop start) i = u16At xs (start + i) := by
  unfold u16At
  rw [index_drop, index_drop, Nat.add_assoc]

/-- Reading what was written, whatever stands around it. -/
theorem u16At_bytes16 (front : List UInt8) {rest : List UInt8} {n : UInt16} :
    u16At (front ++ (bytes16 n ++ rest)) front.length = .ok n := by
  have hread : u16At (bytes16 n ++ rest) 0 = .ok n := by
    unfold bytes16 u16At
    rw [List.cons_append, List.cons_append]
    simp only [index, List.getElem?_cons_zero, List.getElem?_cons_succ, Exec.ok_bind, Nat.zero_add,
      Exec.pure_eq_ok, u16_bytes16]
  exact u16At_append.trans hread

end BigEndian
