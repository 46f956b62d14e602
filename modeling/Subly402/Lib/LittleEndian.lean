/-
# Little-endian integers

`from_le_bytes` beside the `to_le_bytes` of `Subly402.Lib.Bytes`, for unsigned and
for two's complement integers of eight bytes, and the round trips that a message
format rests on.
-/

import Subly402.Lib.Bytes

namespace Subly402
namespace Lib

/-- `from_le_bytes` of an unsigned integer. -/
def leNat : List UInt8 → ℕ
  | [] => 0
  | b :: bs => b.toNat + 256 * leNat bs

/-- An `i64` as the `u64` with the same bytes. -/
def i64Bits (x : ℤ) : ℕ := (x % 2 ^ 64).toNat

/-- The `i64` with the bytes of a `u64`. -/
def i64OfBits (n : ℕ) : ℤ := if n < 2 ^ 63 then n else (n : ℤ) - 2 ^ 64

/-- The width is the length. -/
@[simp]
theorem length_leBytes (width n : ℕ) : (leBytes width n).length = width := by
  simp [leBytes]

/-- The low byte comes first. -/
theorem leBytes_succ (width n : ℕ) :
    leBytes (width + 1) n = UInt8.ofNat (n % 256) :: leBytes width (n / 256) := by
  unfold leBytes
  rw [List.range_succ_eq_map, List.map_cons, List.map_map]
  refine congrArg₂ List.cons (by simp) (List.map_congr_left fun i _ => ?_)
  simp only [Function.comp_apply, Nat.succ_eq_add_one]
  rw [Nat.div_div_eq_div_mul, pow_succ']

/-- **An unsigned integer reads back**, up to what its width cannot hold. -/
theorem leNat_leBytes (width n : ℕ) : leNat (leBytes width n) = n % 256 ^ width := by
  induction width generalizing n with
  | zero => simp [leBytes, leNat, Nat.mod_one]
  | succ width ih =>
    have hbyte : (UInt8.ofNat (n % 256)).toNat = n % 256 := by simp
    rw [leBytes_succ, leNat, ih, hbyte, pow_succ', Nat.mod_mul]

/-- A `u64` is read back. -/
theorem leNat_leBytes_eight {n : ℕ} (h : n < 2 ^ 64) : leNat (leBytes 8 n) = n := by
  rw [leNat_leBytes]
  exact Nat.mod_eq_of_lt (by omega)

/-- A number is below `256 ^ length`. -/
theorem leNat_lt (bs : List UInt8) : leNat bs < 256 ^ bs.length := by
  induction bs with
  | nil => simp [leNat]
  | cons b bs ih =>
    have hb : b.toNat < 256 := b.toNat_lt
    rw [leNat, List.length_cons, pow_succ]
    omega

/-- **Bytes are those of the integer they make.** -/
theorem leBytes_leNat (bs : List UInt8) : leBytes bs.length (leNat bs) = bs := by
  induction bs with
  | nil => rfl
  | cons b bs ih =>
    have hb : b.toNat < 256 := b.toNat_lt
    have hmod : (b.toNat + 256 * leNat bs) % 256 = b.toNat := by omega
    have hdiv : (b.toNat + 256 * leNat bs) / 256 = leNat bs := by omega
    rw [List.length_cons, leBytes_succ, leNat, hmod, hdiv, ih, UInt8.ofNat_toNat]

/-- The bits of an `i64` fit 64. -/
theorem i64Bits_lt (x : ℤ) : i64Bits x < 2 ^ 64 := by
  unfold i64Bits
  omega

/-- **A signed integer reads back.** -/
theorem i64OfBits_i64Bits {x : ℤ} (hlo : -2 ^ 63 ≤ x) (hhi : x < 2 ^ 63) :
    i64OfBits (i64Bits x) = x := by
  unfold i64OfBits i64Bits
  split_ifs <;> omega

/-- Bits are read back. -/
theorem i64Bits_i64OfBits {n : ℕ} (h : n < 2 ^ 64) : i64Bits (i64OfBits n) = n := by
  unfold i64OfBits i64Bits
  split_ifs <;> omega

/-- Every 64 bits are an `i64`. -/
theorem i64OfBits_bounds {n : ℕ} (h : n < 2 ^ 64) :
    -2 ^ 63 ≤ i64OfBits n ∧ i64OfBits n < 2 ^ 63 := by
  unfold i64OfBits
  split_ifs <;> omega

end Lib
end Subly402
