/-
Counters that run around a ring. A counter that is never reset is kept in a word, and its
place in the ring is read off its low bits; within one lap, places tell counters apart.
-/

import Mathlib.Data.Nat.ModEq
import Mathlib.Algebra.Order.Ring.Nat

namespace SpotExchange
namespace Collections

/-- Counters of one lap that are at one place are the same. -/
theorem same_lap {start size first second : Nat} (firstFrom : start ≤ first)
    (firstTo : first < start + size) (secondFrom : start ≤ second)
    (secondTo : second < start + size) (place : first % size = second % size) :
    first = second := by
  rcases Nat.le_total first second with before | after
  · have divides := (Nat.modEq_iff_dvd' before).mp place
    have none := Nat.eq_zero_of_dvd_of_lt divides (by omega)
    omega
  · have divides := (Nat.modEq_iff_dvd' after).mp place.symm
    have none := Nat.eq_zero_of_dvd_of_lt divides (by omega)
    omega

/-- The mask of a power of two leaves the place of a counter that has been kept in a
word. -/
theorem toNat_and_mask {bits : Nat} (bounded : bits < 64) (counter : Nat) :
    (UInt64.ofNat counter &&& (UInt64.ofNat (2 ^ bits) - 1)).toNat = counter % 2 ^ bits := by
  have positive : 0 < 2 ^ bits := Nat.two_pow_pos bits
  have small : 2 ^ bits < 2 ^ 64 := Nat.pow_lt_pow_right (by decide) bounded
  have divides : 2 ^ bits ∣ 2 ^ 64 := Nat.pow_dvd_pow 2 (Nat.le_of_lt bounded)
  have size : (UInt64.ofNat (2 ^ bits)).toNat = 2 ^ bits := by
    rw [UInt64.toNat_ofNat']
    exact Nat.mod_eq_of_lt small
  have mask : (UInt64.ofNat (2 ^ bits) - 1).toNat = 2 ^ bits - 1 := by
    have least : (1 : UInt64) ≤ UInt64.ofNat (2 ^ bits) := by
      rw [UInt64.le_iff_toNat_le, size]
      exact positive
    rw [UInt64.toNat_sub_of_le _ _ least, size]
    rfl
  rw [UInt64.toNat_and, mask, Nat.and_two_pow_sub_one_eq_mod, UInt64.toNat_ofNat']
  exact Nat.mod_mod_of_dvd counter divides

end Collections
end SpotExchange
