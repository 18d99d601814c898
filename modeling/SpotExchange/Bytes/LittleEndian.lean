/-
Words in memory: their little-endian bytes, their readings as signed numbers, the bytes of
a buffer that a pointer writes one after the other, and the members of a structure that is
read out of a buffer.
-/

import Mathlib.Algebra.Order.Ring.Int
import Mathlib.Algebra.Order.Ring.Nat
import Mathlib.Data.List.Basic

namespace SpotExchange
namespace Bytes

/-! ### Words -/

/-- The lowest `size` bytes of a number, the lowest one first. -/
def littleEndian : Nat → Nat → List UInt8
  | 0, _ => []
  | size + 1, number => UInt8.ofNat number :: littleEndian size (number / 256)

def value : List UInt8 → Nat
  | [] => 0
  | byte :: rest => byte.toNat + 256 * value rest

@[simp]
theorem littleEndian_length (size number : Nat) : (littleEndian size number).length = size := by
  induction size generalizing number with
  | zero => rfl
  | succ size ih => simp only [littleEndian, List.length_cons, ih]

theorem value_littleEndian (size number : Nat) :
    value (littleEndian size number) = number % 256 ^ size := by
  induction size generalizing number with
  | zero => simp only [littleEndian, value, Nat.pow_zero, Nat.mod_one]
  | succ size ih =>
      have power : 256 ^ (size + 1) = 256 * 256 ^ size := by
        rw [Nat.pow_succ, Nat.mul_comm]
      rw [littleEndian, value, ih, UInt8.toNat_ofNat', power, Nat.mod_mul]

theorem value_of_lt {size number : Nat} (fits : number < 256 ^ size) :
    value (littleEndian size number) = number := by
  rw [value_littleEndian, Nat.mod_eq_of_lt fits]

theorem value_lt (bytes : List UInt8) : value bytes < 256 ^ bytes.length := by
  induction bytes with
  | nil => exact Nat.one_pos
  | cons byte rest ih =>
      have small := byte.toNat_lt
      rw [value, List.length_cons, Nat.pow_succ]
      omega

/-- The bytes of the number that some bytes are, taken as many, are these bytes. -/
theorem littleEndian_value (bytes : List UInt8) :
    littleEndian bytes.length (value bytes) = bytes := by
  induction bytes with
  | nil => rfl
  | cons byte rest ih =>
      have small := byte.toNat_lt
      have lowest : UInt8.ofNat (byte.toNat + 256 * value rest) = byte := by
        apply UInt8.toNat_inj.mp
        rw [UInt8.toNat_ofNat']
        omega
      have others : (byte.toNat + 256 * value rest) / 256 = value rest := by omega
      rw [value, List.length_cons, littleEndian, lowest, others, ih]

/-! ### Signed readings -/

theorem toInt64_toInt (word : UInt64) :
    word.toInt64.toInt =
      if word.toNat < 2 ^ 63 then (word.toNat : Int) else word.toNat - 2 ^ 64 := by
  have bits : word.toInt64.toInt = word.toBitVec.toInt := rfl
  have size : word.toBitVec.toNat = word.toNat := rfl
  rw [bits, BitVec.toInt_eq_toNat_cond, size]
  split <;> split <;> omega

theorem toInt32_toInt (word : UInt32) :
    word.toInt32.toInt =
      if word.toNat < 2 ^ 31 then (word.toNat : Int) else word.toNat - 2 ^ 32 := by
  have bits : word.toInt32.toInt = word.toBitVec.toInt := rfl
  have size : word.toBitVec.toNat = word.toNat := rfl
  rw [bits, BitVec.toInt_eq_toNat_cond, size]
  split <;> split <;> omega

/-- The lower half of the words are the numbers that are the same with a sign. -/
theorem toInt64_toInt_iff (word : UInt64) :
    word.toInt64.toInt = word.toNat ↔ word.toNat < 2 ^ 63 := by
  rw [toInt64_toInt]
  split <;> omega

theorem toInt32_toInt_iff (word : UInt32) :
    word.toInt32.toInt = word.toNat ↔ word.toNat < 2 ^ 31 := by
  rw [toInt32_toInt]
  split <;> omega

/-! ### Writing -/

/-- The bytes from a position on are overwritten; what does not fit is not written. -/
def overwrite (buffer : List UInt8) (position : Nat) : List UInt8 → List UInt8
  | [] => buffer
  | byte :: rest => overwrite (buffer.set position byte) (position + 1) rest

@[simp]
theorem overwrite_length (buffer : List UInt8) (position : Nat) (bytes : List UInt8) :
    (overwrite buffer position bytes).length = buffer.length := by
  induction bytes generalizing buffer position with
  | nil => rfl
  | cons byte rest ih => simp only [overwrite, ih, List.length_set]

/-- What is written where the front of a buffer ends follows that front. -/
theorem overwrite_append (front back bytes : List UInt8) (fits : bytes.length ≤ back.length) :
    overwrite (front ++ back) front.length bytes = front ++ bytes ++ back.drop bytes.length := by
  induction bytes generalizing front back with
  | nil => simp only [overwrite, List.length_nil, List.drop_zero, List.append_nil]
  | cons byte rest ih =>
      cases back with
      | nil => exact absurd fits (Nat.not_succ_le_zero rest.length)
      | cons first others =>
          have written : (front ++ first :: others).set front.length byte =
              (front ++ [byte]) ++ others := by
            rw [List.set_append_right _ _ (Nat.le_refl front.length), Nat.sub_self,
              List.set_cons_zero, List.append_assoc, List.singleton_append]
          have next : front.length + 1 = (front ++ [byte]).length := by
            rw [List.length_append, List.length_singleton]
          have small : rest.length ≤ others.length := Nat.le_of_succ_le_succ fits
          rw [overwrite, written, next, ih (front ++ [byte]) others small, List.length_cons,
            List.drop_succ_cons, List.append_assoc front [byte], List.singleton_append]

/-- A pointer into a buffer. -/
structure Cursor where
  buffer : List UInt8
  position : Nat

namespace Cursor

def put (cursor : Cursor) (bytes : List UInt8) : Cursor :=
  { buffer := overwrite cursor.buffer cursor.position bytes
    position := cursor.position + bytes.length }

/-- The pointer has written `written` over the start of `original`. -/
structure Wrote (original written : List UInt8) (cursor : Cursor) : Prop where
  buffer : cursor.buffer = written ++ original.drop written.length
  position : cursor.position = written.length

theorem wrote_nothing (original : List UInt8) :
    Wrote original []
      { buffer := original
        position := 0 } :=
  { buffer := rfl
    position := rfl }

theorem Wrote.put {original written bytes : List UInt8} {cursor : Cursor}
    (wrote : cursor.Wrote original written)
    (fits : written.length + bytes.length ≤ original.length) :
    (cursor.put bytes).Wrote original (written ++ bytes) := by
  have room : bytes.length ≤ (original.drop written.length).length := by
    rw [List.length_drop]
    omega
  constructor
  · simp only [Cursor.put, wrote.buffer, wrote.position]
    rw [overwrite_append _ _ _ room, List.drop_drop, List.length_append]
  · simp only [Cursor.put, wrote.position, List.length_append]

end Cursor

/-! ### Reading -/

/-- The bytes of a member, if the buffer has them. -/
def member (buffer : List UInt8) (offset size : Nat) : Option (List UInt8) :=
  if offset + size ≤ buffer.length then some ((buffer.drop offset).take size) else none

/-- The offsets of the members of a structure, each at a multiple of its size. -/
def offsets : Nat → List Nat → List Nat
  | _, [] => []
  | free, size :: rest =>
      let start := (free + size - 1) / size * size
      start :: offsets (start + size) rest

/-- All members of a structure that starts at `base`, if the buffer has each of them. -/
def members (buffer : List UInt8) (base : Nat) (sizes : List Nat) : Option (List (List UInt8)) :=
  (List.zip (offsets 0 sizes) sizes).mapM (fun field => member buffer (base + field.1) field.2)

/-- No padding stands in front of any of the members. -/
def unpadded : Nat → List Nat → Bool
  | _, [] => true
  | free, size :: rest => decide (0 < size ∧ size ∣ free) && unpadded (free + size) rest

theorem offset_of_dvd {free size : Nat} (positive : 0 < size) (divides : size ∣ free) :
    (free + size - 1) / size * size = free := by
  obtain ⟨count, rfl⟩ := divides
  have shifted : size * count + size - 1 = size - 1 + size * count := by omega
  have small : (size - 1) / size = 0 := Nat.div_eq_of_lt (by omega)
  rw [shifted, Nat.add_mul_div_left _ _ positive, small, Nat.zero_add, Nat.mul_comm]

theorem member_append (front bytes back : List UInt8) :
    member (front ++ bytes ++ back) front.length bytes.length = some bytes := by
  unfold member
  rw [if_pos]
  · rw [List.append_assoc, List.drop_left, List.take_left]
  · simp only [List.length_append]
    omega

theorem member_eq_none {buffer : List UInt8} {offset size : Nat}
    (short : buffer.length < offset + size) : member buffer offset size = none :=
  if_neg (Nat.not_le.mpr short)

/-- Members that are written one after the other without padding are read back. -/
theorem members_from {front back : List UInt8} {fields : List (List UInt8)} {base free : Nat}
    (start : front.length = base + free)
    (packed : unpadded free (fields.map List.length) = true) :
    (List.zip (offsets free (fields.map List.length)) (fields.map List.length)).mapM
        (fun field => member (front ++ fields.flatten ++ back) (base + field.1) field.2) =
      some fields := by
  induction fields generalizing front free with
  | nil => rfl
  | cons field rest ih =>
      simp only [List.map_cons, unpadded, Bool.and_eq_true, decide_eq_true_eq] at packed
      have here := offset_of_dvd packed.1.1 packed.1.2
      have next : (front ++ field).length = base + (free + field.length) := by
        rw [List.length_append]
        omega
      have whole : front ++ (field :: rest).flatten ++ back =
          front ++ field ++ (rest.flatten ++ back) := by
        simp only [List.flatten_cons, List.append_assoc]
      have shifted : front ++ field ++ (rest.flatten ++ back) =
          front ++ field ++ rest.flatten ++ back := by
        simp only [List.append_assoc]
      have first := member_append front field (rest.flatten ++ back)
      have others := ih next packed.2
      rw [start] at first
      rw [← shifted] at others
      simp only [whole, List.map_cons, offsets, here, List.zip_cons_cons, List.mapM_cons, first,
        others]
      rfl

theorem members_packed {front : List UInt8} {fields : List (List UInt8)} (back : List UInt8)
    (packed : unpadded 0 (fields.map List.length) = true) :
    members (front ++ fields.flatten ++ back) front.length (fields.map List.length) =
      some fields :=
  members_from (Nat.add_zero front.length).symm packed

theorem members_eq_none {buffer : List UInt8} {base size : Nat} (rest : List Nat)
    (short : buffer.length < base + size) : members buffer base (size :: rest) = none := by
  have past : buffer.length < base + ((0 + size - 1) / size * size) + size := by omega
  simp only [members, offsets, List.zip_cons_cons, List.mapM_cons, member_eq_none past]
  rfl

/-- All members lie within the first bytes. -/
def Within (base : Nat) (sizes : List Nat) (length : Nat) : Prop :=
  ∀ field ∈ List.zip (offsets 0 sizes) sizes, base + field.1 + field.2 ≤ length

instance (base : Nat) (sizes : List Nat) (length : Nat) : Decidable (Within base sizes length) :=
  inferInstanceAs (Decidable (∀ field ∈ List.zip (offsets 0 sizes) sizes, _))

theorem Within.mono {base length more : Nat} {sizes : List Nat} (inside : Within base sizes length)
    (atMost : length ≤ more) : Within base sizes more :=
  fun field member => Nat.le_trans (inside field member) atMost

theorem member_front {front : List UInt8} {offset size : Nat} (back : List UInt8)
    (inside : offset + size ≤ front.length) :
    member (front ++ back) offset size = member front offset size := by
  have insideBoth : offset + size ≤ (front ++ back).length := by
    rw [List.length_append]
    omega
  rw [member, member, if_pos inside, if_pos insideBoth, List.drop_append_of_le_length (by omega),
    List.take_append_of_le_length (by rw [List.length_drop]; omega)]

/-- What follows the bytes in which all members lie is not read. -/
theorem members_front {front : List UInt8} {base : Nat} {sizes : List Nat} (back : List UInt8)
    (inside : Within base sizes front.length) :
    members (front ++ back) base sizes = members front base sizes := by
  rw [Within] at inside
  rw [members, members]
  generalize List.zip (offsets 0 sizes) sizes = fields at inside
  induction fields with
  | nil => rfl
  | cons field rest ih =>
      have here := member_front back (inside field List.mem_cons_self)
      have later := ih (fun other member => inside other (List.mem_cons_of_mem field member))
      rw [List.mapM_cons, List.mapM_cons, here, later]

/-- Members that lie within a buffer are read. -/
theorem members_inside {buffer : List UInt8} {base : Nat} {sizes : List Nat}
    (inside : Within base sizes buffer.length) :
    ∃ fields, members buffer base sizes = some fields ∧
      fields.length = (List.zip (offsets 0 sizes) sizes).length := by
  rw [Within] at inside
  rw [members]
  generalize List.zip (offsets 0 sizes) sizes = places at inside
  induction places with
  | nil => exact ⟨[], rfl, rfl⟩
  | cons place rest ih =>
      obtain ⟨fields, found, length⟩ :=
        ih (fun other member => inside other (List.mem_cons_of_mem place member))
      have here := inside place List.mem_cons_self
      refine ⟨(buffer.drop (base + place.1)).take place.2 :: fields, ?_, ?_⟩
      · rw [List.mapM_cons, found, member, if_pos here]
        rfl
      · rw [List.length_cons, List.length_cons, length]

end Bytes
end SpotExchange
