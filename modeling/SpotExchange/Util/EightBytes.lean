/-
Names in eight bytes: the two encoders of a string and the two ways back, each of which
reads an array of eight characters.
-/

import SpotExchange.Bytes.Text

namespace SpotExchange
namespace Util

open Bytes

/-! ### Encoders -/

/-- The bytes of an array taken for a word. -/
def reinterpret (array : List UInt8) : UInt64 := UInt64.ofNat (value array)

def zeroed : List UInt8 := List.replicate 8 0

/-- The length of what is copied out of a string. -/
def copied (input : Text) : Nat := if 8 < input.length then 8 else input.length

/-- Copies up to the first zero of the source, and fills up with zeros. -/
def strncpy (array source : List UInt8) (count : Nat) : List UInt8 :=
  let front := untilNul (source.take count)
  overwrite array 0 (front ++ List.replicate (count - front.length) 0)

def convertStrToEightBytes (input : Text) : UInt64 :=
  reinterpret (overwrite zeroed 0 (input.take (copied input)))

def convertStrToTicker (input : Text) : UInt64 :=
  reinterpret (strncpy zeroed input (copied input))

/-! ### Decoders -/

/-- The string constructor looks for the end of the array's string; with no zero among the
eight bytes it reads behind them. -/
def convertEightBytesToString (bytes : UInt64) : Option Text :=
  cString (littleEndian 8 bytes.toNat)

structure ShortString where
  shortString : List UInt8
  eight : shortString.length = 8

namespace ShortString

def ofRepresentation (representation : UInt64) : ShortString :=
  { shortString := littleEndian 8 representation.toNat
    eight := littleEndian_length 8 representation.toNat }

/-- The loop of the printing, with so many rounds left. -/
def printFrom (array : List UInt8) : Nat → Nat → Option Text
  | 0, _ => some []
  | rounds + 1, i => do
      let byte ← array[i]?
      if byte = 0 then return []
      let rest ← printFrom array rounds (i + 1)
      return byte :: rest

def print (string : ShortString) : Option Text := printFrom string.shortString 8 0

end ShortString

/-! ### The array of a string -/

/-- A string's first eight characters, filled up with zeros. -/
def padded (input : Text) : List UInt8 :=
  input.take 8 ++ List.replicate (8 - input.length) 0

theorem padded_length (input : Text) : (padded input).length = 8 := by
  rw [padded, List.length_append, List.length_take, List.length_replicate]
  omega

theorem take_copied (input : Text) : input.take (copied input) = input.take 8 := by
  rw [copied]
  split
  · rfl
  · rw [List.take_length, List.take_of_length_le (by omega)]

theorem overwrite_zeroed {bytes : List UInt8} (fits : bytes.length ≤ 8) :
    overwrite zeroed 0 bytes = bytes ++ List.replicate (8 - bytes.length) 0 := by
  have room : bytes.length ≤ zeroed.length := fits
  have written := overwrite_append [] zeroed bytes room
  rw [List.nil_append, List.length_nil, List.nil_append] at written
  rw [written, zeroed, List.drop_replicate]

theorem overwrite_take (input : Text) : overwrite zeroed 0 (input.take 8) = padded input := by
  have fits : (input.take 8).length ≤ 8 := List.length_take_le 8 input
  have zeros : 8 - (input.take 8).length = 8 - input.length := by
    rw [List.length_take]
    omega
  rw [overwrite_zeroed fits, zeros, padded]

theorem convertStrToEightBytes_eq (input : Text) :
    convertStrToEightBytes input = reinterpret (padded input) := by
  rw [convertStrToEightBytes, take_copied, overwrite_take]

/-- The bytes of a word that an array was taken for are the array's. -/
theorem littleEndian_reinterpret {array : List UInt8} (eight : array.length = 8) :
    littleEndian 8 (reinterpret array).toNat = array := by
  have fits : value array < 2 ^ 64 := by
    have small := value_lt array
    rw [eight] at small
    exact small
  have same : (reinterpret array).toNat = value array := by
    rw [reinterpret, UInt64.toNat_ofNat', Nat.mod_eq_of_lt fits]
  rw [same, ← eight]
  exact littleEndian_value array

/-! ### Names -/

section Names

variable {name other : Text}

theorem convertStrToTicker_eq (noNul : NoNul name) :
    convertStrToTicker name = convertStrToEightBytes name := by
  have all : untilNul (name.take (copied name)) = name.take (copied name) := by
    have ends := untilNul_padded (noNul.take (copied name)) 0
    rwa [List.replicate_zero, List.append_nil] at ends
  have none : copied name - (name.take (copied name)).length = 0 := by
    rw [List.length_take, copied]
    split <;> omega
  simp only [convertStrToTicker, convertStrToEightBytes, strncpy, all, none,
    List.replicate_zero, List.append_nil]

theorem convertStrToEightBytes_injective (noNul : NoNul name) (noNulOther : NoNul other)
    (short : name.length ≤ 8) (shortOther : other.length ≤ 8)
    (same : convertStrToEightBytes name = convertStrToEightBytes other) : name = other := by
  rw [convertStrToEightBytes_eq, convertStrToEightBytes_eq] at same
  have arrays : padded name = padded other := by
    rw [← littleEndian_reinterpret (padded_length name), same,
      littleEndian_reinterpret (padded_length other)]
  rw [padded, padded, List.take_of_length_le short, List.take_of_length_le shortOther] at arrays
  exact padded_injective noNul noNulOther arrays

/-- The loop prints an array up to its first zero, and stops at its end. -/
theorem printFrom_eq (front back : List UInt8) :
    ShortString.printFrom (front ++ back) back.length front.length = some (untilNul back) := by
  induction back generalizing front with
  | nil => rfl
  | cons byte rest ih =>
      have here : (front ++ byte :: rest)[front.length]? = some byte := by
        rw [List.getElem?_append_right (Nat.le_refl front.length), Nat.sub_self]
        rfl
      have later := ih (front ++ [byte])
      rw [List.append_assoc, List.singleton_append, List.length_append, List.length_singleton]
        at later
      rw [List.length_cons, ShortString.printFrom, here, untilNul]
      by_cases zero : byte = 0
      · simp only [zero, Option.bind_eq_bind, Option.bind_some, if_true]
        rfl
      · simp only [zero, Option.bind_eq_bind, Option.bind_some, if_false, later]
        rfl

theorem print_convertStrToEightBytes (noNul : NoNul name) :
    (ShortString.ofRepresentation (convertStrToEightBytes name)).print = some (name.take 8) := by
  have array : littleEndian 8 (convertStrToEightBytes name).toNat = padded name := by
    rw [convertStrToEightBytes_eq, littleEndian_reinterpret (padded_length name)]
  have loop := printFrom_eq [] (padded name)
  rw [padded_length, List.nil_append, List.length_nil, padded, untilNul_padded (noNul.take 8),
    ← padded] at loop
  simp only [ShortString.print, ShortString.ofRepresentation, array]
  exact loop

/-- The eighth character takes the place of the zero that would end the string. -/
theorem convertEightBytesToString_eq (noNul : NoNul name) :
    convertEightBytesToString (convertStrToEightBytes name) =
      if name.length < 8 then some (name.take 8) else none := by
  rw [convertEightBytesToString, convertStrToEightBytes_eq,
    littleEndian_reinterpret (padded_length name), padded]
  split
  · exact cString_padded (noNul.take 8) (by omega)
  · rw [show 8 - name.length = 0 by omega, List.replicate_zero, List.append_nil]
    exact cString_unended (noNul.take 8)

/-- A name is encoded alike on both sides, differently from every other one that fits, and
comes back in both ways. -/
structure Survives (name : Text) : Prop where
  agree : convertStrToTicker name = convertStrToEightBytes name
  apart : ∀ other, NoNul other → name.length ≤ 8 → other.length ≤ 8 →
    convertStrToEightBytes other = convertStrToEightBytes name → other = name
  read : convertEightBytesToString (convertStrToEightBytes name) = some (name.take 8)
  printed : (ShortString.ofRepresentation (convertStrToEightBytes name)).print =
    some (name.take 8)

/-- The names that survive are those that leave room for a zero. -/
theorem survives_iff_short (noNul : NoNul name) : Survives name ↔ name.length < 8 := by
  constructor
  · intro survives
    by_contra full
    have read := survives.read
    rw [convertEightBytesToString_eq noNul, if_neg full] at read
    exact absurd read (Option.some_ne_none (name.take 8)).symm
  · intro short
    exact
      { agree := convertStrToTicker_eq noNul
        apart := by
          intro other noNulOther fits fitsOther same
          exact convertStrToEightBytes_injective noNulOther noNul fitsOther fits same
        read := by
          rw [convertEightBytesToString_eq noNul, if_pos short]
        printed := print_convertStrToEightBytes noNul }

end Names

theorem survives_iff_short_aapl :
    NoNul (literal "AAPL") ∧ (Survives (literal "AAPL") ↔ (literal "AAPL").length < 8) :=
  ⟨by decide +kernel, survives_iff_short (by decide +kernel)⟩

/-- Eight characters leave no room. -/
theorem eight_characters_do_not_survive :
    NoNul (literal "ABCDEFGH") ∧ ¬Survives (literal "ABCDEFGH") := by
  have noNul : NoNul (literal "ABCDEFGH") := by decide +kernel
  refine ⟨noNul, ?_⟩
  intro survives
  have read := survives.read
  rw [convertEightBytesToString_eq noNul, if_neg (by decide)] at read
  cases read

end Util
end SpotExchange
