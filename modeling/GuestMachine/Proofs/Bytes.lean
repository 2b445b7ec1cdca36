import GuestMachine.Bytes
import Mathlib.Algebra.Group.Nat.Defs

/-!
# Little-endian numbers

Byte strings of one length and the numbers below the matching power of 256 stand for each other.
-/

namespace GuestMachine.Bytes

/-- What holds of the numbers below 256 holds of every byte. -/
theorem forall_byte {P : UInt8 → Prop} (all : ∀ n < 256, P (UInt8.ofNat n)) (b : UInt8) : P b := by
  have this := all b.toNat b.toNat_lt
  rwa [UInt8.ofNat_toNat] at this

theorem value_lt (bytes : Bytes) : value bytes < 256 ^ bytes.length := by
  induction bytes with
  | nil => exact Nat.one_pos
  | cons b rest ih =>
    have small : b.toNat < 256 := b.toNat_lt
    rw [value, List.length_cons, Nat.pow_succ]
    omega

/-- The low bytes of a number spell the number modulo their range. -/
theorem value_ofNat (count n : Nat) : value (ofNat count n) = n % 256 ^ count := by
  induction count generalizing n with
  | zero => simp [ofNat, value, Nat.mod_one]
  | succ count ih =>
    have low : (UInt8.ofNat n).toNat = n % 256 := UInt8.toNat_ofNat
    rw [ofNat, value, ih, low, Nat.pow_succ, Nat.mul_comm (256 ^ count), Nat.mod_mul]

/-- A byte string is the low bytes of the number that it spells. -/
theorem ofNat_value (bytes : Bytes) : ofNat bytes.length (value bytes) = bytes := by
  induction bytes with
  | nil => rfl
  | cons b rest ih =>
    have small : b.toNat < 256 := b.toNat_lt
    have low : UInt8.ofNat (b.toNat + 256 * value rest) = b := by
      apply UInt8.toNat_inj.mp
      show (b.toNat + 256 * value rest) % 256 = b.toNat
      omega
    have high : (b.toNat + 256 * value rest) / 256 = value rest := by omega
    rw [value, List.length_cons, ofNat, low, high, ih]

/-- Byte `i` of a number, the least significant first. -/
def digit (n i : Nat) : UInt8 := UInt8.ofNat (n / 256 ^ i)

theorem getElem?_ofNat (count n i : Nat) :
    (ofNat count n)[i]? = if i < count then some (digit n i) else none := by
  induction count generalizing n i with
  | zero => simp [ofNat]
  | succ count ih =>
    cases i with
    | zero => simp [ofNat, digit]
    | succ i =>
      rw [ofNat, List.getElem?_cons_succ, ih, digit, digit, Nat.div_div_eq_div_mul,
        ← Nat.pow_succ']
      simp

theorem take_ofNat {k count : Nat} (le : k ≤ count) (n : Nat) :
    (ofNat count n).take k = ofNat k n := by
  apply List.ext_getElem?
  intro i
  rw [List.getElem?_take, getElem?_ofNat, getElem?_ofNat]
  by_cases inside : i < k
  · rw [if_pos inside, if_pos inside, if_pos (Nat.lt_of_lt_of_le inside le)]
  · rw [if_neg inside, if_neg inside]

/-- The bytes of the number that a byte string spells are those of the string. -/
theorem getElem?_eq_digit {bytes : Bytes} {i : Nat} (inside : i < bytes.length) :
    bytes[i]? = some (digit (value bytes) i) := by
  have spelled := getElem?_ofNat bytes.length (value bytes) i
  rwa [ofNat_value, if_pos inside] at spelled

theorem length_ofWord (w : UInt64) : (ofWord w).length = 8 := length_ofNat 8 w.toNat

theorem toWord_ofWord (w : UInt64) : toWord (ofWord w) = w := by
  have small : w.toNat < 256 ^ 8 := w.toNat_lt
  rw [toWord, ofWord, value_ofNat, Nat.mod_eq_of_lt small]
  exact UInt64.ofNat_toNat

theorem toNat_toWord {bytes : Bytes} (short : bytes.length ≤ 8) :
    (toWord bytes).toNat = value bytes := by
  have small : value bytes < 256 ^ 8 :=
    Nat.lt_of_lt_of_le bytes.value_lt (Nat.pow_le_pow_right (by decide) short)
  exact UInt64.toNat_ofNat_of_lt small

theorem ofWord_toWord {bytes : Bytes} (h : bytes.length = 8) : ofWord (toWord bytes) = bytes := by
  have back := ofNat_value bytes
  rw [h] at back
  rw [ofWord, toNat_toWord (Nat.le_of_eq h), back]

end GuestMachine.Bytes
