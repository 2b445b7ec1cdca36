import GuestMachine.Width
import Mathlib.Data.Nat.Bitwise

/-!
# Words as numbers

The low bits of a word stand for an unsigned number and for a signed one in two's complement.
Truncation, the sign bit and sign extension are said in terms of these numbers, and so are sums
and differences modulo the range of a width.
-/

namespace GuestMachine.Width

/-- How many values a width has. -/
def range (w : Width) : Nat := 2 ^ w.bits

/-- The middle of the range, from which on a word is negative. -/
def half (w : Width) : Nat := 2 ^ (w.bits - 1)

/-- The low bits of a word as an unsigned number. -/
def unsigned (w : Width) (a : UInt64) : Nat := a.toNat % w.range

/-- The low bits of a word as a number in two's complement. -/
def signed (w : Width) (a : UInt64) : Int :=
  if w.unsigned a < w.half then w.unsigned a else w.unsigned a - w.range

/-- The number can be written in two's complement. -/
def Fits (w : Width) (n : Int) : Prop := -w.half ≤ n ∧ n < w.half

instance (w : Width) (n : Int) : Decidable (w.Fits n) := inferInstanceAs (Decidable (_ ∧ _))

variable {w : Width} {a : UInt64}

theorem range_eq (w : Width) : w.range = 2 * w.half := by cases w <;> rfl

theorem range_eq_pow (w : Width) : w.range = 256 ^ w.bytes := by cases w <;> rfl

/-- Every range divides that of the whole word. -/
theorem range_dvd (w : Width) : w.range ∣ 2 ^ 64 := by cases w <;> decide

theorem unsigned_lt (w : Width) (a : UInt64) : w.unsigned a < w.range :=
  Nat.mod_lt _ (Nat.two_pow_pos _)

theorem unsigned_zero (w : Width) : w.unsigned 0 = 0 := by cases w <;> rfl

theorem unsigned_one (w : Width) : w.unsigned 1 = 1 := by cases w <;> rfl

theorem signed_zero (w : Width) : w.signed 0 = 0 := by cases w <;> rfl

theorem signed_one (w : Width) : w.signed 1 = 1 := by cases w <;> rfl

theorem natCast_unsigned (w : Width) (a : UInt64) : (w.unsigned a : Int) = a.toNat % w.range :=
  Int.natCast_emod _ _

theorem toNat_mask (w : Width) : w.mask.toNat = 2 ^ w.bits - 1 := by cases w <;> rfl

theorem toNat_signBit (w : Width) : w.signBit.toNat = 2 ^ (w.bits - 1) := by cases w <;> rfl

@[simp] theorem toNat_truncate (w : Width) (a : UInt64) :
    (w.truncate a).toNat = w.unsigned a := by
  rw [truncate, UInt64.toNat_and, toNat_mask, Nat.and_two_pow_sub_one_eq_mod, unsigned, range]

@[simp] theorem unsigned_truncate (w : Width) (a : UInt64) :
    w.unsigned (w.truncate a) = w.unsigned a := by
  rw [unsigned, toNat_truncate, Nat.mod_eq_of_lt (w.unsigned_lt a)]

theorem truncate_eq_zero_iff : w.truncate a = 0 ↔ w.unsigned a = 0 := by
  rw [← UInt64.toNat_inj, toNat_truncate]
  rfl

theorem truncate_qword (a : UInt64) : qword.truncate a = a := by
  apply UInt64.toNat_inj.mp
  rw [toNat_truncate]
  exact Nat.mod_eq_of_lt a.toNat_lt

@[simp] theorem truncate_truncate (w : Width) (a : UInt64) :
    w.truncate (w.truncate a) = w.truncate a := by
  apply UInt64.toNat_inj.mp
  simp

@[simp] theorem signed_truncate (w : Width) (a : UInt64) :
    w.signed (w.truncate a) = w.signed a := by
  simp [signed]

/-! ## Single bits -/

/-- Testing a word against a power of two reads one bit. -/
theorem and_ne_zero_eq_testBit {mask : UInt64} {i : Nat} (power : mask.toNat = 2 ^ i)
    (a : UInt64) : (a &&& mask != 0) = a.toNat.testBit i := by
  have bits : (a &&& mask).toNat = (a.toNat.testBit i).toNat * 2 ^ i := by
    rw [UInt64.toNat_and, power, Nat.and_two_pow]
  have zero : a &&& mask = 0 ↔ (a &&& mask).toNat = 0 := by
    rw [← UInt64.toNat_inj, UInt64.toNat_zero]
  cases bit : a.toNat.testBit i <;> simp [zero, bits, bit]

theorem isNegative_eq_testBit (w : Width) (a : UInt64) :
    w.isNegative a = a.toNat.testBit (w.bits - 1) :=
  and_ne_zero_eq_testBit w.toNat_signBit a

theorem isNegative_and (w : Width) (a b : UInt64) :
    w.isNegative (a &&& b) = (w.isNegative a && w.isNegative b) := by
  simp [isNegative_eq_testBit]

theorem isNegative_xor (w : Width) (a b : UInt64) :
    w.isNegative (a ^^^ b) = (w.isNegative a ^^ w.isNegative b) := by
  simp [isNegative_eq_testBit]

/-- Every width holds the low eight bits. -/
theorem testBit_unsigned (w : Width) (a : UInt64) {i : Nat} (low : i < 8) :
    (w.unsigned a).testBit i = a.toNat.testBit i := by
  have inside : i < w.bits := Nat.lt_of_lt_of_le low (by cases w <;> decide)
  simp [unsigned, range, Nat.testBit_mod_two_pow, inside]

/-- The sign bit tells whether the low bits lie in the upper half of the range. -/
theorem isNegative_eq_decide (w : Width) (a : UInt64) :
    w.isNegative a = decide (w.half ≤ w.unsigned a) := by
  rw [isNegative_eq_testBit, Nat.testBit_eq_decide_div_mod_eq, unsigned, decide_eq_decide]
  cases w <;> simp only [range, half, bits, bytes] <;> omega

@[simp] theorem isNegative_truncate (w : Width) (a : UInt64) :
    w.isNegative (w.truncate a) = w.isNegative a := by
  simp [isNegative_eq_decide]

/-- A word in the lower half of the range stands for its unsigned number, and one in the upper half
for a negative number. -/
theorem signed_cases (w : Width) (a : UInt64) :
    (w.isNegative a = false ∧ w.unsigned a < w.half ∧ w.signed a = w.unsigned a) ∨
      (w.isNegative a = true ∧ w.half ≤ w.unsigned a ∧
        w.signed a = w.unsigned a - w.range) := by
  rw [isNegative_eq_decide]
  by_cases low : w.unsigned a < w.half
  · simp [signed, low]
  · simp [signed, low, Nat.le_of_not_lt low]

/-- A full word stands for the number it has as a signed word. -/
theorem signed_qword (a : UInt64) : qword.signed a = a.toInt64.toInt := by
  have below : a.toNat < 2 ^ 64 := a.toNat_lt
  have full : qword.unsigned a = a.toNat := Nat.mod_eq_of_lt below
  have range : qword.range = 2 ^ 64 := rfl
  have half : qword.half = 2 ^ 63 := rfl
  have value : a.toInt64.toInt = a.toBitVec.toInt := rfl
  rw [value, BitVec.toInt_eq_toNat_cond, UInt64.toNat_toBitVec, signed, full, range, half]
  split <;> split <;> omega

theorem signed_neg_iff : w.signed a < 0 ↔ w.isNegative a = true := by
  have small := w.unsigned_lt a
  rcases w.signed_cases a with ⟨sign, _, value⟩ | ⟨sign, _, value⟩
  · simp only [sign, Bool.false_eq_true, iff_false]
    omega
  · simp only [sign, iff_true]
    omega

theorem fits_signed (w : Width) (a : UInt64) : w.Fits (w.signed a) := by
  have small := w.unsigned_lt a
  have double := w.range_eq
  unfold Fits
  rcases w.signed_cases a with ⟨_, _, value⟩ | ⟨_, _, value⟩ <;> omega

/-- The same bits stand for the same numbers. -/
theorem unsigned_eq_iff {b : UInt64} :
    w.unsigned a = w.unsigned b ↔ w.signed a = w.signed b := by
  have left := w.unsigned_lt a
  have right := w.unsigned_lt b
  rcases w.signed_cases a with ⟨_, _, _⟩ | ⟨_, _, _⟩ <;>
    rcases w.signed_cases b with ⟨_, _, _⟩ | ⟨_, _, _⟩ <;> omega

/-! ## Numbers modulo the range -/

/-- Two numbers that can be written are the same if they agree modulo the range. -/
theorem Fits.eq_of_emod_eq {m n : Int} (hm : w.Fits m) (hn : w.Fits n)
    (same : m % w.range = n % w.range) : m = n := by
  unfold Fits at hm hn
  cases w <;> simp only [range, half, bits, bytes] at hm hn same <;> omega

theorem unsigned_emod (w : Width) (a : UInt64) :
    (w.unsigned a : Int) % w.range = w.unsigned a :=
  Int.emod_eq_of_lt (Int.natCast_nonneg _) (Int.ofNat_lt.mpr (w.unsigned_lt a))

theorem signed_emod (w : Width) (a : UInt64) : w.signed a % w.range = w.unsigned a := by
  rcases w.signed_cases a with ⟨_, _, value⟩ | ⟨_, _, value⟩
  · rw [value, unsigned_emod]
  · rw [value, Int.sub_emod_right, unsigned_emod]

/-- Cutting a word off at a width forgets what was cut off at the end of the word. -/
theorem natCast_unsigned_of_wraps {n : Int} (wraps : (a.toNat : Int) = n % 2 ^ 64) :
    (w.unsigned a : Int) = n % w.range := by
  have divides : (w.range : Int) ∣ 2 ^ 64 := by exact_mod_cast w.range_dvd
  rw [natCast_unsigned, wraps, Int.emod_emod_of_dvd _ divides]

theorem unsigned_add (w : Width) (a b : UInt64) :
    (w.unsigned (a + b) : Int) = (w.unsigned a + w.unsigned b : Int) % w.range := by
  have wraps : ((a + b).toNat : Int) = ((a.toNat : Int) + b.toNat) % 2 ^ 64 := by
    rw [UInt64.toNat_add]
    omega
  rw [natCast_unsigned_of_wraps wraps, natCast_unsigned, natCast_unsigned, ← Int.add_emod]

theorem unsigned_sub (w : Width) (a b : UInt64) :
    (w.unsigned (a - b) : Int) = (w.unsigned a - w.unsigned b : Int) % w.range := by
  have wraps : ((a - b).toNat : Int) = ((a.toNat : Int) - b.toNat) % 2 ^ 64 := by
    have := a.toNat_lt
    have := b.toNat_lt
    rw [UInt64.toNat_sub]
    omega
  rw [natCast_unsigned_of_wraps wraps, natCast_unsigned, natCast_unsigned, ← Int.sub_emod]

/-- A sum is exact, or it has wrapped around once. -/
theorem unsigned_add_cases (w : Width) (a b : UInt64) :
    (w.unsigned a + w.unsigned b < w.range ∧
        w.unsigned (a + b) = w.unsigned a + w.unsigned b) ∨
      (w.range ≤ w.unsigned a + w.unsigned b ∧
        w.unsigned (a + b) + w.range = w.unsigned a + w.unsigned b) := by
  have left := w.unsigned_lt a
  have right := w.unsigned_lt b
  have sum := w.unsigned_add a b
  by_cases small : w.unsigned a + w.unsigned b < w.range
  · rw [Int.emod_eq_of_lt (by omega) (by omega)] at sum
    exact .inl ⟨small, by omega⟩
  · rw [← Int.sub_emod_right, Int.emod_eq_of_lt (by omega) (by omega)] at sum
    exact .inr ⟨by omega, by omega⟩

/-- A difference is exact, or it has wrapped around once. -/
theorem unsigned_sub_cases (w : Width) (a b : UInt64) :
    (w.unsigned b ≤ w.unsigned a ∧ w.unsigned (a - b) + w.unsigned b = w.unsigned a) ∨
      (w.unsigned a < w.unsigned b ∧
        w.unsigned (a - b) + w.unsigned b = w.unsigned a + w.range) := by
  have left := w.unsigned_lt a
  have right := w.unsigned_lt b
  have difference := w.unsigned_sub a b
  by_cases small : w.unsigned b ≤ w.unsigned a
  · rw [Int.emod_eq_of_lt (by omega) (by omega)] at difference
    exact .inl ⟨small, by omega⟩
  · rw [← Int.add_emod_right, Int.emod_eq_of_lt (by omega) (by omega)] at difference
    exact .inr ⟨by omega, by omega⟩

/-- The bits above a width, all set, are what the whole word has more than the width. -/
theorem toNat_or_not_mask (w : Width) (a : UInt64) :
    (w.truncate a ||| ~~~w.mask).toNat = w.unsigned a + (2 ^ 64 - w.range) := by
  have high : (~~~w.mask).toNat = 2 ^ w.bits * (2 ^ (64 - w.bits) - 1) := by cases w <;> rfl
  have low : w.unsigned a < 2 ^ w.bits := w.unsigned_lt a
  have top : 2 ^ w.bits * (2 ^ (64 - w.bits) - 1) = 2 ^ 64 - w.range := by cases w <;> rfl
  rw [UInt64.toNat_or, toNat_truncate, high, Nat.or_comm, ← Nat.two_pow_add_eq_or_of_lt low, top,
    Nat.add_comm]

/-- The bits above a width are what dividing by its range leaves. -/
theorem toNat_and_not_mask (w : Width) (a : UInt64) :
    (a &&& ~~~w.mask).toNat = 2 ^ w.bits * (a.toNat / 2 ^ w.bits) := by
  have high : (~~~w.mask).toNat = 2 ^ w.bits * (2 ^ (64 - w.bits) - 1) := by cases w <;> rfl
  rw [UInt64.toNat_and, high]
  apply Nat.eq_of_testBit_eq
  intro i
  rw [Nat.testBit_and, Nat.testBit_two_pow_mul, Nat.testBit_two_pow_mul,
    Nat.testBit_two_pow_sub_one, Nat.testBit_div_two_pow]
  by_cases above : w.bits ≤ i
  · have index : i - w.bits + w.bits = i := by omega
    rw [index]
    by_cases inside : i < 64
    · have counted : i - w.bits < 64 - w.bits := by omega
      simp [above, counted]
    · have absent : a.toNat.testBit i = false :=
        Nat.testBit_lt_two_pow (Nat.lt_of_lt_of_le a.toNat_lt
          (Nat.pow_le_pow_right (by decide) (Nat.le_of_not_lt inside)))
      simp [absent]
  · simp [above]

theorem toNat_signExtend (w : Width) (a : UInt64) :
    ((w.signExtend a).toNat : Int) = w.signed a % 2 ^ 64 := by
  have small := w.unsigned_lt a
  have double := w.range_eq
  have word : w.range ≤ 2 ^ 64 := Nat.le_of_dvd (by decide) w.range_dvd
  rw [signExtend, isNegative_truncate]
  rcases w.signed_cases a with ⟨negative, _, value⟩ | ⟨negative, _, value⟩
  · rw [negative, value, if_neg Bool.false_ne_true, toNat_truncate]
    omega
  · rw [negative, value, if_pos rfl, toNat_or_not_mask]
    omega

end GuestMachine.Width
