import GuestMachine.Proofs.Bytes
import GuestMachine.Proofs.Flags
import GuestMachine.Proofs.Width

/-!
# Arithmetic flags and integers

Every arithmetic operation leaves a result and six flags, and all of them say something about exact
integers: the result is the exact value modulo the range of the width, carry and overflow say that
an unsigned or a signed value did not fit, and adjust says what passed between bits 3 and 4.
-/

namespace GuestMachine.Flags

/-- The bits that arithmetic sets. -/
def status : UInt64 := carry ||| parity ||| adjust ||| zero ||| sign ||| overflow

/-- The number of ones among the low eight bits. -/
def ones (n : Nat) : Nat := (List.range 8).countP n.testBit

/-- An operation at width `w` gives the value `exact` modulo the range of the width, sets carry,
overflow and adjust as told, sets zero, sign and parity by its result, and leaves every other bit of
the flags `f`. -/
structure Reports (f : Flags) (w : Width) (exact : Int) (carry overflow adjust : Prop)
    (outcome : UInt64 × Flags) : Prop where
  result : (outcome.1.toNat : Int) = exact % w.range
  carry : outcome.2.get Flags.carry = true ↔ carry
  overflow : outcome.2.get Flags.overflow = true ↔ overflow
  adjust : outcome.2.get Flags.adjust = true ↔ adjust
  zero : outcome.2.get Flags.zero = true ↔ outcome.1 = 0
  sign : outcome.2.get Flags.sign = true ↔ w.signed outcome.1 < 0
  parity : outcome.2.get Flags.parity = true ↔ ones outcome.1.toNat % 2 = 0
  others : outcome.2.bits &&& ~~~status = f.bits &&& ~~~status

theorem evenParity_eq (b : UInt8) : evenParity b = decide (ones b.toNat % 2 = 0) := by
  revert b
  apply Bytes.forall_byte
  decide +kernel

/-- Only the low byte of a number counts. -/
theorem ones_mod (n : Nat) : ones (n % 256) = ones n := by
  unfold ones
  apply List.countP_congr
  intro i member
  rw [show 256 = 2 ^ 8 from rfl, Nat.testBit_mod_two_pow]
  simp [List.mem_range.mp member]

/-- The flags word with carry, overflow and adjust as given, and the rest read off a result. -/
def settled (f : Flags) (w : Width) (c o a : Bool) (result : UInt64) : Flags :=
  (((f.set carry c).set overflow o).set adjust a).setResult w result

/-- All four binary operations settle their flags in the same way. -/
theorem reports_settled {f : Flags} {w : Width} {exact : Int} {C O A : Prop} {c o a : Bool}
    {result : UInt64} (value : (w.unsigned result : Int) = exact % w.range)
    (carry : c = true ↔ C) (overflow : o = true ↔ O) (adjust : a = true ↔ A) :
    Reports f w exact C O A (w.truncate result, f.settled w c o a result) where
  result := by rw [Width.toNat_truncate, value]
  carry := by
    simp (disch := decide) only [settled, setResult, get_set_self, get_set_of_disjoint, carry]
  overflow := by
    simp (disch := decide) only [settled, setResult, get_set_self, get_set_of_disjoint, overflow]
  adjust := by
    simp (disch := decide) only [settled, setResult, get_set_self, get_set_of_disjoint, adjust]
  zero := by
    simp (disch := decide) only [settled, setResult, get_set_self, get_set_of_disjoint, beq_iff_eq]
  sign := by
    simp (disch := decide) only [settled, setResult, get_set_self, get_set_of_disjoint,
      Width.signed_neg_iff]
  parity := by
    simp (disch := decide) only [settled, setResult, get_set_self, evenParity_eq, decide_eq_true_eq,
      UInt64.toNat_toUInt8, Nat.reducePow, ones_mod]
  others := by
    simp (disch := decide) only [settled, setResult, and_set]

/-- Setting the carry once more changes nothing else. -/
theorem Reports.set_carry {f : Flags} {w : Width} {exact : Int} {C O A : Prop}
    {outcome : UInt64 × Flags} (h : Reports f w exact C O A outcome) (on : Bool) :
    Reports f w exact (on = true) O A (outcome.1, outcome.2.set Flags.carry on) where
  result := h.result
  carry := by simp (disch := decide) only [get_set_self]
  overflow := by simp (disch := decide) only [get_set_of_disjoint, h.overflow]
  adjust := by simp (disch := decide) only [get_set_of_disjoint, h.adjust]
  zero := by simp (disch := decide) only [get_set_of_disjoint, h.zero]
  sign := by simp (disch := decide) only [get_set_of_disjoint, h.sign]
  parity := by simp (disch := decide) only [get_set_of_disjoint, h.parity]
  others := by simp (disch := decide) only [and_set, h.others]

/-! ## Carry, overflow and adjust -/

variable (w : Width) (a b : UInt64)

theorem add_carry_iff :
    w.truncate (a + b) < w.truncate a ↔ w.range ≤ w.unsigned a + w.unsigned b := by
  have right := w.unsigned_lt b
  rw [UInt64.lt_iff_toNat_lt, Width.toNat_truncate, Width.toNat_truncate]
  rcases w.unsigned_add_cases a b with ⟨_, _⟩ | ⟨_, _⟩ <;> omega

/-- The sign of a sum differs from both signs of its parts if the sum does not fit. -/
theorem add_overflow_iff :
    w.isNegative ((a ^^^ w.truncate (a + b)) &&& (b ^^^ w.truncate (a + b))) = true ↔
      ¬w.Fits (w.signed a + w.signed b) := by
  have double := w.range_eq
  have left := w.unsigned_lt a
  have right := w.unsigned_lt b
  rw [Width.isNegative_and, Width.isNegative_xor, Width.isNegative_xor, Width.isNegative_truncate,
    Width.Fits]
  rcases w.signed_cases a with ⟨ha, _, _⟩ | ⟨ha, _, _⟩ <;>
    rcases w.signed_cases b with ⟨hb, _, _⟩ | ⟨hb, _, _⟩ <;>
    rcases w.signed_cases (a + b) with ⟨hr, _, _⟩ | ⟨hr, _, _⟩ <;>
    rcases w.unsigned_add_cases a b with ⟨_, _⟩ | ⟨_, _⟩ <;>
    simp [ha, hb, hr] <;> omega

theorem sub_overflow_iff :
    w.isNegative ((a ^^^ b) &&& (a ^^^ w.truncate (a - b))) = true ↔
      ¬w.Fits (w.signed a - w.signed b) := by
  have double := w.range_eq
  have left := w.unsigned_lt a
  have right := w.unsigned_lt b
  rw [Width.isNegative_and, Width.isNegative_xor, Width.isNegative_xor, Width.isNegative_truncate,
    Width.Fits]
  rcases w.signed_cases a with ⟨ha, _, _⟩ | ⟨ha, _, _⟩ <;>
    rcases w.signed_cases b with ⟨hb, _, _⟩ | ⟨hb, _, _⟩ <;>
    rcases w.signed_cases (a - b) with ⟨hr, _, _⟩ | ⟨hr, _, _⟩ <;>
    rcases w.unsigned_sub_cases a b with ⟨_, _⟩ | ⟨_, _⟩ <;>
    simp [ha, hb, hr] <;> omega

/-- Whether bit 4 of three numbers is set in an odd number of them. -/
theorem testBit_four_xor (x y z : Nat) :
    (x.testBit 4 ^^ y.testBit 4 ^^ z.testBit 4) = true ↔ (x / 16 + y / 16 + z / 16) % 2 = 1 := by
  simp only [Nat.testBit_eq_decide_div_mod_eq, Nat.reducePow]
  rcases Nat.mod_two_eq_zero_or_one (x / 16) with hx | hx <;>
    rcases Nat.mod_two_eq_zero_or_one (y / 16) with hy | hy <;>
    rcases Nat.mod_two_eq_zero_or_one (z / 16) with hz | hz <;>
    simp [hx, hy, hz, Nat.add_mod]

theorem adjust_iff (r : UInt64) :
    ((a ^^^ b ^^^ w.truncate r) &&& 0x10 != 0) = true ↔
      (w.unsigned a / 16 + w.unsigned b / 16 + w.unsigned r / 16) % 2 = 1 := by
  rw [Width.and_ne_zero_eq_testBit (i := 4) rfl, ← testBit_four_xor,
    w.testBit_unsigned a (by decide), w.testBit_unsigned b (by decide)]
  simp only [UInt64.toNat_xor, Nat.testBit_xor, Width.toNat_truncate]

/-- Bit 4 of a sum is what its parts give, but for a carry out of bit 3. -/
theorem add_adjust_iff :
    ((a ^^^ b ^^^ w.truncate (a + b)) &&& 0x10 != 0) = true ↔
      16 ≤ w.unsigned a % 16 + w.unsigned b % 16 := by
  obtain ⟨k, multiple⟩ : 32 ∣ w.range := by cases w <;> decide
  rw [adjust_iff]
  rcases w.unsigned_add_cases a b with ⟨_, _⟩ | ⟨_, _⟩ <;> omega

theorem sub_adjust_iff :
    ((a ^^^ b ^^^ w.truncate (a - b)) &&& 0x10 != 0) = true ↔
      w.unsigned a % 16 < w.unsigned b % 16 := by
  obtain ⟨k, multiple⟩ : 32 ∣ w.range := by cases w <;> decide
  rw [adjust_iff]
  rcases w.unsigned_sub_cases a b with ⟨_, _⟩ | ⟨_, _⟩ <;> omega

/-! ## Products -/

/-- Every signed number of a width can be written in a whole word. -/
theorem signedValue_eq : signedValue w a = w.signed a := by
  have value : signedValue w a = ((w.signExtend a).toNat : Int).bmod (2 ^ 64) :=
    BitVec.toInt_eq_toNat_bmod _
  have fits := w.fits_signed a
  have half : w.half ≤ 2 ^ 63 := by cases w <;> decide
  unfold Width.Fits at fits
  rw [value, Width.toNat_signExtend, show (2 : Int) ^ 64 = (2 ^ 64 : Nat) from rfl, Int.emod_bmod]
  exact Int.bmod_eq_of_le (by omega) (by omega)

/-- A product that was cut off stands for another number unless it fits. -/
theorem product_lost_iff {full : Int} {p : UInt64} (wraps : (p.toNat : Int) = full % 2 ^ 64) :
    (w.signed p != full) = true ↔ ¬w.Fits full := by
  have low : (w.unsigned p : Int) = full % w.range := Width.natCast_unsigned_of_wraps wraps
  rw [bne_iff_ne, not_iff_not]
  constructor
  · intro exact
    rw [← exact]
    exact w.fits_signed p
  · intro fits
    exact (w.fits_signed p).eq_of_emod_eq fits (by rw [Width.signed_emod, low])

/-! ## Operations -/

variable (f : Flags)

theorem settled_truncate (c o d : Bool) (r : UInt64) :
    f.settled w c o d (w.truncate r) = f.settled w c o d r := by
  simp [settled, setResult]

theorem reports_add :
    Reports f w (w.unsigned a + w.unsigned b) (w.range ≤ w.unsigned a + w.unsigned b)
      (¬w.Fits (w.signed a + w.signed b)) (16 ≤ w.unsigned a % 16 + w.unsigned b % 16)
      (f.add w a b) := by
  have value := w.unsigned_add (w.truncate a) (w.truncate b)
  have carry := add_carry_iff w (w.truncate a) (w.truncate b)
  have overflow := add_overflow_iff w (w.truncate a) (w.truncate b)
  have adjust := add_adjust_iff w (w.truncate a) (w.truncate b)
  simp only [Width.unsigned_truncate, Width.signed_truncate,
    Width.truncate_truncate] at value carry overflow adjust
  have settles := reports_settled (f := f) value (decide_eq_true_iff.trans carry) overflow adjust
  rw [← settled_truncate] at settles
  exact settles

theorem reports_sub :
    Reports f w (w.unsigned a - w.unsigned b) (w.unsigned a < w.unsigned b)
      (¬w.Fits (w.signed a - w.signed b)) (w.unsigned a % 16 < w.unsigned b % 16)
      (f.sub w a b) := by
  have value := w.unsigned_sub (w.truncate a) (w.truncate b)
  have carry : w.truncate a < w.truncate b ↔ w.unsigned a < w.unsigned b := by
    simp [UInt64.lt_iff_toNat_lt]
  have overflow := sub_overflow_iff w (w.truncate a) (w.truncate b)
  have adjust := sub_adjust_iff w (w.truncate a) (w.truncate b)
  simp only [Width.unsigned_truncate, Width.signed_truncate] at value overflow adjust
  have settles := reports_settled (f := f) value (decide_eq_true_iff.trans carry) overflow adjust
  rw [← settled_truncate] at settles
  exact settles

theorem reports_logic (r : UInt64) : Reports f w (w.unsigned r) False False False (f.logic w r) :=
  reports_settled (w.unsigned_emod r).symm (by simp) (by simp) (by simp)

theorem toNat_toUInt64_ofInt (n : Int) : ((Int64.ofInt n).toUInt64.toNat : Int) = n % 2 ^ 64 := by
  have word : (Int64.ofInt n).toUInt64.toNat = (n % (2 ^ 64 : Nat)).toNat := BitVec.toNat_ofInt n
  rw [word, Int.toNat_of_nonneg (Int.emod_nonneg _ (by decide))]
  rfl

theorem reports_imul :
    Reports f w (w.signed a * w.signed b) (¬w.Fits (w.signed a * w.signed b))
      (¬w.Fits (w.signed a * w.signed b)) False (f.imul w a b) := by
  have wraps := toNat_toUInt64_ofInt (w.signed a * w.signed b)
  have lost := product_lost_iff w wraps
  have settles := reports_settled (f := f) (w := w) (Width.natCast_unsigned_of_wraps wraps) lost
    lost (by simp : false = true ↔ False)
  rw [← settled_truncate] at settles
  simp only [imul, signedValue_eq, Width.signed_truncate]
  exact settles

theorem reports_inc :
    Reports f w (w.unsigned a + 1) (f.get carry = true) (¬w.Fits (w.signed a + 1))
      (w.unsigned a % 16 = 15) (f.inc w a) := by
  have sum := (reports_add w a 1 f).set_carry (f.get carry)
  have adjust : 16 ≤ w.unsigned a % 16 + 1 % 16 ↔ w.unsigned a % 16 = 15 := by omega
  simp only [Width.unsigned_one, Width.signed_one, adjust] at sum
  exact sum

theorem reports_dec :
    Reports f w (w.unsigned a - 1) (f.get carry = true) (¬w.Fits (w.signed a - 1))
      (w.unsigned a % 16 = 0) (f.dec w a) := by
  have difference := (reports_sub w a 1 f).set_carry (f.get carry)
  have adjust : w.unsigned a % 16 < 1 % 16 ↔ w.unsigned a % 16 = 0 := by omega
  simp only [Width.unsigned_one, Width.signed_one, adjust] at difference
  exact difference

theorem reports_neg :
    Reports f w (-w.unsigned a) (w.unsigned a ≠ 0) (w.unsigned a = w.half)
      (w.unsigned a % 16 ≠ 0) (f.neg w a) := by
  have difference := (reports_sub w 0 a f).set_carry (w.truncate a != 0)
  have carry : (w.truncate a != 0) = true ↔ w.unsigned a ≠ 0 := by
    rw [bne_iff_ne, ne_eq, ← UInt64.toNat_inj, Width.toNat_truncate, UInt64.toNat_zero]
  have overflow : ¬w.Fits (-w.signed a) ↔ w.unsigned a = w.half := by
    have small := w.unsigned_lt a
    have double := w.range_eq
    unfold Width.Fits
    rcases w.signed_cases a with ⟨_, _, _⟩ | ⟨_, _, _⟩ <;> omega
  have adjust : 0 % 16 < w.unsigned a % 16 ↔ w.unsigned a % 16 ≠ 0 := by omega
  simp only [Width.unsigned_zero, Width.signed_zero, carry, overflow, adjust, Int.natCast_zero,
    Int.zero_sub] at difference
  exact difference

/-- Every arithmetic operation agrees with integer arithmetic, whatever the flags were and whatever
lies above the width. With `A`, `B` the operands as unsigned and `As`, `Bs` as signed numbers, a sum
and a difference are exact modulo the range, carry says that the unsigned value does not fit and
overflow that the signed one does not, and adjust is the carry out of bit 3 or the borrow into bit
4. Negation is subtraction from zero; increment and decrement add and subtract one and keep the carry;
a product sets carry and overflow if it does not fit; a bitwise result clears them. -/
theorem arithmetic_flags_exact (f : Flags) (w : Width) (a b : UInt64) :
    let A := w.unsigned a
    let B := w.unsigned b
    let As := w.signed a
    let Bs := w.signed b
    Reports f w (A + B) (w.range ≤ A + B) (¬w.Fits (As + Bs)) (16 ≤ A % 16 + B % 16)
      (f.add w a b) ∧
    Reports f w (A - B) (A < B) (¬w.Fits (As - Bs)) (A % 16 < B % 16) (f.sub w a b) ∧
    Reports f w (-A) (A ≠ 0) (A = w.half) (A % 16 ≠ 0) (f.neg w a) ∧
    Reports f w (A + 1) (f.get carry = true) (¬w.Fits (As + 1)) (A % 16 = 15) (f.inc w a) ∧
    Reports f w (A - 1) (f.get carry = true) (¬w.Fits (As - 1)) (A % 16 = 0) (f.dec w a) ∧
    Reports f w (As * Bs) (¬w.Fits (As * Bs)) (¬w.Fits (As * Bs)) False (f.imul w a b) ∧
    ∀ r, Reports f w (w.unsigned r) False False False (f.logic w r) := by
  exact ⟨reports_add w a b f, reports_sub w a b f, reports_neg w a f, reports_inc w a f,
    reports_dec w a f, reports_imul w a b f, reports_logic w f⟩

end GuestMachine.Flags
