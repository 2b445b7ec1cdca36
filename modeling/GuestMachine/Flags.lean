import GuestMachine.Width

/-!
# The flags word

Status bits of the processor at their customary positions, the arithmetic that sets them, and
the sixteen branch conditions that read them.
-/

namespace GuestMachine

/-- A branch condition. Conditions come in complementary pairs: an even one and its negation. -/
inductive Condition where
  | overflow
  | notOverflow
  | below
  | aboveOrEqual
  | equal
  | notEqual
  | belowOrEqual
  | above
  | sign
  | notSign
  | parity
  | notParity
  | less
  | greaterOrEqual
  | lessOrEqual
  | greater
deriving DecidableEq

/-- The condition numbered `code`; there are sixteen. -/
def Condition.ofByte? (code : UInt8) : Option Condition :=
  match code with
  | 0 => some overflow
  | 1 => some notOverflow
  | 2 => some below
  | 3 => some aboveOrEqual
  | 4 => some equal
  | 5 => some notEqual
  | 6 => some belowOrEqual
  | 7 => some above
  | 8 => some sign
  | 9 => some notSign
  | 10 => some parity
  | 11 => some notParity
  | 12 => some less
  | 13 => some greaterOrEqual
  | 14 => some lessOrEqual
  | 15 => some greater
  | _ => none

/-- The flags word (`Flags`, §4.2). -/
structure Flags where
  bits : UInt64
deriving DecidableEq

namespace Flags

/-- Carry: an unsigned result did not fit. -/
def carry : UInt64 := 0x1
/-- A reserved bit that always reads as one. -/
def reserved : UInt64 := 0x2
/-- Parity: the low byte of a result has an even number of ones. -/
def parity : UInt64 := 0x4
/-- Adjust: a carry out of, or a borrow into, the low four bits. -/
def adjust : UInt64 := 0x10
/-- Zero: a result is zero. -/
def zero : UInt64 := 0x40
/-- Sign: a result is negative. -/
def sign : UInt64 := 0x80
/-- Trap; no instruction sets it. -/
def trap : UInt64 := 0x100
/-- Interrupt; no instruction sets it. -/
def interrupt : UInt64 := 0x200
/-- Direction. -/
def direction : UInt64 := 0x400
/-- Overflow: a signed result did not fit. -/
def overflow : UInt64 := 0x800

/-- The bits a guest may load from its stack. -/
def publicMask : UInt64 := carry ||| parity ||| adjust ||| zero ||| sign ||| direction ||| overflow

/-- The flags of a fresh process: only the reserved bit is set. -/
def initial : Flags := ⟨reserved⟩

def get (f : Flags) (mask : UInt64) : Bool := f.bits &&& mask != 0

/-- Sets or clears all bits of `mask`. -/
def set (f : Flags) (mask : UInt64) (on : Bool) : Flags :=
  ⟨if on then f.bits ||| mask else f.bits &&& ~~~mask⟩

/-- Takes the public bits from `value` and keeps every other bit (`restore_public`, §4.2). -/
def restorePublic (f : Flags) (value : UInt64) : Flags :=
  ⟨(f.bits &&& ~~~publicMask) ||| (value &&& publicMask)⟩

/-- Tells whether a byte has an even number of ones. -/
def evenParity (b : UInt8) : Bool :=
  let x := b ^^^ (b >>> 4)
  let x := x ^^^ (x >>> 2)
  let x := x ^^^ (x >>> 1)
  x &&& 1 == 0

/-- Sets zero, sign and parity from a result of width `w` (`set_result`). -/
def setResult (f : Flags) (w : Width) (result : UInt64) : Flags :=
  let result := w.truncate result
  ((f.set zero (result == 0)).set sign (w.isNegative result)).set parity (evenParity result.toUInt8)

/-- The sum of two operands of width `w`, and the flags it leaves (`add`). -/
def add (f : Flags) (w : Width) (a b : UInt64) : UInt64 × Flags :=
  let a := w.truncate a
  let b := w.truncate b
  let result := w.truncate (a + b)
  let f := f.set carry (decide (result < a))
  let f := f.set overflow (w.isNegative ((a ^^^ result) &&& (b ^^^ result)))
  let f := f.set adjust ((a ^^^ b ^^^ result) &&& 0x10 != 0)
  (result, f.setResult w result)

/-- The difference of two operands of width `w`, and the flags it leaves (`sub`). -/
def sub (f : Flags) (w : Width) (a b : UInt64) : UInt64 × Flags :=
  let a := w.truncate a
  let b := w.truncate b
  let result := w.truncate (a - b)
  let f := f.set carry (decide (a < b))
  let f := f.set overflow (w.isNegative ((a ^^^ b) &&& (a ^^^ result)))
  let f := f.set adjust ((a ^^^ b ^^^ result) &&& 0x10 != 0)
  (result, f.setResult w result)

/-- The flags of a bitwise result: carry, overflow and adjust are cleared (`logic`). -/
def logic (f : Flags) (w : Width) (result : UInt64) : UInt64 × Flags :=
  let f := ((f.set carry false).set overflow false).set adjust false
  (w.truncate result, f.setResult w result)

/-- The value of the low bits of a word as a signed integer of width `w`. -/
def signedValue (w : Width) (a : UInt64) : Int := (w.signExtend a).toInt64.toInt

/-- The signed product, truncated; carry and overflow say that it did not fit (`imul`). -/
def imul (f : Flags) (w : Width) (a b : UInt64) : UInt64 × Flags :=
  let full := signedValue w a * signedValue w b
  let result := w.truncate (Int64.ofInt full).toUInt64
  let lost := signedValue w result != full
  let f := ((f.set carry lost).set overflow lost).set adjust false
  (result, f.setResult w result)

/-- Adds one and keeps the carry (`inc`). -/
def inc (f : Flags) (w : Width) (a : UInt64) : UInt64 × Flags :=
  let (result, g) := f.add w a 1
  (result, g.set carry (f.get carry))

/-- Subtracts one and keeps the carry (`dec`). -/
def dec (f : Flags) (w : Width) (a : UInt64) : UInt64 × Flags :=
  let (result, g) := f.sub w a 1
  (result, g.set carry (f.get carry))

/-- Subtracts from zero; the carry says that the operand was not zero (`neg`). -/
def neg (f : Flags) (w : Width) (a : UInt64) : UInt64 × Flags :=
  let (result, g) := f.sub w 0 a
  (result, g.set carry (w.truncate a != 0))

/-- Decides a branch condition (`condition`, §E). -/
def holds (f : Flags) : Condition → Bool
  | .overflow => f.get overflow
  | .notOverflow => !f.get overflow
  | .below => f.get carry
  | .aboveOrEqual => !f.get carry
  | .equal => f.get zero
  | .notEqual => !f.get zero
  | .belowOrEqual => f.get carry || f.get zero
  | .above => !f.get carry && !f.get zero
  | .sign => f.get sign
  | .notSign => !f.get sign
  | .parity => f.get parity
  | .notParity => !f.get parity
  | .less => f.get sign != f.get overflow
  | .greaterOrEqual => f.get sign == f.get overflow
  | .lessOrEqual => f.get zero || f.get sign != f.get overflow
  | .greater => !f.get zero && f.get sign == f.get overflow

end Flags

end GuestMachine
