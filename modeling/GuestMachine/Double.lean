/-!
# Double-precision numbers

A double is its 64-bit pattern: a sign bit, eleven exponent bits and fifty-two fraction bits.
Keeping the pattern keeps the payload of a NaN that is loaded, negated and stored again.
Rounding to integers is done exactly on the fields of the pattern.
-/

namespace GuestMachine

/-- A double-precision number as its bit pattern. -/
structure Double where
  bits : UInt64
deriving DecidableEq

namespace Double

/-- The pattern that holds the sign bit alone. -/
def signMask : UInt64 := 0x8000000000000000

def toFloat (d : Double) : Float := Float.ofBits d.bits

def ofFloat (f : Float) : Double := ⟨f.toBits⟩

def zero : Double := ⟨0⟩

def exponent (d : Double) : Nat := (d.bits >>> 52).toNat % 2048

def fraction (d : Double) : Nat := d.bits.toNat % 0x10000000000000

def isNegative (d : Double) : Bool := d.bits &&& signMask != 0

def isNaN (d : Double) : Bool := d.exponent == 2047 && d.fraction != 0

/-- The integer significand: a finite number is `significand * 2 ^ (scale - 1075)` up to sign. -/
def significand (d : Double) : Nat :=
  if d.exponent = 0 then d.fraction else 0x10000000000000 + d.fraction

/-- The exponent of the significand's unit, counted from -1075. -/
def scale (d : Double) : Nat := max d.exponent 1

/-- The integer nearest to `n / 2 ^ k`; a tie goes to the even neighbour. -/
def nearestEven (n k : Nat) : Nat :=
  let unit := Nat.pow 2 k
  let q := n / unit
  let r := n % unit
  if unit < 2 * r ∨ (2 * r = unit ∧ q % 2 = 1) then q + 1 else q

/-- The integer nearest to the magnitude of a finite number. -/
def roundedMagnitude (d : Double) : Nat :=
  if 1075 ≤ d.scale then d.significand * Nat.pow 2 (d.scale - 1075)
  else nearestEven d.significand (1075 - d.scale)

def abs (d : Double) : Double := ⟨d.bits &&& ~~~signMask⟩

def neg (d : Double) : Double := ⟨d.bits ^^^ signMask⟩

def add (a b : Double) : Double := ofFloat (a.toFloat + b.toFloat)
def sub (a b : Double) : Double := ofFloat (a.toFloat - b.toFloat)
def mul (a b : Double) : Double := ofFloat (a.toFloat * b.toFloat)
def div (a b : Double) : Double := ofFloat (a.toFloat / b.toFloat)
def sqrt (d : Double) : Double := ofFloat d.toFloat.sqrt
def sin (d : Double) : Double := ofFloat d.toFloat.sin
def cos (d : Double) : Double := ofFloat d.toFloat.cos

/-- Rounds to an integral number, ties to even. The sign survives a result of zero, and a
number without fraction bits is kept as it is. -/
def round (d : Double) : Double :=
  if 1075 ≤ d.scale then d
  else ⟨(UInt64.ofNat d.roundedMagnitude).toFloat.toBits ||| (d.bits &&& signMask)⟩

/-- Compares two numbers; a NaN compares with nothing. -/
def compare? (a b : Double) : Option Ordering :=
  if a.isNaN || b.isNaN then none
  else if a.toFloat < b.toFloat then some .lt
  else if a.toFloat == b.toFloat then some .eq
  else some .gt

/-- Widens a single-precision pattern. The payload of a NaN moves up and becomes quiet. -/
def ofSingle (single : UInt32) : Double :=
  let fraction := single &&& 0x7FFFFF
  if single &&& 0x7F800000 == 0x7F800000 && fraction != 0 then
    ⟨((single >>> 31).toUInt64 <<< 63) ||| (0x7FF8000000000000 : UInt64) |||
      (fraction.toUInt64 <<< 29)⟩
  else ofFloat (Float32.ofBits single).toFloat

/-- Rounds to a single-precision pattern. The payload of a NaN moves down and becomes quiet. -/
def toSingle (d : Double) : UInt32 :=
  if d.isNaN then
    ((d.bits >>> 63).toUInt32 <<< 31) ||| (0x7FC00000 : UInt32) |||
      ((d.bits >>> 29).toUInt32 &&& 0x3FFFFF)
  else d.toFloat.toFloat32.toBits

/-- The number nearest to a signed integer given as a word. -/
def ofInteger (w : UInt64) : Double := ofFloat w.toInt64.toFloat

/-- The word that stands for an integer that cannot be represented. -/
def indefinite : UInt64 := 0x8000000000000000

/-- Rounds to a signed integer, ties to even, given as a word. A NaN or a value out of range
gives `indefinite`. -/
def toInteger (d : Double) : UInt64 :=
  if d.exponent = 2047 then indefinite
  else
    let n := d.roundedMagnitude
    if n < 0x8000000000000000 then
      if d.isNegative then 0 - UInt64.ofNat n else UInt64.ofNat n
    else indefinite

end Double

end GuestMachine
