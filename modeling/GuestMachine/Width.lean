/-!
# Operand widths

Every operand is 8, 16, 32 or 64 bits wide. Values are held in 64-bit words; a width says how
many of the low bits count and how they extend back to a full word.
-/

namespace GuestMachine

/-- An operand width, numbered 0 to 3 in operand bytes (`SizeCode`, §E). -/
inductive Width where
  | byte
  | word
  | dword
  | qword
deriving DecidableEq

namespace Width

/-- Reads a width off the low two bits of `code` (`from_bits`). -/
def ofCode (code : UInt8) : Width :=
  match code.toNat % 4 with
  | 0 => byte
  | 1 => word
  | 2 => dword
  | _ => qword

def code : Width → UInt8
  | byte => 0
  | word => 1
  | dword => 2
  | qword => 3

/-- Width in bytes: 1, 2, 4 or 8. -/
def bytes : Width → Nat
  | byte => 1
  | word => 2
  | dword => 4
  | qword => 8

/-- Width in bits: 8, 16, 32 or 64. -/
def bits (w : Width) : Nat := 8 * w.bytes

/-- The word whose low `bits` bits are ones. -/
def mask : Width → UInt64
  | byte => 0xFF
  | word => 0xFFFF
  | dword => 0xFFFFFFFF
  | qword => 0xFFFFFFFFFFFFFFFF

/-- The word that holds the sign bit of the width alone. -/
def signBit : Width → UInt64
  | byte => 0x80
  | word => 0x8000
  | dword => 0x80000000
  | qword => 0x8000000000000000

/-- Keeps the low `bits` bits (`truncate`). -/
def truncate (w : Width) (value : UInt64) : UInt64 := value &&& w.mask

/-- Tells whether the sign bit of the width is set (`is_negative`). -/
def isNegative (w : Width) (value : UInt64) : Bool := value &&& w.signBit != 0

/-- Repeats the sign bit of the low `bits` bits upwards (`sign_extend`). -/
def signExtend (w : Width) (value : UInt64) : UInt64 :=
  if w.isNegative (w.truncate value) then w.truncate value ||| ~~~w.mask else w.truncate value

@[simp] theorem ofCode_code (w : Width) : ofCode w.code = w := by cases w <;> rfl

theorem bytes_pos (w : Width) : 0 < w.bytes := by cases w <;> decide

theorem bytes_le (w : Width) : w.bytes ≤ 8 := by cases w <;> decide

end Width

end GuestMachine
