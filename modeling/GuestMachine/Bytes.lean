/-!
# Byte strings

A byte string is a list of bytes. Numbers are laid out little-endian: the first byte is the
least significant one.
-/

namespace GuestMachine

abbrev Bytes := List UInt8

namespace Bytes

/-- The number a byte string spells, least significant byte first. -/
def value : Bytes → Nat
  | [] => 0
  | b :: rest => b.toNat + 256 * value rest

/-- The `count` low bytes of a number, least significant first. -/
def ofNat : (count : Nat) → (value : Nat) → Bytes
  | 0, _ => []
  | count + 1, value => UInt8.ofNat value :: ofNat count (value / 256)

/-- The eight bytes of a word. -/
def ofWord (w : UInt64) : Bytes := ofNat 8 w.toNat

/-- The word spelled by a byte string of at most eight bytes. -/
def toWord (bytes : Bytes) : UInt64 := UInt64.ofNat (value bytes)

@[simp] theorem length_ofNat (count value : Nat) : (ofNat count value).length = count := by
  induction count generalizing value with
  | zero => rfl
  | succ count ih => simp [ofNat, ih]

end Bytes

end GuestMachine
