import GuestMachine.Bytes
import GuestMachine.Fault
import GuestMachine.Text.Utf8
import GuestMachine.Width

/-!
# The address space

One array of bytes with three barriers. Instructions are fetched only below the executable
barrier, nothing is written below the read-only barrier, and the stack pointer stays at or
above the stack barrier. A refused write changes nothing.
-/

namespace GuestMachine

/-- The address space with its barriers (§3, `Memory`). -/
structure Memory where
  bytes : Array UInt8
  exeBarrier : Nat
  readonlyBarrier : Nat
  stackBarrier : Nat
deriving DecidableEq

namespace Memory

/-- The address space of a machine without a process. -/
def empty : Memory := ⟨#[], 0, 0, 0⟩

def size (m : Memory) : Nat := m.bytes.size

/-- Why `[pos, pos + len)` cannot be read, if so (`range`, §4.1). The end is a number and not a
word, so it does not wrap. -/
def readFault? (m : Memory) (pos : UInt64) (len : Nat) : Option Fault :=
  if pos.toNat + len ≤ m.size then none else some .outOfBounds

/-- Why `[pos, pos + len)` cannot be written, if so (`writable`, §4.1). The read-only barrier is
checked first. -/
def writeFault? (m : Memory) (pos : UInt64) (len : Nat) : Option Fault :=
  if pos.toNat < m.readonlyBarrier then some .accessViolation else m.readFault? pos len

/-- The bytes of `[start, start + len)` that exist. -/
def slice (m : Memory) (start len : Nat) : Bytes := (m.bytes.extract start (start + len)).toList

/-- Lays `data` over an array from index `start` on; what would pass the end is left out. -/
def overlay : Array UInt8 → (start : Nat) → Bytes → Array UInt8
  | bytes, _, [] => bytes
  | bytes, start, b :: rest => overlay (bytes.setIfInBounds start b) (start + 1) rest

/-- Lays `data` over the memory from address `start` on, without any check. -/
def patch (m : Memory) (start : Nat) (data : Bytes) : Memory :=
  { m with bytes := overlay m.bytes start data }

/-- The bytes of `[pos, pos + len)` (`read_bytes`, §4.1). -/
def readBytes (m : Memory) (pos : UInt64) (len : Nat) : Except Fault Bytes :=
  match m.readFault? pos len with
  | none => .ok (m.slice pos.toNat len)
  | some fault => .error fault

/-- Lays `data` over the memory from `pos` on (`write_bytes`, §4.1). -/
def writeBytes (m : Memory) (pos : UInt64) (data : Bytes) : Except Fault Memory :=
  match m.writeFault? pos data.length with
  | none => .ok (m.patch pos.toNat data)
  | some fault => .error fault

/-- Reads a little-endian value of width `w` at `pos` (`read`, §4.1). -/
def read (m : Memory) (pos : UInt64) (w : Width) : Except Fault UInt64 :=
  (m.readBytes pos w.bytes).map Bytes.toWord

/-- Writes the low bytes of `value` at `pos` (`write`, §4.1). -/
def write (m : Memory) (pos : UInt64) (w : Width) (value : UInt64) : Except Fault Memory :=
  m.writeBytes pos (Bytes.ofNat w.bytes value.toNat)

/-- The first index from `start` on that holds a zero byte, if there is one. -/
def zeroFrom? (bytes : Array UInt8) (start : Nat) : Option Nat :=
  if h : start < bytes.size then
    if bytes[start] = 0 then some start else zeroFrom? bytes (start + 1)
  else none
termination_by bytes.size - start

/-- Reads the zero-terminated byte string at `pos`, without its terminator (`read_cstring_bytes`,
§4.1). -/
def readCString (m : Memory) (pos : UInt64) : Except Fault Bytes :=
  match zeroFrom? m.bytes pos.toNat with
  | some stop => .ok (m.slice pos.toNat (stop - pos.toNat))
  | none => .error .outOfBounds

/-- Reads the zero-terminated text at `pos` (`read_cstring`, §4.1). -/
def readText (m : Memory) (pos : UInt64) : Except Fault String :=
  (m.readCString pos).map Text.Utf8.decode

/-- Writes a text and a terminating zero byte at `pos` (`write_cstring`, §4.1). -/
def writeText (m : Memory) (pos : UInt64) (text : String) : Except Fault Memory :=
  m.writeBytes pos (Text.Utf8.encode text ++ [0])

@[simp] theorem size_overlay (bytes : Array UInt8) (start : Nat) (data : Bytes) :
    (overlay bytes start data).size = bytes.size := by
  induction data generalizing bytes start with
  | nil => rfl
  | cons b rest ih => simp [overlay, ih]

@[simp] theorem size_patch (m : Memory) (start : Nat) (data : Bytes) :
    (m.patch start data).size = m.size := by simp [size, patch]

end Memory

end GuestMachine
