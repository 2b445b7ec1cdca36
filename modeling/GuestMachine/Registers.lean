import GuestMachine.Width

/-!
# General registers

Sixteen 64-bit registers with narrower views. A 64-bit write replaces a register, a 32-bit
write clears its upper half, and 16- and 8-bit writes merge into the low bits.
-/

namespace GuestMachine

/-- The name of a general register. -/
abbrev Register := Fin 16

namespace Register

def rax : Register := 0
def rbx : Register := 1
def rcx : Register := 2
def rdx : Register := 3
def rsi : Register := 4
def rdi : Register := 5
def rbp : Register := 6
def rsp : Register := 7

/-- The register named by the low four bits of a byte. -/
def ofByte (b : UInt8) : Register := Fin.ofNat 16 b.toNat

/-- The registers named by the high and the low four bits of a byte (`register_pair`, §E). -/
def pair (b : UInt8) : Register × Register := (ofByte (b >>> 4), ofByte b)

end Register

/-- The register file (`Registers`, §4.2). -/
structure Registers where
  file : Vector UInt64 16
deriving DecidableEq

namespace Registers

def empty : Registers := ⟨Vector.replicate 16 0⟩

def get (r : Registers) (i : Register) : UInt64 := r.file[i]

def set (r : Registers) (i : Register) (value : UInt64) : Registers :=
  ⟨r.file.set i.val value i.isLt⟩

/-- Reads the low bits of a register (`get_sized`, §4.2). -/
def getSized (r : Registers) (i : Register) (w : Width) : UInt64 := w.truncate (r.get i)

/-- What a register holds after `value` was written through its view of width `w`. -/
def merge (w : Width) (old value : UInt64) : UInt64 :=
  match w with
  | .qword => value
  | .dword => value &&& 0xFFFFFFFF
  | .word | .byte => (old &&& ~~~w.mask) ||| (value &&& w.mask)

/-- Writes a register through its view of width `w` (`set_sized`, §4.2). -/
def setSized (r : Registers) (i : Register) (w : Width) (value : UInt64) : Registers :=
  r.set i (merge w (r.get i) value)

@[simp] theorem get_set_self (r : Registers) (i : Register) (v : UInt64) :
    (r.set i v).get i = v := by
  simp [get, set]

theorem get_set_of_ne (r : Registers) {i j : Register} (v : UInt64) (h : i ≠ j) :
    (r.set i v).get j = r.get j := by
  have h' : i.val ≠ j.val := fun e => h (Fin.ext e)
  simp [get, set, h']

theorem set_get (r : Registers) (i : Register) : r.set i (r.get i) = r := by
  simp [get, set]

theorem set_set (r : Registers) (i : Register) (a b : UInt64) :
    (r.set i a).set i b = r.set i b := by
  simp [set]

/-- Writing back what a register held restores all of them. -/
@[simp] theorem set_set_get (r : Registers) (i : Register) (v : UInt64) :
    (r.set i v).set i (r.get i) = r := by
  simp [get, set]

end Registers

end GuestMachine
