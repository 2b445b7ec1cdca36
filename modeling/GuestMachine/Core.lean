import GuestMachine.Fpu
import GuestMachine.Instruction
import GuestMachine.Memory

/-!
# The processor core

Memory, registers, instruction pointer, flags and floating-point stack, with the accesses that
instructions are made of. An access that faults leaves the core as it was.
-/

namespace GuestMachine

/-- The state that instructions other than system calls work on. -/
structure Core where
  memory : Memory
  registers : Registers
  rip : UInt64
  flags : Flags
  fpu : Fpu
deriving DecidableEq

/-- The core of a machine without a process. -/
def Core.blank : Core := ⟨Memory.empty, Registers.empty, 0, Flags.initial, Fpu.empty⟩

/-- The address an operand names: displacement, scaled base and index, summed and cut to the address
width (the sum of `fetch_address`, §4.1). -/
def Address.resolve (a : Address) (r : Registers) : UInt64 :=
  let base := match a.base with
    | some (b, scale) => r.getSized b a.width <<< scale.toUInt64
    | none => 0
  let index := match a.index with
    | some i => r.getSized i a.width
    | none => 0
  a.width.truncate (a.displacement + base + index)

/-- A place whose address is known. -/
inductive Location where
  | register (r : Register)
  | memory (address : UInt64)
deriving DecidableEq

/-- Finds a place by the present registers. -/
def Place.locate (p : Place) (r : Registers) : Location :=
  match p with
  | .register i => .register i
  | .memory a => .memory (a.resolve r)

abbrev Exec := Faulting Core

namespace Exec

/-- Reads memory at width `w` (`Memory.read`). -/
def readMemory (address : UInt64) (w : Width) : Exec UInt64 :=
  Faulting.query fun c => c.memory.read address w

/-- Writes the low bytes of a value to memory (`Memory.write`). -/
def writeMemory (address : UInt64) (w : Width) (value : UInt64) : Exec Unit := fun c =>
  -- The check comes before the core is taken apart, so that the bytes are changed in place.
  match c.memory.writeFault? address w.bytes with
  | some fault => (.error fault, c)
  | none =>
    (.ok (), { c with memory := c.memory.patch address.toNat (Bytes.ofNat w.bytes value.toNat) })

def getRegister (r : Register) : Exec UInt64 := Faulting.read fun c => c.registers.get r

def setRegister (r : Register) (value : UInt64) : Exec Unit :=
  Faulting.update fun c => { c with registers := c.registers.set r value }

/-- Writes a register through its view of width `w`. -/
def setRegisterSized (r : Register) (w : Width) (value : UInt64) : Exec Unit :=
  Faulting.update fun c => { c with registers := c.registers.setSized r w value }

def jump (rip : UInt64) : Exec Unit := Faulting.update fun c => { c with rip := rip }

/-- Finds a place by the present registers. -/
def locate (p : Place) : Exec Location := Faulting.read fun c => p.locate c.registers

/-- The address of an operand by the present registers. -/
def resolve (a : Address) : Exec UInt64 := Faulting.read fun c => a.resolve c.registers

/-- Reads a location at width `w` (`load`). -/
def load (w : Width) : Location → Exec UInt64
  | .register r => Faulting.read fun c => c.registers.getSized r w
  | .memory address => readMemory address w

/-- Writes a location at width `w` (`store`). -/
def store (w : Width) (l : Location) (value : UInt64) : Exec Unit :=
  match l with
  | .register r => setRegisterSized r w value
  | .memory address => writeMemory address w value

/-- The value of a source at width `w`. -/
def source (w : Width) : Source → Exec UInt64
  | .register r => Faulting.read fun c => c.registers.getSized r w
  | .immediate value => pure (w.truncate value)
  | .memory a => do readMemory (← resolve a) w

/-- Where a push of `size` bytes puts the stack pointer; not below the stack barrier. -/
def pushTarget? (stackBarrier : Nat) (rsp : UInt64) (size : Nat) : Option UInt64 :=
  if size ≤ rsp.toNat ∧ stackBarrier ≤ rsp.toNat - size then some (rsp - UInt64.ofNat size)
  else none

/-- Pushes the low bytes of a value (`push`, §G). The stack pointer may come to rest on the stack
barrier. -/
def push (w : Width) (value : UInt64) : Exec Unit := do
  let rsp ← getRegister .rsp
  let barrier ← Faulting.read fun c => c.memory.stackBarrier
  let slot ← Faulting.orFault .stackOverflow (pushTarget? barrier rsp w.bytes)
  writeMemory slot w value
  setRegister .rsp slot

/-- Pops a value (`pop`, §G). The stack pointer must not be below the stack barrier. -/
def pop (w : Width) : Exec UInt64 := do
  let rsp ← getRegister .rsp
  Faulting.guard fun c =>
    if rsp.toNat < c.memory.stackBarrier then some .stackOverflow else none
  let value ← readMemory rsp w
  setRegister .rsp (rsp + UInt64.ofNat w.bytes)
  return value

def getFlags : Exec Flags := Faulting.read Core.flags

def setFlags (f : Flags) : Exec Unit := Faulting.update fun c => { c with flags := f }

/-- Reads entry `i` of the floating-point stack. -/
def st (i : UInt8) : Exec Double := Faulting.query fun c => c.fpu.st i

/-- Applies a change of the floating-point stack that may not be possible. -/
def changeFpu (f : Fpu → Except Fault Fpu) : Exec Unit := fun c =>
  match f c.fpu with
  | .ok fpu => (.ok (), { c with fpu := fpu })
  | .error fault => (.error fault, c)

/-- Pops the floating-point stack if asked to. -/
def popFpu (wanted : Bool) : Exec Unit :=
  if wanted then changeFpu fun f => f.pop.map Prod.snd else pure ()

end Exec

end GuestMachine
