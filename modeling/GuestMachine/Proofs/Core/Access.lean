import GuestMachine.Core.Execute
import GuestMachine.Proofs.Faulting

/-!
# Accesses to the core

What a single access can do to the core: a checked write of at most eight bytes, a change of
registers, instruction pointer or floating-point stack, or one of the five ways in which flags are
set. Everything else only looks.
-/

namespace GuestMachine

/-- The ways in which the flags are set. -/
inductive Flags.Update (f : Flags) : Flags → Prop
  | binary (op : BinaryOp) (w : Width) (a b : UInt64) : Update f (op.apply f w a b).2
  | unary (op : UnaryOp) (w : Width) (a : UInt64) : Update f (op.apply f w a).2
  | compared (order : Option Ordering) : Update f (f.compared order)
  | restored (value : UInt64) : Update f (f.restorePublic value)
  | changed (change : FlagChange) : Update f (change.apply f)

/-- A single access to the core. -/
inductive Core.Access (c : Core) : Core → Prop
  | memory (address : UInt64) (w : Width) (value : UInt64)
      (writable : c.memory.writeFault? address w.bytes = none) :
      Access c { c with
        memory := c.memory.patch address.toNat (Bytes.ofNat w.bytes value.toNat) }
  | registers (r : Registers) : Access c { c with registers := r }
  | rip (rip : UInt64) : Access c { c with rip := rip }
  | flags (f : Flags) (update : c.flags.Update f) : Access c { c with flags := f }
  | fpu (f : Fpu) : Access c { c with fpu := f }

namespace Exec

open Faulting (Observes)

variable {c : Core}

/-! ## Accesses that only look -/

theorem observes_load (w : Width) (l : Location) : Observes (load w l) := by
  cases l with
  | register r => exact .read _
  | memory address => exact .query _

theorem observes_source (w : Width) (src : Source) : Observes (source w src) := by
  cases src with
  | register r => exact .read _
  | immediate value => exact .pure _
  | memory a => exact .bind (.read _) fun address => .query _

theorem observes_floatSource (src : FloatSource) : Observes (floatSource src) := by
  cases src with
  | entry i => exact .query _
  | double a => exact .bind (.read _) fun address => .bind (.query _) fun bits => .pure _
  | single a => exact .bind (.read _) fun address => .bind (.query _) fun bits => .pure _
  | integer a => exact .bind (.read _) fun address => .bind (.query _) fun value => .pure _
  | constant value => exact .pure _

/-! ## Accesses that change something -/

theorem run_writeMemory_ok {address : UInt64} {w : Width} (value : UInt64)
    (h : c.memory.writeFault? address w.bytes = none) :
    (writeMemory address w value).run c = (.ok (), { c with
      memory := c.memory.patch address.toNat (Bytes.ofNat w.bytes value.toNat) }) := by
  simp only [writeMemory, Faulting.run, h]

theorem run_writeMemory_error {address : UInt64} {w : Width} {fault : Fault} (value : UInt64)
    (h : c.memory.writeFault? address w.bytes = some fault) :
    (writeMemory address w value).run c = (.error fault, c) := by
  simp only [writeMemory, Faulting.run, h]

/-- The core's write is the memory's. -/
theorem run_writeMemory (address : UInt64) (w : Width) (value : UInt64) (c : Core) :
    (writeMemory address w value).run c =
      match c.memory.write address w value with
      | .ok memory => (.ok (), { c with memory := memory })
      | .error fault => (.error fault, c) := by
  unfold Memory.write Memory.writeBytes
  rw [Bytes.length_ofNat]
  cases fault : c.memory.writeFault? address w.bytes with
  | none => rw [run_writeMemory_ok value fault]
  | some reason => rw [run_writeMemory_error value fault]

theorem run_writeMemory_eq_ok {c' : Core} {address : UInt64} {w : Width} {value : UInt64}
    (h : (writeMemory address w value).run c = (.ok (), c')) :
    c.memory.writeFault? address w.bytes = none ∧ c' = { c with
      memory := c.memory.patch address.toNat (Bytes.ofNat w.bytes value.toNat) } := by
  cases fault : c.memory.writeFault? address w.bytes with
  | none =>
    rw [run_writeMemory_ok value fault] at h
    cases h
    exact ⟨rfl, rfl⟩
  | some reason =>
    rw [run_writeMemory_error value fault] at h
    cases h

theorem run_changeFpu_ok {f : Fpu → Except Fault Fpu} {fpu : Fpu} (h : f c.fpu = .ok fpu) :
    (changeFpu f).run c = (.ok (), { c with fpu := fpu }) := by
  simp only [changeFpu, Faulting.run, h]

theorem run_changeFpu_error {f : Fpu → Except Fault Fpu} {fault : Fault}
    (h : f c.fpu = .error fault) : (changeFpu f).run c = (.error fault, c) := by
  simp only [changeFpu, Faulting.run, h]

end Exec

end GuestMachine
