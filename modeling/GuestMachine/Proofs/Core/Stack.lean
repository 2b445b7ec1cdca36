import GuestMachine.Proofs.Core.Access
import GuestMachine.Proofs.Memory

/-!
# Pushes and pops

All outcomes of a push and of a pop, each as one equation. Neither changes anything when it
faults.
-/

namespace GuestMachine.Exec

/-- The core with the low bytes of a value pushed into a slot. -/
def pushed (w : Width) (slot value : UInt64) (c : Core) : Core :=
  { c with
    memory := c.memory.patch slot.toNat (Bytes.ofNat w.bytes value.toNat)
    registers := c.registers.set .rsp slot }

@[simp] theorem flags_pushed (w : Width) (slot value : UInt64) (c : Core) :
    (pushed w slot value c).flags = c.flags := rfl

/-- The core with its stack pointer behind a value of width `w`. -/
def popped (w : Width) (c : Core) : Core :=
  { c with registers := c.registers.set .rsp (c.registers.get .rsp + UInt64.ofNat w.bytes) }

theorem run_getRegister (r : Register) (c : Core) :
    (getRegister r).run c = (.ok (c.registers.get r), c) := rfl

theorem run_readMemory (address : UInt64) (w : Width) (c : Core) :
    (readMemory address w).run c = (c.memory.read address w, c) := rfl

/-- A push faults on the stack barrier, then on its slot, and writes only then. -/
theorem run_push (w : Width) (value : UInt64) (c : Core) :
    (push w value).run c =
      match pushTarget? c.memory.stackBarrier (c.registers.get .rsp) w.bytes with
      | none => (.error .stackOverflow, c)
      | some slot =>
        match c.memory.writeFault? slot w.bytes with
        | some fault => (.error fault, c)
        | none => (.ok (), pushed w slot value c) := by
  have chosen := Faulting.run_orFault .stackOverflow
    (pushTarget? c.memory.stackBarrier (c.registers.get .rsp) w.bytes) c
  unfold push
  rw [Faulting.run_bind_ok (run_getRegister .rsp c), Faulting.run_bind_ok (Faulting.run_read _ c)]
  cases target : pushTarget? c.memory.stackBarrier (c.registers.get .rsp) w.bytes with
  | none =>
    rw [target] at chosen
    exact Faulting.run_bind_error chosen
  | some slot =>
    rw [target] at chosen
    rw [Faulting.run_bind_ok chosen]
    dsimp only
    cases fault : c.memory.writeFault? slot w.bytes with
    | some reason => exact Faulting.run_bind_error (run_writeMemory_error value fault)
    | none =>
      rw [Faulting.run_bind_ok (run_writeMemory_ok value fault)]
      rfl

/-- A pop faults on the stack barrier, then on its slot, and moves the stack pointer only then. -/
theorem run_pop (w : Width) (c : Core) :
    (pop w).run c =
      if (c.registers.get .rsp).toNat < c.memory.stackBarrier then (.error .stackOverflow, c)
      else
        match c.memory.read (c.registers.get .rsp) w with
        | .error fault => (.error fault, c)
        | .ok value => (.ok value, popped w c) := by
  have checked := Faulting.run_guard (fun now : Core =>
    if (c.registers.get .rsp).toNat < now.memory.stackBarrier then some .stackOverflow else none) c
  have read := run_readMemory (c.registers.get .rsp) w c
  unfold pop
  rw [Faulting.run_bind_ok (run_getRegister .rsp c)]
  by_cases below : (c.registers.get .rsp).toNat < c.memory.stackBarrier
  · rw [if_pos below] at checked
    rw [if_pos below]
    exact Faulting.run_bind_error checked
  · rw [if_neg below] at checked
    rw [if_neg below, Faulting.run_bind_ok checked]
    cases value : c.memory.read (c.registers.get .rsp) w with
    | error fault =>
      rw [value] at read
      exact Faulting.run_bind_error read
    | ok found =>
      rw [value] at read
      rw [Faulting.run_bind_ok read]
      rfl

/-- The slot of a push lies right below the stack pointer. -/
theorem pushTarget?_eq_some {barrier size : Nat} {rsp slot : UInt64}
    (h : pushTarget? barrier rsp size = some slot) : slot = rsp - UInt64.ofNat size := by
  unfold pushTarget? at h
  split at h
  · exact (Option.some.inj h).symm
  · cases h

theorem run_push_eq_ok {w : Width} {value : UInt64} {c c' : Core}
    (h : (push w value).run c = (.ok (), c')) :
    ∃ slot, slot = c.registers.get .rsp - UInt64.ofNat w.bytes ∧
      c.memory.writeFault? slot w.bytes = none ∧ c' = pushed w slot value c := by
  rw [run_push] at h
  split at h
  · cases h
  · next slot found =>
    split at h
    · cases h
    · next writable =>
      cases h
      exact ⟨slot, pushTarget?_eq_some found, writable, rfl⟩

theorem run_pop_eq_ok {w : Width} {value : UInt64} {c c' : Core}
    (h : (pop w).run c = (.ok value, c')) :
    c.memory.stackBarrier ≤ (c.registers.get .rsp).toNat ∧
      c.memory.read (c.registers.get .rsp) w = .ok value ∧ c' = popped w c := by
  rw [run_pop] at h
  split at h
  · cases h
  · next above =>
    split at h
    · cases h
    · next read =>
      cases h
      exact ⟨Nat.le_of_not_lt above, read, rfl⟩

/-- What was pushed is read back at the stack pointer. -/
theorem read_pushed {slot value : UInt64} {c : Core}
    (writable : c.memory.writeFault? slot Width.qword.bytes = none) :
    (pushed .qword slot value c).memory.read ((pushed .qword slot value c).registers.get .rsp)
      .qword = .ok value := by
  have fits : slot.toNat + (Bytes.ofWord value).length ≤ c.memory.size := by
    rw [Bytes.length_ofWord]
    exact (Memory.writeFault?_eq_none.mp writable).2
  have stored : (pushed .qword slot value c).registers.get .rsp = slot :=
    Registers.get_set_self _ _ _
  rw [stored]
  exact (Memory.holds_patch fits).read

end GuestMachine.Exec
