import GuestMachine.Proofs.Core.Stack

/-!
# What operands are worth

The value of an operand is a function of the registers and the memory. With it, every operation
that reads its operands and then branches or computes is one equation over all its outcomes.
-/

namespace GuestMachine

/-- The value of a source at width `w`, or the fault of reading it. -/
def Source.value (w : Width) (c : Core) : Source → Except Fault UInt64
  | .register r => .ok (c.registers.getSized r w)
  | .immediate value => .ok (w.truncate value)
  | .memory a => c.memory.read (a.resolve c.registers) w

/-- What a place holds at width `w`, or the fault of reading it. -/
def Place.value (w : Width) (c : Core) : Place → Except Fault UInt64
  | .register r => .ok (c.registers.getSized r w)
  | .memory a => c.memory.read (a.resolve c.registers) w

variable {c d : Core}

/-- No operand depends on the instruction pointer, the flags or the floating-point stack. -/
theorem Source.value_congr (registers : d.registers = c.registers) (memory : d.memory = c.memory)
    (w : Width) (src : Source) : src.value w d = src.value w c := by
  cases src <;> simp only [value, registers, memory]

theorem Place.value_congr (registers : d.registers = c.registers) (memory : d.memory = c.memory)
    (w : Width) (place : Place) : place.value w d = place.value w c := by
  cases place <;> simp only [value, registers, memory]

namespace Exec

theorem run_source (w : Width) (src : Source) (c : Core) :
    (source w src).run c = (src.value w c, c) := by
  cases src <;> rfl

theorem run_load_locate (w : Width) (place : Place) (c : Core) :
    (load w (place.locate c.registers)).run c = (place.value w c, c) := by
  cases place <;> rfl

/-- An operation on a source goes on with its value, or faults and changes nothing. -/
theorem run_source_bind {β : Type} (w : Width) (src : Source) (k : UInt64 → Exec β) (c : Core) :
    (source w src >>= k).run c =
      match src.value w c with
      | .ok value => (k value).run c
      | .error fault => (.error fault, c) := by
  rw [Faulting.run_bind, run_source]
  cases src.value w c <;> rfl

/-- A binary operation takes its source before its destination, sets the flags, and then stores
its result if it is one that does. -/
theorem run_binary (op : BinaryOp) (w : Width) (dst : Place) (src : Source) (c : Core) :
    (execute (.binary op w dst src)).run c =
      match src.value w c, dst.value w c with
      | .error fault, _ => (.error fault, c)
      | .ok _, .error fault => (.error fault, c)
      | .ok b, .ok a =>
        let outcome := op.apply c.flags w a b
        if op.writesBack then
          (store w (dst.locate c.registers) outcome.1).run { c with flags := outcome.2 }
        else (.ok (), { c with flags := outcome.2 }) := by
  have located : (locate dst).run c = (.ok (dst.locate c.registers), c) := rfl
  have loaded := run_load_locate w dst c
  rw [execute, runBinary, Faulting.run_bind_ok located, run_source_bind]
  cases src.value w c with
  | error fault => rfl
  | ok b =>
    cases value : dst.value w c with
    | error fault =>
      rw [value] at loaded
      exact Faulting.run_bind_error loaded
    | ok a =>
      rw [value] at loaded
      dsimp only
      rw [Faulting.run_bind_ok loaded]
      cases op <;> rfl

theorem run_jcc (cond : Condition) (w : Width) (target : Source) (c : Core) :
    (execute (.jcc cond w target)).run c =
      match target.value w c with
      | .error fault => (.error fault, c)
      | .ok address => (.ok (), if c.flags.holds cond then { c with rip := address } else c) := by
  rw [execute, run_source_bind]
  cases target.value w c with
  | error fault => rfl
  | ok address =>
    have flags : getFlags.run c = (.ok c.flags, c) := rfl
    dsimp only
    rw [Faulting.run_bind_ok flags]
    cases c.flags.holds cond <;> rfl

/-- The core with the view of its counter at width `w` counted down. -/
def countedDown (w : Width) (c : Core) : Core :=
  { c with
    registers := c.registers.setSized .rcx w (w.truncate (c.registers.get .rcx - 1)) }

theorem run_loopCc (kind : LoopKind) (counter w : Width) (target : Source) (c : Core) :
    (execute (.loopCc kind counter w target)).run c =
      match target.value w c with
      | .error fault => (.error fault, c)
      | .ok address => (.ok (),
          if kind.taken (counter.truncate (c.registers.get .rcx - 1)) (c.flags.get Flags.zero) then
            { countedDown counter c with rip := address }
          else countedDown counter c) := by
  rw [execute, runLoop, run_source_bind]
  cases target.value w c with
  | error fault => rfl
  | ok address =>
    have count : (getRegister .rcx).run c = (.ok (c.registers.get .rcx), c) := rfl
    have counted : (setRegisterSized .rcx counter
        (counter.truncate (c.registers.get .rcx - 1))).run c =
        (.ok (), countedDown counter c) := rfl
    have flags : getFlags.run (countedDown counter c) = (.ok c.flags, countedDown counter c) := rfl
    dsimp only
    rw [Faulting.run_bind_ok count, Faulting.run_bind_ok counted, Faulting.run_bind_ok flags]
    cases kind.taken (counter.truncate (c.registers.get .rcx - 1)) (c.flags.get Flags.zero) <;> rfl

/-- A call pushes the instruction pointer, which stands behind the call, and then jumps. -/
theorem run_call (w : Width) (target : Source) (c : Core) :
    (execute (.call w target)).run c =
      match target.value w c with
      | .error fault => (.error fault, c)
      | .ok address =>
        match (push .qword c.rip).run c with
        | (.error fault, c') => (.error fault, c')
        | (.ok _, c') => (.ok (), { c' with rip := address }) := by
  have rip : (Faulting.read Core.rip).run c = (.ok c.rip, c) := rfl
  rw [execute, run_source_bind]
  cases target.value w c with
  | error fault => rfl
  | ok address =>
    dsimp only
    rw [Faulting.run_bind_ok rip, Faulting.run_bind]
    rcases (push .qword c.rip).run c with ⟨_ | _, c'⟩ <;> rfl

end Exec

end GuestMachine
