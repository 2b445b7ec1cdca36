/-!
# Faults

A fault is the reason a guest process was stopped. A step that may fault still leaves the
state it had reached, so `Faulting` keeps a state on both outcomes.
-/

namespace GuestMachine

/-- The cause that ended a process (`ErrorCode`, §7). -/
inductive Fault where
  /-- An access outside the address space, or a descriptor index outside the table. -/
  | outOfBounds
  /-- A write below the read-only barrier, or a fetch at or above the executable barrier. -/
  | accessViolation
  /-- The stack pointer went below the stack barrier. -/
  | stackOverflow
  /-- An unknown opcode, an illegal operand or an impossible floating-point stack move. -/
  | undefinedBehavior
  /-- The halt instruction. -/
  | abort
  /-- A system call number without a handler. -/
  | unhandledSyscall
  /-- A closed descriptor slot. -/
  | descriptorNotInUse
  /-- A file-system call while the capability is off. -/
  | fileSystemDisabled
  /-- No closed slot is left for a new descriptor. -/
  | noFreeDescriptor
  /-- A host stream or the host file system refused. -/
  | hostFailure
deriving DecidableEq

/-- The wording of a fault. -/
def Fault.message : Fault → String
  | outOfBounds => "out of bounds"
  | accessViolation => "access violation"
  | stackOverflow => "stack overflow"
  | undefinedBehavior => "undefined behavior"
  | abort => "abort"
  | unhandledSyscall => "unhandled syscall"
  | descriptorNotInUse => "file descriptor not in use"
  | fileSystemDisabled => "filesystem access disabled"
  | noFreeDescriptor => "insufficient file descriptors"
  | hostFailure => "host i/o failure"

/-- A computation over a state `σ` that may fault. A fault keeps the state reached so far. -/
def Faulting (σ α : Type) : Type := σ → Except Fault α × σ

namespace Faulting

variable {σ α β : Type}

@[inline] def run (x : Faulting σ α) (s : σ) : Except Fault α × σ := x s

@[inline] protected def pure (a : α) : Faulting σ α := fun s => (.ok a, s)

@[inline] protected def bind (x : Faulting σ α) (f : α → Faulting σ β) : Faulting σ β := fun s =>
  match x s with
  | (.ok a, s) => f a s
  | (.error fault, s) => (.error fault, s)

instance : Monad (Faulting σ) where
  pure := Faulting.pure
  bind := Faulting.bind

/-- Faults without changing the state. -/
@[inline] def fail (fault : Fault) : Faulting σ α := fun s => (.error fault, s)

@[inline] def read (f : σ → α) : Faulting σ α := fun s => (.ok (f s), s)

/-- Reads something off the state that may not be there. -/
@[inline] def query (f : σ → Except Fault α) : Faulting σ α := fun s => (f s, s)

@[inline] def update (f : σ → σ) : Faulting σ Unit := fun s => (.ok (), f s)

/-- Faults if the state gives a reason to. -/
@[inline] def guard (f : σ → Option Fault) : Faulting σ Unit := fun s =>
  match f s with
  | none => (.ok (), s)
  | some fault => (.error fault, s)

/-- Takes the value of an optional result, or faults. -/
@[inline] def orFault (fault : Fault) : Option α → Faulting σ α
  | some a => Faulting.pure a
  | none => fail fault

@[simp] theorem run_pure (a : α) (s : σ) : (pure a : Faulting σ α).run s = (.ok a, s) := rfl

@[simp] theorem run_fail (fault : Fault) (s : σ) :
    (fail fault : Faulting σ α).run s = (.error fault, s) := rfl

@[simp] theorem run_read (f : σ → α) (s : σ) : (read f).run s = (.ok (f s), s) := rfl

@[simp] theorem run_query (f : σ → Except Fault α) (s : σ) : (query f).run s = (f s, s) := rfl

@[simp] theorem run_update (f : σ → σ) (s : σ) : (update f).run s = (.ok (), f s) := rfl

theorem run_bind (x : Faulting σ α) (f : α → Faulting σ β) (s : σ) :
    (x >>= f).run s =
      match x.run s with
      | (.ok a, s') => (f a).run s'
      | (.error fault, s') => (.error fault, s') := rfl

end Faulting

end GuestMachine
