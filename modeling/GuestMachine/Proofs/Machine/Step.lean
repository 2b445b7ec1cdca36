import GuestMachine.Machine.Step
import GuestMachine.Proofs.Faulting
import GuestMachine.Proofs.Memory

/-!
# Ticks, and where their opcodes come from

A tick of a running process faults at the executable barrier or fetches one opcode byte and goes
on with it; otherwise it does nothing. A run is a sequence of ticks.
-/

namespace GuestMachine

namespace Life

variable {l : Life}

theorem running_of_ready (ready : l.ready = true) : l.running = true :=
  (Bool.and_eq_true_iff.mp ready).1

theorem awake_of_ready (ready : l.ready = true) : l.suspended = false := by
  simpa using (Bool.and_eq_true_iff.mp ready).2

theorem ready_of_suspended (suspended : l.suspended = true) : l.ready = false := by
  rw [ready, suspended, Bool.not_true, Bool.and_false]

theorem status_suspend (running : l.running = true) : l.suspend.status = .suspended := by
  simp [status, suspend, running]

end Life

namespace Machine

variable {table : SyscallTable} {m : Machine}

theorem run_onCore {α : Type} (x : Exec α) (m : Machine) :
    (onCore x).run m = ((x.run m.core).1, { m with core := (x.run m.core).2 }) := rfl

theorem run_onDescriptors {α : Type} (x : Faulting Descriptors α) (m : Machine) :
    (onDescriptors x).run m =
      ((x.run m.descriptors).1, { m with descriptors := (x.run m.descriptors).2 }) := rfl

theorem ready_iff : m.life.ready = true ↔ m.status = .running := by
  obtain ⟨_, _, ⟨running, suspended, fault, code⟩, _⟩ := m
  cases running <;> cases suspended <;> cases fault <;> simp [status, Life.ready, Life.status]

theorem running_of_status (running : m.status = .running) : m.life.running = true :=
  Life.running_of_ready (ready_iff.mpr running)

theorem tick_of_not_ready (h : m.life.ready = false) : m.tick table = (false, m) := by
  rw [tick, if_neg (Bool.eq_false_iff.mp h)]

theorem tick_of_not_running (h : m.status ≠ .running) : m.tick table = (false, m) :=
  tick_of_not_ready (Bool.eq_false_iff.mpr fun ready => h (ready_iff.mp ready))

/-- The answer of a tick to the outcome of its step: a fault ends the process. -/
def conclude : Except Fault Unit × Machine → Bool × Machine
  | (.ok _, m) => (true, m)
  | (.error fault, m) => (false, m.terminate fault)

theorem tick_of_running (running : m.status = .running) :
    m.tick table = conclude ((step table).run m) := by
  rw [tick, if_pos (ready_iff.mpr running)]
  rfl

theorem tick_of_step_ok {m' : Machine} (running : m.status = .running)
    (h : (step table).run m = (.ok (), m')) : m.tick table = (true, m') := by
  rw [tick_of_running running, h, conclude]

theorem tick_of_step_error {m' : Machine} {fault : Fault} (running : m.status = .running)
    (h : (step table).run m = (.error fault, m')) :
    m.tick table = (false, m'.terminate fault) := by
  rw [tick_of_running running, h, conclude]

/-- What every tick keeps, every run keeps. -/
theorem run_keeps {R : Machine → Machine → Prop} (refl : ∀ m, R m m)
    (trans : ∀ a b c, R a b → R b c → R a c) (tick : ∀ m, R m (m.tick table).2)
    (fuel : Nat) (m : Machine) : R m (m.run table fuel).2 := by
  have all : ∀ fuel count m, R m (m.runFrom table fuel count).2 := by
    intro fuel
    induction fuel with
    | zero => exact fun _ m => refl m
    | succ fuel ih =>
      intro count m
      have first := tick m
      rw [runFrom]
      split
      · next m' ticked =>
        rw [ticked] at first
        exact trans _ _ _ first (ih (count + 1) m')
      · next m' ticked =>
        rw [ticked] at first
        exact first
  exact all fuel 0 m

theorem core_log (level : Level) (message : String) : (m.log level message).core = m.core := rfl

theorem core_stop (fault : Option Fault) (code : Int32) : (m.stop fault code).core = m.core := by
  simp only [stop]

theorem core_terminate (cause : Fault) : (m.terminate cause).core = m.core := by
  unfold terminate
  rw [core_stop]
  split
  · exact core_log _ _
  · rfl

/-! ## Fetching -/

/-- What is left of a step once `opcode` has been fetched as its first byte. -/
def dispatch (table : SyscallTable) (opcode : UInt8) : Sys Unit := do
  let decoded ← Faulting.read fun m => Instruction.decode (opcode :: m.window.tail)
  advance decoded.length
  match decoded.result with
  | .error fault => Faulting.fail fault
  | .ok .syscall => Syscall.dispatch table
  | .ok (.operation op) => onCore (Exec.execute op)

theorem window_eq_cons {opcode : UInt8}
    (h : m.core.memory.bytes[m.core.rip.toNat]? = some opcode) :
    m.window = opcode :: m.window.tail := by
  have first : m.window[0]? = some opcode := by
    rw [window, Memory.getElem?_slice, if_pos (by decide), Nat.add_zero]
    exact h
  cases bytes : m.window with
  | nil =>
    rw [bytes] at first
    cases first
  | cons b rest =>
    rw [bytes] at first
    cases first
    rfl

theorem run_step_of_barrier_le (h : m.core.memory.exeBarrier ≤ m.core.rip.toNat) :
    (step table).run m = (.error .accessViolation, m) := by
  unfold step
  refine Faulting.run_bind_error ?_
  rw [Faulting.run_guard, if_pos h]

/-- What is left of a step once an instruction, or a fault, has been read. -/
def proceed (table : SyscallTable) (decoded : Decoded) : Sys Unit := do
  advance decoded.length
  match decoded.result with
  | .error fault => Faulting.fail fault
  | .ok .syscall => Syscall.dispatch table
  | .ok (.operation op) => onCore (Exec.execute op)

theorem run_step_of_below (h : m.core.rip.toNat < m.core.memory.exeBarrier) :
    (step table).run m = (proceed table (Instruction.decode m.window)).run m := by
  have allowed : (Faulting.guard fun m : Machine =>
      if m.core.memory.exeBarrier ≤ m.core.rip.toNat then some .accessViolation else none).run m =
      (.ok (), m) := by
    rw [Faulting.run_guard, if_neg (Nat.not_le_of_lt h)]
  unfold step
  rw [Faulting.run_bind_ok allowed, Faulting.run_bind_ok (Faulting.run_read _ _)]
  rfl

theorem run_step_of_lt {opcode : UInt8} (h : m.core.rip.toNat < m.core.memory.exeBarrier)
    (fetched : m.core.memory.bytes[m.core.rip.toNat]? = some opcode) :
    (step table).run m = (dispatch table opcode).run m := by
  unfold dispatch
  rw [run_step_of_below h, Faulting.run_bind_ok (Faulting.run_read _ _), ← window_eq_cons fetched]
  rfl

/-- A tick that completes is a step of a running process below the barrier. -/
theorem tick_eq_true {m' : Machine} (h : m.tick table = (true, m')) :
    m.status = .running ∧ m.core.rip.toNat < m.core.memory.exeBarrier ∧
      (step table).run m = (.ok (), m') := by
  by_cases running : m.status = .running
  · rw [tick_of_running running] at h
    by_cases below : m.core.rip.toNat < m.core.memory.exeBarrier
    · refine ⟨running, below, ?_⟩
      generalize (step table).run m = outcome at h
      obtain ⟨result, stepped⟩ := outcome
      cases result with
      | ok _ =>
        cases h
        rfl
      | error fault => cases h
    · rw [run_step_of_barrier_le (Nat.le_of_not_lt below)] at h
      cases h
  · rw [tick_of_not_running running] at h
    cases h

/-! ## System calls -/

theorem decode_syscall (rest : Bytes) :
    Instruction.decode (Opcode.syscall.toByte :: rest) = ⟨1, .ok .syscall⟩ := by
  have read : Fetch.instruction.run (Opcode.syscall.toByte :: rest) = (.ok .syscall, rest) := rfl
  unfold Instruction.decode
  rw [read]
  simp

/-- The machine with its instruction pointer behind a one-byte instruction. -/
def pastOpcode (m : Machine) : Machine := { m with core := { m.core with rip := m.core.rip + 1 } }

theorem run_argument (r : Register) (m : Machine) :
    (Syscall.argument r).run m = (.ok (m.core.registers.get r), m) := rfl

theorem run_dispatch {handler : Sys Unit}
    (number : table.get? (m.core.registers.get .rax) = some handler) :
    (Syscall.dispatch table).run m = handler.run m := by
  have chosen : (Faulting.orFault .unhandledSyscall (table.get? (m.core.registers.get .rax)) :
      Faulting Machine (Sys Unit)).run m = (.ok handler, m) := by
    rw [Faulting.run_orFault, number]
  unfold Syscall.dispatch
  rw [Faulting.run_bind_ok (run_argument .rax m)]
  exact Faulting.run_bind_ok chosen

/-- A system call runs its handler behind the opcode. -/
theorem run_step_syscall {handler : Sys Unit}
    (below : m.core.rip.toNat < m.core.memory.exeBarrier)
    (opcode : m.core.memory.bytes[m.core.rip.toNat]? = some Opcode.syscall.toByte)
    (number : table.get? (m.core.registers.get .rax) = some handler) :
    (step table).run m = handler.run m.pastOpcode := by
  have advanced : (advance 1).run m = (.ok (), m.pastOpcode) := rfl
  rw [run_step_of_lt below opcode]
  unfold dispatch
  rw [Faulting.run_bind_ok (Faulting.run_read _ _), decode_syscall,
    Faulting.run_bind_ok advanced]
  show (Syscall.dispatch table).run m.pastOpcode = handler.run m.pastOpcode
  exact run_dispatch number

end Machine

end GuestMachine
