import GuestMachine.Core.Execute
import GuestMachine.Instruction.Decode
import GuestMachine.Syscall

/-!
# Running a process

One tick executes one instruction: it is fetched below the executable barrier, read, and run. A
fault ends the process. A tick of a process that is stopped or suspended does nothing.
-/

namespace GuestMachine.Machine

/-- The bytes an instruction at the instruction pointer may take. -/
def window (m : Machine) : Bytes :=
  m.core.memory.slice m.core.rip.toNat Instruction.maxLength

/-- Moves the instruction pointer behind the bytes that were read. -/
def advance (length : Nat) : Sys Unit :=
  onCore (Faulting.update fun c => { c with rip := c.rip + UInt64.ofNat length })

/-- Executes one instruction, or faults (`step`, §4.3). -/
def step (table : SyscallTable) : Sys Unit := do
  Faulting.guard fun m =>
    if m.core.memory.exeBarrier ≤ m.core.rip.toNat then some .accessViolation else none
  let decoded ← Faulting.read fun m => Instruction.decode m.window
  advance decoded.length
  match decoded.result with
  | .error fault => Faulting.fail fault
  | .ok .syscall => Syscall.dispatch table
  | .ok (.operation op) => onCore (Exec.execute op)

/-- Executes one instruction of a running process, and ends the process if it faults (`tick`, §4.3).
The answer tells whether an instruction was completed. -/
def tick (table : SyscallTable) (m : Machine) : Bool × Machine :=
  if m.life.ready then
    match step table m with
    | (.ok _, m) => (true, m)
    | (.error fault, m) => (false, m.terminate fault)
  else (false, m)

/-- Ticks until the process stops or suspends, at most `fuel` times, and counts completed
instructions on top of `count`. -/
def runFrom (table : SyscallTable) (m : Machine) : (fuel count : Nat) → Nat × Machine
  | 0, count => (count, m)
  | fuel + 1, count =>
    match m.tick table with
    | (true, m) => m.runFrom table fuel (count + 1)
    | (false, m) => (count, m)

/-- Ticks until the process stops or suspends, at most `fuel` times (`run`, §G). The answer is the
number of completed instructions. -/
def run (table : SyscallTable) (fuel : Nat) (m : Machine) : Nat × Machine :=
  m.runFrom table fuel 0

end GuestMachine.Machine
