import GuestMachine.Proofs.Core.Operand
import GuestMachine.Proofs.Fallout
import GuestMachine.Proofs.Fetching
import GuestMachine.Proofs.Machine.Footprint

/-!
# How far a tick moves the instruction pointer

Every instruction that completes has taken as many bytes as its length says, and the length depends
on those bytes alone. Unless it transfers control, the next instruction is the one behind it; and
what a call leaves on the stack is the address behind the call.
-/

namespace GuestMachine

/-- The operation takes control elsewhere: a jump, call or return, or a conditional jump or loop
that is taken. -/
def Operation.transfers (c : Core) : Operation → Bool
  | .jmp _ _ | .call _ _ | .ret => true
  | .jcc cond _ _ => c.flags.holds cond
  | .loopCc kind counter _ _ =>
    kind.taken (counter.truncate (c.registers.get .rcx - 1)) (c.flags.get Flags.zero)
  | _ => false

@[simp] theorem Place.rip_footprint (dst : Place) : dst.footprint.rip = false := by
  cases dst <;> rfl

@[simp] theorem FloatTarget.rip_footprint (dst : FloatTarget) : dst.footprint.rip = false := by
  cases dst <;> rfl

namespace Exec

variable {c c' : Core} {op : Operation}

theorem rip_of_untaken_jcc {cond : Condition} {w : Width} {target : Source}
    (completed : (execute (.jcc cond w target)).run c = (.ok (), c'))
    (untaken : c.flags.holds cond = false) : c'.rip = c.rip := by
  rw [run_jcc] at completed
  split at completed
  · cases completed
  · simp only [untaken] at completed
    cases completed
    rfl

theorem rip_of_untaken_loopCc {kind : LoopKind} {counter w : Width} {target : Source}
    (completed : (execute (.loopCc kind counter w target)).run c = (.ok (), c'))
    (untaken : kind.taken (counter.truncate (c.registers.get .rcx - 1))
      (c.flags.get Flags.zero) = false) : c'.rip = c.rip := by
  rw [run_loopCc] at completed
  split at completed
  · cases completed
  · simp only [untaken] at completed
    cases completed
    rfl

/-- An operation that completes without transferring control leaves the instruction pointer
alone. -/
theorem rip_of_execute (completed : (execute op).run c = (.ok (), c'))
    (stays : op.transfers c = false) : c'.rip = c.rip := by
  have same := sameOutside_execute op c
  rw [completed] at same
  cases op with
  | jmp w target | call w target | ret => cases stays
  | jcc cond w target => exact rip_of_untaken_jcc completed stays
  | loopCc kind counter w target => exact rip_of_untaken_loopCc completed stays
  | binary op w dst src =>
    refine same.rip ?_
    simp only [Operation.footprint]
    split <;> simp
  | _ => exact same.rip (by simp [Operation.footprint])

/-- A call that completes has pushed the instruction pointer right below the stack pointer. -/
theorem pushed_of_call {w : Width} {target : Source}
    (completed : (execute (.call w target)).run c = (.ok (), c')) :
    c'.registers.get .rsp = c.registers.get .rsp - 8 ∧
      c'.memory.read (c'.registers.get .rsp) .qword = .ok c.rip := by
  rw [run_call] at completed
  split at completed
  · cases completed
  · split at completed
    · cases completed
    · next pushing =>
      cases completed
      obtain ⟨slot, below, writable, rfl⟩ := run_push_eq_ok pushing
      refine ⟨?_, read_pushed writable⟩
      rw [← show slot = c.registers.get .rsp - 8 from below]
      exact Registers.get_set_self _ _ _

end Exec

namespace Machine

variable {m m' : Machine}

/-- A tick that completes has moved behind the bytes of an instruction and executed it there. -/
theorem spells_of_tick {table : SyscallTable} (completed : m.tick table = (true, m')) :
    let n := Instruction.length m.window
    ∃ i, Instruction.Spells (m.core.memory.slice m.core.rip.toNat n) i ∧
      (m.core.memory.slice m.core.rip.toNat n).length = n ∧
      Instruction.decode m.window = ⟨n, .ok i⟩ ∧
      (proceed table ⟨n, .ok i⟩).run m = (.ok (), m') := by
  obtain ⟨taken, i, spells, stored, proceeded⟩ := exists_spells_of_tick completed
  have begins : m.window.take taken.length = taken := by
    rw [window, Memory.take_slice _ _ spells.le, stored]
  have front := List.take_append_drop taken.length m.window
  rw [begins] at front
  have length : Instruction.length m.window = taken.length := by
    rw [← front]
    exact spells.length_append _
  have decoded : Instruction.decode m.window = ⟨taken.length, .ok i⟩ := by
    rw [← front]
    exact spells.decode _
  dsimp only
  rw [length, stored]
  exact ⟨i, spells, rfl, decoded, proceeded⟩

/-- The length of an instruction is a function of its bytes alone, with values from one to fourteen:
whatever else the machine holds, a tick that completes has taken exactly that many bytes at the
instruction pointer, none of them past the end of memory, and the bytes behind them do not matter.
An operation that does not transfer control, a conditional jump or loop that is not taken and a
system call that does not suspend the process leave the instruction pointer right behind these
bytes, and a call has pushed that address, whatever the form of its target. -/
theorem instruction_length_exact :
    (∀ input, 1 ≤ Instruction.length input ∧ Instruction.length input ≤ 14) ∧
    ∀ m m' : Machine, m.tick SyscallTable.standard = (true, m') →
      let n := Instruction.length m.window
      let next := m.core.rip + UInt64.ofNat n
      m.core.rip.toNat + n ≤ m.core.memory.size ∧
      (m.core.memory.size < UInt64.size → next.toNat = m.core.rip.toNat + n) ∧
      (∀ other, Instruction.length (m.core.memory.slice m.core.rip.toNat n ++ other) = n) ∧
      ∃ i, Instruction.decode m.window = ⟨n, .ok i⟩ ∧
        (i = .syscall → m'.status ≠ .suspended → m'.core.rip = next) ∧
        (∀ op, i = .operation op → op.transfers m.core = false → m'.core.rip = next) ∧
        ∀ w target, i = .operation (.call w target) →
          m'.core.registers.get .rsp = m.core.registers.get .rsp - 8 ∧
          m'.core.memory.read (m'.core.registers.get .rsp) .qword = .ok next := by
  refine ⟨fun input => ⟨Instruction.length_pos input, Instruction.length_le input⟩, ?_⟩
  intro m m' completed n next
  obtain ⟨i, spells, length, decoded, proceeded⟩ := spells_of_tick completed
  have advanced : (advance n).run m = (.ok (), m.fetched) := by
    rw [← m.run_advance, decoded]
  have behind : m.fetched.core.rip = next := by
    rw [fetched, decoded]
    rfl
  have executes : ∀ op, i = .operation op → m.Executes op := by
    rintro op rfl
    exact ⟨(tick_eq_true completed).2.1, by rw [decoded]⟩
  rw [Memory.length_slice] at length
  have inside : n ≤ m.core.memory.size - m.core.rip.toNat := by omega
  have pos : 1 ≤ n := Instruction.length_pos m.window
  refine ⟨by omega, Core.toNat_rip_past inside, ?_, i, decoded, ?_, ?_, ?_⟩
  · intro other
    rw [spells.length_append, Memory.length_slice]
    exact length
  · rintro rfl awake
    rw [proceed, Faulting.run_bind_ok advanced] at proceeded
    rw [← behind]
    exact Syscall.rip_of_dispatch (running_of_status (tick_eq_true completed).1) proceeded awake
  · intro op is stays
    rw [← behind]
    refine Exec.rip_of_execute (executed_of_tick (executes op is) completed).1 ?_
    cases op <;> exact stays
  · intro w target is
    rw [← behind]
    exact Exec.pushed_of_call (executed_of_tick (executes _ is) completed).1

/-- A machine about to call through a word behind its text, with room for one word on its stack. -/
def calling : Machine :=
  { new {} {} with
    core := { Core.blank with
      memory := ⟨([Opcode.call.toByte, 0x0E, 0x84, 0x00, 0x05] ++ List.replicate 16 0).toArray,
        5, 5, 5⟩
      registers := Registers.empty.set .rsp 21 }
    life := .started }

theorem instruction_length_exact_calling :
    ∃ m', calling.tick SyscallTable.standard = (true, m') ∧
      Instruction.length calling.window = 5 ∧ calling.core.memory.size < UInt64.size ∧
      (calling.core.rip + 5).toNat = calling.core.rip.toNat + 5 ∧ m'.core.rip = 0 ∧
      m'.core.registers.get .rsp = 13 ∧ m'.core.memory.read 13 .qword = .ok 5 := by
  obtain ⟨m', completed, jumped⟩ : ∃ m', calling.tick SyscallTable.standard = (true, m') ∧
      m'.core.rip = 0 := ⟨_, rfl, rfl⟩
  have small : calling.core.memory.size < UInt64.size := by decide
  obtain ⟨-, unwrapped, -, i, decoded, -, -, called⟩ :=
    instruction_length_exact.2 calling m' completed
  have is : i = .operation (.call .qword (.memory ⟨.word, 5, none, none⟩)) :=
    (Except.ok.inj (congrArg Decoded.result decoded)).symm
  obtain ⟨stack, pushed⟩ := called _ _ is
  have below : m'.core.registers.get .rsp = 13 := stack
  rw [below] at pushed
  exact ⟨m', completed, rfl, small, unwrapped small, jumped, below, pushed⟩

end Machine

end GuestMachine
