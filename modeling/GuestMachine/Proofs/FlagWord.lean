import GuestMachine.Proofs.Core.Stack
import GuestMachine.Proofs.Flags
import GuestMachine.Proofs.Instruction.Reading
import GuestMachine.Proofs.Machine.Action
import GuestMachine.Proofs.Machine.Boot
import GuestMachine.Proofs.Machine.Change

/-!
# The flags word over a whole run

The fixed bits of the flags word are those of a new process as long as the process lives, whatever
it executes and whatever it loads from its stack. So a flags word that was saved on the stack and
stays there is restored exactly.
-/

namespace GuestMachine

open Relation (ReflTransGen)

/-! ## Fixed bits along accesses, changes and actions -/

theorem Core.Access.fixed {c c' : Core} (h : c.Access c') : c'.flags.fixed = c.flags.fixed := by
  cases h with
  | flags f update => exact update.fixed
  | _ => rfl

theorem Core.fixed_of_accesses {c c' : Core} (h : ReflTransGen Core.Access c c') :
    c'.flags.fixed = c.flags.fixed := by
  induction h with
  | refl => rfl
  | tail _ access ih => exact access.fixed.trans ih

theorem Core.Action.fixed (a : Core.Action) (c : Core) :
    (a.apply c).flags.fixed = c.flags.fixed := by
  cases a with
  | push w value => exact Core.fixed_of_accesses (Exec.within_push w value)
  | pop w => exact Core.fixed_of_accesses (Exec.within_pop w)
  | _ => rfl

namespace Machine

theorem Change.fixed {m m' : Machine} (h : m.Change m') :
    m'.core.flags.fixed = m.core.flags.fixed := by
  cases h with
  | core c access => exact access.fixed
  | _ => rfl

theorem fixed_tick (m : Machine) :
    (m.tick SyscallTable.standard).2.core.flags.fixed = m.core.flags.fixed :=
  tick_keeps (R := fun m m' => m'.core.flags.fixed = m.core.flags.fixed)
    (fun _ => rfl) (fun _ _ _ first second => second.trans first) (fun _ _ => Change.fixed)
    (fun _ => rfl) (fun m fault code => by rw [core_stop]) m

theorem fixed_perform (a : Action) (m : Machine) :
    (m.perform a).core.flags.fixed = m.core.flags.fixed := by
  cases a with
  | tick => exact fixed_tick m
  | run fuel =>
    exact run_keeps (R := fun m m' => m'.core.flags.fixed = m.core.flags.fixed)
      (fun _ => rfl) (fun _ _ _ first second => second.trans first) fixed_tick fuel m
  | resume => rfl
  | terminate cause => rw [perform, core_terminate]
  | exit code => rw [perform, exit, core_stop]
  | core a => exact a.fixed m.core
  | descriptors a => rfl

theorem fixed_performAll (actions : List Action) (m : Machine) :
    (m.performAll actions).core.flags.fixed = m.core.flags.fixed :=
  performAll_keeps (R := fun m m' => m'.core.flags.fixed = m.core.flags.fixed)
    (fun _ => rfl) (fun _ _ _ first second => second.trans first) (fun a _ => fixed_perform a) m

/-! ## Saving and restoring -/

variable {table : SyscallTable} {m m' : Machine}

/-- An opcode without operands is an instruction of one byte. -/
theorem decode_opcode {op : Opcode} {i : Instruction} (plain : Fetch.operands op = pure i)
    (rest : Bytes) : Instruction.decode (op.toByte :: rest) = ⟨1, .ok i⟩ := by
  have read : Fetch.instruction.run (op.toByte :: rest) = (.ok i, rest) := by
    rw [Fetch.run_instruction_cons, plain]
    rfl
  unfold Instruction.decode
  rw [read]
  simp

/-- What a completed tick on an opcode without operands has done to the core. -/
theorem execute_of_tick {op : Opcode} {operation : Operation}
    (plain : Fetch.operands op = pure (.operation operation))
    (opcode : m.core.memory.bytes[m.core.rip.toNat]? = some op.toByte)
    (completed : m.tick table = (true, m')) :
    (Exec.execute operation).run m.pastOpcode.core = (.ok (), m'.core) := by
  obtain ⟨-, below, stepped⟩ := tick_eq_true completed
  have advanced : (advance 1).run m = (.ok (), m.pastOpcode) := rfl
  rw [run_step_of_lt below opcode] at stepped
  unfold dispatch at stepped
  rw [Faulting.run_bind_ok (Faulting.run_read _ _), decode_opcode plain,
    Faulting.run_bind_ok advanced] at stepped
  have executed : (onCore (Exec.execute operation)).run m.pastOpcode = (.ok (), m') := stepped
  rw [run_onCore] at executed
  obtain ⟨result, rfl⟩ := Prod.mk.inj executed
  exact Prod.ext result rfl

/-- Saving the flags keeps them and leaves them at the stack pointer. -/
theorem flags_of_tick_pushf
    (opcode : m.core.memory.bytes[m.core.rip.toNat]? = some Opcode.pushf.toByte)
    (completed : m.tick table = (true, m')) :
    m'.core.flags = m.core.flags ∧
      m'.core.memory.read (m'.core.registers.get .rsp) .qword = .ok m.core.flags.bits := by
  have executed : (Exec.execute .pushf).run m.pastOpcode.core = (.ok (), m'.core) :=
    execute_of_tick rfl opcode completed
  have pushes : (Exec.push .qword m.core.flags.bits).run m.pastOpcode.core = (.ok (), m'.core) :=
    executed
  obtain ⟨slot, -, writable, pushed⟩ := Exec.run_push_eq_ok pushes
  rw [pushed]
  refine ⟨?_, ?_⟩
  · rw [Exec.flags_pushed]
    rfl
  · exact Exec.read_pushed writable

/-- Restoring the flags takes the public ones from the word at the stack pointer. -/
theorem flags_of_tick_popf {value : UInt64}
    (opcode : m.core.memory.bytes[m.core.rip.toNat]? = some Opcode.popf.toByte)
    (saved : m.core.memory.read (m.core.registers.get .rsp) .qword = .ok value)
    (completed : m.tick table = (true, m')) :
    m'.core.flags = m.core.flags.restorePublic value := by
  have executed : (Exec.execute .popf).run m.pastOpcode.core = (.ok (), m'.core) :=
    execute_of_tick rfl opcode completed
  cases outcome : (Exec.pop .qword).run m.pastOpcode.core with
  | mk result c =>
    cases result with
    | error fault =>
      rw [Exec.execute, Faulting.run_bind_error outcome] at executed
      cases executed
    | ok found =>
      obtain ⟨-, read, rfl⟩ := Exec.run_pop_eq_ok outcome
      obtain rfl : value = found := Except.ok.inj (saved.symm.trans read)
      rw [Exec.execute, Faulting.run_bind_ok outcome] at executed
      exact (congrArg Core.flags (Prod.mk.inj executed).2).symm

/-- From the start of a process on, over every history, the reserved bit of the flags word is set
and every other bit outside the public ones is clear, among them the trap and the interrupt flag.
Wherever a process saves its flags on the stack, and restores them after a history that has left
the saved word and the stack pointer as they were, it gets back the flags it saved. Loading flags
twice is loading them once, and only the public bits of what is loaded count. -/
theorem flag_word_sound {noise : UInt64 → (size : Nat) → Noise size} {m₀ m : Machine} {e : Image}
    {args : List String} {reserve : UInt64} (booted : m₀.bootWith noise e args reserve = .ok m)
    (actions : List Action) :
    let now := m.performAll actions
    (now.core.flags.get Flags.reserved = true ∧
      now.core.flags.bits &&& ~~~(Flags.publicMask ||| Flags.reserved) = 0) ∧
    (∀ (saved restored : Machine) (between : List Action),
      let later := saved.performAll between
      let rsp := saved.core.registers.get .rsp
      now.core.memory.bytes[now.core.rip.toNat]? = some Opcode.pushf.toByte →
      now.tick SyscallTable.standard = (true, saved) →
      later.core.registers.get .rsp = rsp →
      later.core.memory.read rsp .qword = saved.core.memory.read rsp .qword →
      later.core.memory.bytes[later.core.rip.toNat]? = some Opcode.popf.toByte →
      later.tick SyscallTable.standard = (true, restored) →
      restored.core.flags = now.core.flags) ∧
    ∀ (f : Flags) (v : UInt64), (f.restorePublic v).restorePublic v = f.restorePublic v ∧
      ∀ w, v &&& Flags.publicMask = w &&& Flags.publicMask →
        f.restorePublic v = f.restorePublic w := by
  intro now
  refine ⟨?_, ?_, ?_⟩
  · apply Flags.sound_of_fixed
    obtain ⟨_, _, _, -, -, -, -, rfl⟩ := bootWith_eq_ok booted
    exact (fixed_performAll actions _).trans Flags.fixed_initial
  · intro saved restored between later rsp pushes pushed pointer word pops popped
    obtain ⟨kept, stored⟩ := flags_of_tick_pushf pushes pushed
    have found : later.core.memory.read (later.core.registers.get .rsp) .qword =
        .ok now.core.flags.bits := by
      rw [pointer, word]
      exact stored
    have same : later.core.flags.fixed = now.core.flags.fixed := by
      rw [← kept]
      exact fixed_performAll between saved
    rw [flags_of_tick_popf pops found popped]
    exact Flags.restorePublic_bits same
  · intro f v
    exact ⟨f.restorePublic_restorePublic v v, fun w same => f.restorePublic_congr same⟩

/-- A program that saves its flags, sets the carry and restores them. -/
def savingFlags : Image :=
  { text := [Opcode.pushf.toByte, Opcode.flagOp.toByte, 0x01, Opcode.popf.toByte] }

theorem flag_word_sound_savingFlags :
    ∃ m saved restored, (new {} {}).boot savingFlags [] 8 = .ok m ∧
      m.tick SyscallTable.standard = (true, saved) ∧
      (saved.performAll [.tick]).core.flags.get Flags.carry = true ∧
      (saved.performAll [.tick]).tick SyscallTable.standard = (true, restored) ∧
      restored.core.flags = m.core.flags := by
  have runs : ∃ m saved restored, (new {} {}).boot savingFlags [] 8 = .ok m ∧
      m.tick SyscallTable.standard = (true, saved) ∧
      (saved.performAll [.tick]).tick SyscallTable.standard = (true, restored) ∧
      m.core.memory.bytes[m.core.rip.toNat]? = some Opcode.pushf.toByte ∧
      (saved.performAll [.tick]).core.registers.get .rsp = saved.core.registers.get .rsp ∧
      (saved.performAll [.tick]).core.memory = saved.core.memory ∧
      (saved.performAll [.tick]).core.memory.bytes[
        (saved.performAll [.tick]).core.rip.toNat]? = some Opcode.popf.toByte ∧
      (saved.performAll [.tick]).core.flags.get Flags.carry = true :=
    ⟨_, _, _, rfl, rfl, rfl, rfl, rfl, rfl, rfl, rfl⟩
  obtain ⟨m, saved, restored, booted, pushed, popped, pushes, pointer, memory, pops, carry⟩ := runs
  have restores := (flag_word_sound booted []).2.1 saved restored [.tick] pushes pushed pointer
    (by rw [memory]) pops popped
  exact ⟨m, saved, restored, booted, pushed, carry, popped, restores⟩

end Machine

end GuestMachine
