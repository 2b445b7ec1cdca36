import GuestMachine.Proofs.Machine.Action
import GuestMachine.Proofs.Machine.Boot
import GuestMachine.Proofs.Machine.Change
import GuestMachine.Proofs.Machine.Step

/-!
# Confinement

A process cannot leave the address space it was started with, nor change its own code: whatever
it executes, and whatever a driver does to it without starting another process, the size and the
barriers stay, the bytes below the read-only barrier stay, and every opcode that is executed is a
byte of the text segment of its image.
-/

namespace GuestMachine

open Relation (ReflTransGen)

/-! ## Memory along accesses, changes and actions -/

theorem Core.Access.sealed {c c' : Core} (h : c.Access c') : c.memory.Sealed c'.memory := by
  cases h with
  | memory address w value writable => exact .of_writeFault? _ writable
  | registers r => exact .refl _
  | rip rip => exact .refl _
  | flags f update => exact .refl _
  | fpu f => exact .refl _

theorem Core.sealed_of_accesses {c c' : Core} (h : ReflTransGen Core.Access c c') :
    c.memory.Sealed c'.memory := by
  induction h with
  | refl => exact .refl _
  | tail _ access ih => exact ih.trans access.sealed

theorem Core.sealed_written {c : Core} {result : Except Fault Memory}
    (h : ∀ memory, result = .ok memory → c.memory.Sealed memory) :
    c.memory.Sealed (c.written result).memory := by
  cases result with
  | ok memory => exact h memory rfl
  | error fault => exact .refl _

theorem Core.Action.sealed (a : Core.Action) (c : Core) : c.memory.Sealed (a.apply c).memory := by
  cases a with
  | setRip rip => exact .refl _
  | setRegister r value => exact .refl _
  | setRegisterSized r w value => exact .refl _
  | push w value => exact Core.sealed_of_accesses (Exec.within_push w value)
  | pop w => exact Core.sealed_of_accesses (Exec.within_pop w)
  | write pos w value => exact Core.sealed_written fun _ h => .writeBytes h
  | writeBytes pos data => exact Core.sealed_written fun _ h => .writeBytes h
  | writeText pos text => exact Core.sealed_written fun _ h => .writeBytes h

namespace Machine

theorem Change.sealed {m m' : Machine} (h : m.Change m') :
    m.core.memory.Sealed m'.core.memory := by
  cases h with
  | core c access => exact access.sealed
  | deliver buffer length data writable => exact .of_writeFault? data writable
  | _ => exact .refl _

theorem sealed_tick (m : Machine) :
    m.core.memory.Sealed (m.tick SyscallTable.standard).2.core.memory :=
  tick_keeps (R := fun m m' => m.core.memory.Sealed m'.core.memory)
    (fun _ => .refl _) (fun _ _ _ => .trans) (fun _ _ => Change.sealed) (fun _ => .refl _)
    (fun m fault code => by rw [core_stop]; exact .refl _) m

theorem sealed_perform (a : Action) (m : Machine) :
    m.core.memory.Sealed (m.perform a).core.memory := by
  cases a with
  | tick => exact sealed_tick m
  | run fuel =>
    exact run_keeps (R := fun m m' => m.core.memory.Sealed m'.core.memory)
      (fun _ => .refl _) (fun _ _ _ => .trans) sealed_tick fuel m
  | resume => exact .refl _
  | terminate cause =>
    rw [perform, core_terminate]
    exact .refl _
  | exit code =>
    rw [perform, exit, core_stop]
    exact .refl _
  | core a => exact a.sealed m.core
  | descriptors a => exact .refl _

theorem sealed_performAll (actions : List Action) (m : Machine) :
    m.core.memory.Sealed (m.performAll actions).core.memory :=
  performAll_keeps (R := fun m m' => m.core.memory.Sealed m'.core.memory)
    (fun _ => .refl _) (fun _ _ _ => .trans) (fun a _ => sealed_perform a) m

end Machine

/-! ## The code of a process -/

/-- The address space of a process of `e` whose stack has `reserve` bytes. -/
structure Memory.Carries (m : Memory) (e : Image) (reserve : Nat) : Prop where
  size : m.size = e.content.length + e.bss.toNat + reserve
  exeBarrier : m.exeBarrier = e.text.length
  readonlyBarrier : m.readonlyBarrier = e.text.length + e.rodata.length
  stackBarrier : m.stackBarrier = e.content.length + e.bss.toNat
  code : ∀ i, i < m.readonlyBarrier → m.bytes[i]? = (e.text ++ e.rodata)[i]?

namespace Memory.Carries

variable {m m' : Memory} {e : Image} {reserve : Nat}

theorem of_sealed (h : m.Carries e reserve) (sealed : m.Sealed m') : m'.Carries e reserve where
  size := sealed.size.trans h.size
  exeBarrier := sealed.exeBarrier.trans h.exeBarrier
  readonlyBarrier := sealed.readonlyBarrier.trans h.readonlyBarrier
  stackBarrier := sealed.stackBarrier.trans h.stackBarrier
  code i hi := by
    rw [sealed.readonlyBarrier] at hi
    rw [sealed.bytes i hi, h.code i hi]

theorem slice_code (h : m.Carries e reserve) :
    m.slice 0 m.readonlyBarrier = e.text ++ e.rodata := by
  apply List.ext_getElem?
  intro i
  rw [getElem?_slice, Nat.zero_add]
  by_cases below : i < m.readonlyBarrier
  · rw [if_pos below, h.code i below]
  · rw [if_neg below, List.getElem?_eq_none]
    rw [List.length_append, ← h.readonlyBarrier]
    exact Nat.le_of_not_lt below

theorem fetch (h : m.Carries e reserve) {i : Nat} (below : i < m.exeBarrier) :
    ∃ opcode, e.text[i]? = some opcode ∧ m.bytes[i]? = some opcode := by
  rw [h.exeBarrier] at below
  refine ⟨e.text[i], List.getElem?_eq_getElem below, ?_⟩
  rw [h.code i (by rw [h.readonlyBarrier]; omega), List.getElem?_append_left below]
  exact List.getElem?_eq_getElem below

end Memory.Carries

namespace Machine

variable {m₀ m : Machine} {e : Image} {args : List String} {reserve : UInt64}
variable {noise : UInt64 → (size : Nat) → Noise size}

theorem carries_boot (h : m₀.bootWith noise e args reserve = .ok m) :
    m.core.memory.Carries e reserve.toNat := by
  obtain ⟨layout, memory, registers, -, -, -, placed, rfl⟩ := bootWith_eq_ok h
  have fresh : (freshMemory e (noise m₀.config.seed reserve.toNat).stack).Carries e
      reserve.toNat := {
    size := size_freshMemory _
    exeBarrier := rfl
    readonlyBarrier := rfl
    stackBarrier := rfl
    code := fun i hi => getElem?_freshMemory _ hi }
  exact fresh.of_sealed (sealed_placeArguments placed)

/-- From the start of a process on, over any history of ticks, resumes, pipe feeds, installs,
memory writes and whatever else a driver can do without another start, the address space keeps
its size and its barriers, which lie in order; the code and the read-only data are those of the
image; and a tick does nothing, faults at the executable barrier, or goes on with the byte of the
text segment that the instruction pointer names. -/
theorem confined_performAll (booted : m₀.bootWith noise e args reserve = .ok m)
    (actions : List Action) :
    let now := m.performAll actions
    (now.core.memory.size = m.core.memory.size ∧
      now.core.memory.exeBarrier = m.core.memory.exeBarrier ∧
      now.core.memory.readonlyBarrier = m.core.memory.readonlyBarrier ∧
      now.core.memory.stackBarrier = m.core.memory.stackBarrier) ∧
    (now.core.memory.exeBarrier ≤ now.core.memory.readonlyBarrier ∧
      now.core.memory.readonlyBarrier ≤ now.core.memory.stackBarrier ∧
      now.core.memory.stackBarrier ≤ now.core.memory.size) ∧
    now.core.memory.slice 0 now.core.memory.readonlyBarrier = e.text ++ e.rodata ∧
    ((now.status ≠ .running ∧ now.tick SyscallTable.standard = (false, now)) ∨
      (now.status = .running ∧ now.core.memory.exeBarrier ≤ now.core.rip.toNat ∧
        now.tick SyscallTable.standard = (false, now.terminate .accessViolation)) ∨
      (now.status = .running ∧ now.core.rip.toNat < now.core.memory.exeBarrier ∧
        ∃ opcode, e.text[now.core.rip.toNat]? = some opcode ∧
          now.tick SyscallTable.standard =
            conclude ((dispatch SyscallTable.standard opcode).run now))) := by
  intro now
  have sealed : m.core.memory.Sealed now.core.memory := sealed_performAll actions m
  have carries : now.core.memory.Carries e reserve.toNat := (carries_boot booted).of_sealed sealed
  refine ⟨⟨sealed.size, sealed.exeBarrier, sealed.readonlyBarrier, sealed.stackBarrier⟩, ?_,
    carries.slice_code, ?_⟩
  · rw [carries.exeBarrier, carries.readonlyBarrier, carries.stackBarrier, carries.size]
    simp only [Image.content, List.length_append]
    omega
  · by_cases running : now.status = .running
    · by_cases below : now.core.rip.toNat < now.core.memory.exeBarrier
      · obtain ⟨opcode, stored, fetched⟩ := carries.fetch below
        refine .inr (.inr ⟨running, below, opcode, stored, ?_⟩)
        rw [tick_of_running running, run_step_of_lt below fetched]
      · have beyond := Nat.le_of_not_lt below
        refine .inr (.inl ⟨running, beyond, ?_⟩)
        exact tick_of_step_error running (run_step_of_barrier_le beyond)
    · exact .inl ⟨running, tick_of_not_running running⟩

/-- A program of one opcode, hit by writes into its own text from outside. -/
theorem confined_overwritten_nop :
    ∃ m, (new {} {}).boot { text := [0x00] } [] 16 = .ok m ∧
      (m.performAll [.core (.writeBytes 0 [0x01]), .tick, .tick]).core.memory.slice 0
        (m.performAll [.core (.writeBytes 0 [0x01]), .tick, .tick]).core.memory.readonlyBarrier =
          [0x00] := by
  have booted : ∃ m, (new {} {}).boot { text := [0x00] } [] 16 = .ok m := ⟨_, rfl⟩
  obtain ⟨m, booted⟩ := booted
  exact ⟨m, booted, (confined_performAll booted _).2.2.1⟩

end Machine

end GuestMachine
