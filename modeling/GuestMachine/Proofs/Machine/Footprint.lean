import GuestMachine.Proofs.Core.Footprint
import GuestMachine.Proofs.Syscall

/-!
# Which parts of the core a system call touches

A system call answers in RAX, and a read fills its buffer before. Nothing else of the core changes,
unless the call suspends the process, which steps back onto the call.
-/

namespace GuestMachine.Syscall

open Faulting (Observes)
open Machine (onDescriptors)

variable {α β : Type} {x : Sys α} {m m' : Machine}

/-- The part of the core that holds the answer of a call. -/
def answered : Footprint := { registers := [.rax] }

/-- The computation changes nothing of the core but the answer. -/
def Answers (x : Sys α) : Prop :=
  ∀ m : Machine, m.core.SameOutside answered (x.run m).2.core

namespace Answers

theorem of_observes (h : Observes x) : Answers x := by
  intro m
  rw [h m]
  exact .refl _ _

theorem bind {f : α → Sys β} (hx : Answers x) (hf : ∀ a, Answers (f a)) : Answers (x >>= f) := by
  intro m
  have first := hx m
  cases outcome : x.run m with
  | mk result middle =>
    rw [outcome] at first
    cases result with
    | error fault =>
      rw [Faulting.run_bind_error outcome]
      exact first
    | ok a =>
      rw [Faulting.run_bind_ok outcome]
      exact first.trans (hf a middle)

theorem read (f : Machine → α) : Answers (Faulting.read f) := of_observes (.read f)

theorem query (f : Machine → Except Fault α) : Answers (Faulting.query f) := of_observes (.query f)

theorem onDescriptors (x : Faulting Descriptors α) : Answers (onDescriptors x) :=
  fun _ => .refl _ _

end Answers

theorem answers_answer (value : UInt64) : Answers (answer value) :=
  fun m => .setRegister (List.mem_singleton.mpr rfl) value m.core

theorem answers_changeFiles (call : String)
    (f : FileSystem → Except HostError (α × FileSystem)) : Answers (changeFiles call f) := by
  intro m
  cases outcome : f m.descriptors.host.files with
  | ok r =>
    rw [run_changeFiles_ok outcome]
    exact .refl _ _
  | error e =>
    rw [run_changeFiles_error outcome]
    exact .refl _ _

theorem answers_write : Answers write := by
  unfold write
  refine (Answers.read _).bind fun index => ?_
  refine (Answers.read _).bind fun buffer => ?_
  refine (Answers.read _).bind fun length => ?_
  refine (Answers.query _).bind fun found => ?_
  refine (Answers.query _).bind fun data => ?_
  exact (Answers.onDescriptors _).bind fun _ => answers_answer length

theorem answers_openFile : Answers openFile := by
  intro m
  rcases openFile_cases m with ⟨fault, refused⟩ | ⟨message, failed⟩ |
    ⟨slot, file, files, message, -, -, done⟩
  · rw [refused]
    exact .refl _ _
  · rw [failed]
    exact .refl _ _
  · rw [done]
    exact .setRegister (List.mem_singleton.mpr rfl) _ m.core

theorem answers_seek : Answers seek := by
  unfold seek
  refine (Answers.read _).bind fun index => ?_
  refine (Answers.read _).bind fun offset => ?_
  refine (Answers.read _).bind fun origin => ?_
  refine (Answers.query _).bind fun found => ?_
  refine (Answers.query _).bind fun target => ?_
  exact (Answers.onDescriptors _).bind answers_answer

theorem answers_tell : Answers tell :=
  (Answers.read _).bind fun _ => (Answers.onDescriptors _).bind answers_answer

theorem answers_close : Answers close := (Answers.read _).bind fun _ => .onDescriptors _

theorem answers_flush : Answers flush := (Answers.read _).bind fun _ => .onDescriptors _

theorem answers_move : Answers move := by
  refine (Answers.of_observes (.guard _)).bind fun _ => ?_
  refine (Answers.read _).bind fun rbx => (Answers.query _).bind fun source => ?_
  refine (Answers.read _).bind fun rcx => (Answers.query _).bind fun target => ?_
  exact answers_changeFiles _ _

/-- The three calls that change the file system at one path. -/
theorem answers_changePath (call : String)
    (f : String → FileSystem → Except HostError (Unit × FileSystem)) :
    Answers (do
      requireFileSystem
      let path ← text (← argument .rbx)
      changeFiles call (f path)) := by
  refine (Answers.of_observes (.guard _)).bind fun _ => ?_
  refine (Answers.read _).bind fun rbx => (Answers.query _).bind fun path => ?_
  exact answers_changeFiles call (f path)

theorem answers_exit : Answers exit := by
  refine (Answers.read _).bind fun value m => ?_
  rw [Faulting.run_update, Machine.exit, Machine.core_stop]
  exact .refl _ _

/-- A read that completes has suspended the process on its call, or has filled its buffer and
answered. -/
theorem sameOutside_of_read (completed : read.run m = (.ok (), m')) :
    (m'.life = m.life.suspend ∧ m'.core = { m.core with rip := m.core.rip - 1 }) ∨
      m.core.SameOutside { answered with memory := true } m'.core := by
  rw [run_read_eq] at completed
  split at completed
  · cases completed
  · split at completed
    · cases completed
    · split at completed
      · cases completed
      · cases completed
        unfold received
        split
        · exact .inl ⟨rfl, rfl⟩
        · refine .inr ⟨?_, nofun, fun _ => rfl, fun _ => rfl, fun _ => rfl⟩
          exact (Core.SameOutside.setRegister (List.mem_singleton.mpr rfl) _ m.core).registers

/-- Any other call changes no more than its answer. -/
theorem Answers.sameOutside {x : Sys Unit} (answers : Answers x) (memory : Bool)
    (completed : x.run m = (.ok (), m')) :
    m.core.SameOutside { answered with memory := memory } m'.core := by
  have same := answers m
  rw [completed] at same
  exact ⟨same.registers, fun _ => same.memory rfl, same.rip, same.flags, same.fpu⟩

/-- A system call that completes has suspended the process on it, or has answered; only the call
with number zero, which is a read, writes memory. -/
theorem sameOutside_of_dispatch
    (completed : (dispatch SyscallTable.standard).run m = (.ok (), m')) :
    (m'.life = m.life.suspend ∧ m'.core = { m.core with rip := m.core.rip - 1 }) ∨
      m.core.SameOutside { answered with memory := decide (m.core.registers.get .rax = 0) }
        m'.core := by
  cases found : SyscallTable.standard.get? (m.core.registers.get .rax) with
  | none =>
    have unhandled := Faulting.run_orFault (σ := Machine) .unhandledSyscall
      (SyscallTable.standard.get? (m.core.registers.get .rax)) m
    rw [found] at unhandled
    rw [dispatch, Faulting.run_bind_ok (Machine.run_argument .rax m), found,
      Faulting.run_bind_error unhandled] at completed
    cases completed
  | some handler =>
    rw [Machine.run_dispatch found] at completed
    revert completed
    have kept : ∀ {x : Sys Unit} {memory : Bool}, Answers x → x.run m = (.ok (), m') →
        (m'.life = m.life.suspend ∧ m'.core = { m.core with rip := m.core.rip - 1 }) ∨
          m.core.SameOutside { answered with memory := memory } m'.core :=
      fun answers completed => .inr (answers.sameOutside _ completed)
    apply SyscallTable.standard_cases (motive := fun number handler =>
      handler.run m = (.ok (), m') →
        (m'.life = m.life.suspend ∧ m'.core = { m.core with rip := m.core.rip - 1 }) ∨
          m.core.SameOutside { answered with memory := decide (number = 0) } m'.core) found
    case read => exact sameOutside_of_read
    case write => exact kept answers_write
    case openFile => exact kept answers_openFile
    case close => exact kept answers_close
    case flush => exact kept answers_flush
    case seek => exact kept answers_seek
    case tell => exact kept answers_tell
    case move => exact kept answers_move
    case remove | makeDirectory | removeDirectory => exact kept (answers_changePath _ _)
    case exit => exact kept answers_exit

/-- A system call that completes and does not suspend the process leaves the instruction pointer
behind the call. -/
theorem rip_of_dispatch (running : m.life.running = true)
    (completed : (dispatch SyscallTable.standard).run m = (.ok (), m'))
    (awake : m'.status ≠ .suspended) : m'.core.rip = m.core.rip := by
  rcases sameOutside_of_dispatch completed with ⟨suspended, -⟩ | same
  · refine absurd ?_ awake
    rw [Machine.status, suspended]
    exact Life.status_suspend running
  · exact same.rip rfl

end GuestMachine.Syscall
