import GuestMachine.Proofs.Core.Released
import GuestMachine.Proofs.Machine.Action
import GuestMachine.Proofs.Syscall

/-!
# Released values never leak

A process cannot find out what a slot of the floating-point stack held before it was released.
Two machines that differ at most in such values answer every tick in the same way and stay alike,
under every table of system calls whose handlers keep to this, as the standard ones do; and so
over every run and every history.
-/

namespace GuestMachine

open Faulting (Respects)

/-- `m` and `n` differ at most in the values left behind on the floating-point stack. -/
def Machine.Alike (m n : Machine) : Prop :=
  ∃ fpu, m.core.fpu.Alike fpu ∧ n = { m with core := { m.core with fpu := fpu } }

/-- No handler of the table tells machines apart that are alike. -/
def SyscallTable.Discreet (table : SyscallTable) : Prop :=
  ∀ number handler, table.get? number = some handler → Respects Machine.Alike handler

namespace Machine

/-! ## Parts of the machine -/

theorem respects_read {α : Type} {g : Machine → α}
    (same : ∀ m fpu, g { m with core := { m.core with fpu := fpu } } = g m) :
    Respects Alike (Faulting.read g) := by
  refine .read ?_
  rintro m _ ⟨fpu, -, rfl⟩
  exact (same m fpu).symm

theorem respects_query {α : Type} {g : Machine → Except Fault α}
    (same : ∀ m fpu, g { m with core := { m.core with fpu := fpu } } = g m) :
    Respects Alike (Faulting.query g) := by
  refine .query ?_
  rintro m _ ⟨fpu, -, rfl⟩
  exact (same m fpu).symm

theorem respects_guard {g : Machine → Option Fault}
    (same : ∀ m fpu, g { m with core := { m.core with fpu := fpu } } = g m) :
    Respects Alike (Faulting.guard g) := by
  refine .guard ?_
  rintro m _ ⟨fpu, -, rfl⟩
  exact (same m fpu).symm

theorem respects_onCore {α : Type} {x : Exec α} (h : Respects Core.Alike x) :
    Respects Alike (onCore x) := by
  rintro m _ ⟨fpu, alike, rfl⟩
  obtain ⟨same, left, alike', eq⟩ := h m.core { m.core with fpu := fpu } ⟨fpu, alike, rfl⟩
  rw [run_onCore, run_onCore]
  exact ⟨same, left, alike', by rw [eq]⟩

theorem respects_onDescriptors {α : Type} (x : Faulting Descriptors α) :
    Respects Alike (onDescriptors x) := by
  rintro m _ ⟨fpu, alike, rfl⟩
  exact ⟨rfl, fpu, alike, rfl⟩

namespace Alike

variable {m n : Machine}

theorem log (h : m.Alike n) (level : Level) (message : String) :
    (m.log level message).Alike (n.log level message) := by
  obtain ⟨fpu, alike, rfl⟩ := h
  exact ⟨fpu, alike, rfl⟩

theorem stop (h : m.Alike n) (fault : Option Fault) (code : Int32) :
    (m.stop fault code).Alike (n.stop fault code) := by
  obtain ⟨fpu, alike, rfl⟩ := h
  refine ⟨fpu, ?_, ?_⟩
  · rw [core_stop]
    exact alike
  · simp only [Machine.stop]

theorem suspend (h : m.Alike n) : m.suspend.Alike n.suspend := by
  obtain ⟨fpu, alike, rfl⟩ := h
  exact ⟨fpu, alike, rfl⟩

theorem terminate (h : m.Alike n) (cause : Fault) :
    (m.terminate cause).Alike (n.terminate cause) := by
  have logged := h.log .warn ("process terminated at rip " ++ Text.Numeral.hex m.core.rip ++
    ": " ++ cause.message)
  obtain ⟨fpu, alike, rfl⟩ := h
  unfold Machine.terminate
  dsimp only
  split
  · exact logged.stop _ _
  · exact Alike.stop ⟨fpu, alike, rfl⟩ _ _

end Alike

end Machine

/-! ## System calls -/

namespace Syscall

open Machine (respects_read respects_query respects_guard respects_onCore respects_onDescriptors)

theorem respects_argument (r : Register) : Respects Machine.Alike (argument r) :=
  respects_read fun _ _ => rfl

theorem respects_answer (value : UInt64) : Respects Machine.Alike (answer value) :=
  respects_onCore (Exec.respects_setRegister .rax value)

theorem respects_descriptor (index : UInt64) : Respects Machine.Alike (descriptor index) :=
  respects_query fun _ _ => rfl

theorem respects_requireFileSystem : Respects Machine.Alike requireFileSystem :=
  respects_guard fun _ _ => rfl

theorem respects_text (address : UInt64) : Respects Machine.Alike (text address) :=
  respects_query fun _ _ => rfl

theorem respects_changeFiles {α : Type} (call : String)
    (f : FileSystem → Except HostError (α × FileSystem)) :
    Respects Machine.Alike (changeFiles call f) := by
  rintro m _ ⟨fpu, alike, rfl⟩
  cases outcome : f m.descriptors.host.files with
  | ok r =>
    rw [run_changeFiles_ok outcome,
      run_changeFiles_ok (m := { m with core := { m.core with fpu := fpu } }) outcome]
    exact ⟨rfl, fpu, alike, rfl⟩
  | error e =>
    rw [run_changeFiles_error outcome,
      run_changeFiles_error (m := { m with core := { m.core with fpu := fpu } }) outcome]
    exact ⟨rfl, fpu, alike, rfl⟩

theorem respects_read : Respects Machine.Alike read := by
  unfold read
  refine (respects_argument .rbx).bind fun index => ?_
  refine (respects_argument .rcx).bind fun buffer => ?_
  refine (respects_argument .rdx).bind fun length => ?_
  refine (respects_descriptor index).bind fun found => ?_
  refine (respects_guard fun _ _ => rfl).bind fun _ => ?_
  refine (respects_onDescriptors _).bind fun data => ?_
  split
  · exact .update fun _ _ alike => alike.suspend
  · have delivers : Respects Core.Alike (Faulting.update fun c : Core =>
        { c with memory := c.memory.patch buffer.toNat data }) :=
      Exec.respects_update (fun _ _ => rfl) fun _ => rfl
    exact (respects_onCore delivers).bind fun _ => respects_answer _

theorem respects_write : Respects Machine.Alike write := by
  unfold write
  refine (respects_argument .rbx).bind fun index => ?_
  refine (respects_argument .rcx).bind fun buffer => ?_
  refine (respects_argument .rdx).bind fun length => ?_
  refine (respects_descriptor index).bind fun found => ?_
  refine (respects_query fun _ _ => rfl).bind fun data => ?_
  exact (respects_onDescriptors _).bind fun _ => respects_answer length

theorem respects_openFile : Respects Machine.Alike openFile := by
  unfold openFile
  refine respects_requireFileSystem.bind fun _ => ?_
  refine (respects_argument .rbx).bind fun path => ?_
  refine (respects_argument .rcx).bind fun flags => ?_
  refine (Machine.respects_read fun _ _ => rfl).bind fun free => ?_
  refine (Respects.orFault _ _).bind fun slot => ?_
  refine (respects_text path).bind fun name => ?_
  refine (respects_changeFiles _ _).bind fun file => ?_
  refine (respects_onDescriptors _).bind fun _ => ?_
  refine (Respects.update fun _ _ alike => alike.log _ _).bind fun _ => ?_
  exact respects_answer _

theorem respects_seek : Respects Machine.Alike seek := by
  unfold seek
  refine (respects_argument .rbx).bind fun index => ?_
  refine (respects_argument .rcx).bind fun offset => ?_
  refine (respects_argument .rdx).bind fun origin => ?_
  refine (respects_descriptor index).bind fun found => ?_
  refine (respects_query fun _ _ => rfl).bind fun target => ?_
  exact (respects_onDescriptors _).bind respects_answer

theorem respects_tell : Respects Machine.Alike tell := by
  unfold tell
  refine (respects_argument .rbx).bind fun index => ?_
  exact (respects_onDescriptors _).bind respects_answer

theorem respects_close : Respects Machine.Alike close := by
  unfold close
  exact (respects_argument .rbx).bind fun index => respects_onDescriptors _

theorem respects_flush : Respects Machine.Alike flush := by
  unfold flush
  exact (respects_argument .rbx).bind fun index => respects_onDescriptors _

theorem respects_move : Respects Machine.Alike move := by
  unfold move
  refine respects_requireFileSystem.bind fun _ => ?_
  refine (respects_argument .rbx).bind fun rbx => ?_
  refine (respects_text rbx).bind fun source => ?_
  refine (respects_argument .rcx).bind fun rcx => ?_
  refine (respects_text rcx).bind fun target => ?_
  exact respects_changeFiles _ _

/-- The three calls that change the file system at one path. -/
theorem respects_changePath (call : String)
    (f : String → FileSystem → Except HostError (Unit × FileSystem)) :
    Respects Machine.Alike (do
      requireFileSystem
      let path ← text (← argument .rbx)
      changeFiles call (f path)) := by
  refine respects_requireFileSystem.bind fun _ => ?_
  refine (respects_argument .rbx).bind fun rbx => ?_
  exact (respects_text rbx).bind fun path => respects_changeFiles call (f path)

theorem respects_exit : Respects Machine.Alike exit := by
  unfold exit
  exact (respects_argument .rbx).bind fun value => .update fun _ _ alike => alike.stop _ _

end Syscall

theorem SyscallTable.discreet_standard : SyscallTable.standard.Discreet := by
  intro number handler found
  apply SyscallTable.standard_cases (motive := fun _ => Respects Machine.Alike) found
  case read => exact Syscall.respects_read
  case write => exact Syscall.respects_write
  case openFile => exact Syscall.respects_openFile
  case close => exact Syscall.respects_close
  case flush => exact Syscall.respects_flush
  case seek => exact Syscall.respects_seek
  case tell => exact Syscall.respects_tell
  case move => exact Syscall.respects_move
  case remove | makeDirectory | removeDirectory => exact Syscall.respects_changePath _ _
  case exit => exact Syscall.respects_exit

/-! ## Ticks, runs and histories -/

theorem Core.Alike.action {c d : Core} (h : c.Alike d) (a : Core.Action) :
    (a.apply c).Alike (a.apply d) := by
  cases a with
  | setRip rip => exact (Exec.respects_jump rip c d h).2
  | setRegister r value => exact (Exec.respects_setRegister r value c d h).2
  | setRegisterSized r w value => exact (Exec.respects_setRegisterSized r w value c d h).2
  | push w value => exact (Exec.respects_push w value c d h).2
  | pop w => exact (Exec.respects_pop w c d h).2
  | write pos w value | writeBytes pos data | writeText pos text =>
    obtain ⟨fpu, alike, rfl⟩ := h
    exact ⟨fpu, alike, rfl⟩

namespace Machine

variable {table : SyscallTable} {m n : Machine}

theorem respects_dispatch (discreet : table.Discreet) :
    Respects Alike (Syscall.dispatch table) := by
  unfold Syscall.dispatch
  refine (Syscall.respects_argument .rax).bind fun number => ?_
  cases found : table.get? number with
  | none => exact (Respects.fail _)
  | some handler => exact discreet number handler found

theorem respects_step (discreet : table.Discreet) : Respects Alike (step table) := by
  unfold step
  refine (respects_guard fun _ _ => rfl).bind fun _ => ?_
  refine (respects_read fun _ _ => rfl).bind fun decoded => ?_
  have advances : Respects Alike (advance decoded.length) :=
    respects_onCore (Exec.respects_update (fun _ _ => rfl) fun _ => rfl)
  refine advances.bind fun _ => ?_
  split
  · exact .fail _
  · exact respects_dispatch discreet
  · next op _ => exact respects_onCore (Exec.respects_execute op)

namespace Alike

theorem status (h : m.Alike n) : n.status = m.status := by
  obtain ⟨fpu, -, rfl⟩ := h
  rfl

theorem tick (h : m.Alike n) (discreet : table.Discreet) :
    (m.tick table).1 = (n.tick table).1 ∧ (m.tick table).2.Alike (n.tick table).2 := by
  by_cases running : m.status = .running
  · have running' := h.status.trans running
    obtain ⟨same, alike⟩ := respects_step discreet m n h
    rw [tick_of_running running, tick_of_running running']
    generalize (step table).run m = r at same alike ⊢
    generalize (step table).run n = r' at same alike ⊢
    obtain ⟨result, m'⟩ := r
    obtain ⟨result', n'⟩ := r'
    obtain rfl : result = result' := same
    cases result with
    | ok _ => exact ⟨rfl, alike⟩
    | error fault => exact ⟨rfl, alike.terminate fault⟩
  · have running' : n.status ≠ .running := by
      rw [h.status]
      exact running
    rw [tick_of_not_running running, tick_of_not_running running']
    exact ⟨rfl, h⟩

/-- By induction on the ticks that are left; each of them answers the same on both sides. -/
theorem runFrom (h : m.Alike n) (discreet : table.Discreet) (fuel count : Nat) :
    (m.runFrom table fuel count).1 = (n.runFrom table fuel count).1 ∧
      (m.runFrom table fuel count).2.Alike (n.runFrom table fuel count).2 := by
  induction fuel generalizing m n count with
  | zero => exact ⟨rfl, h⟩
  | succ fuel ih =>
    obtain ⟨same, alike⟩ := h.tick discreet
    rw [Machine.runFrom, Machine.runFrom]
    generalize m.tick table = r at same alike ⊢
    generalize n.tick table = r' at same alike ⊢
    obtain ⟨completed, m'⟩ := r
    obtain ⟨completed', n'⟩ := r'
    obtain rfl : completed = completed' := same
    cases completed with
    | true => exact ih alike (count + 1)
    | false => exact ⟨rfl, alike⟩

theorem perform (h : m.Alike n) (a : Action) : (m.perform a).Alike (n.perform a) := by
  cases a with
  | tick => exact (h.tick SyscallTable.discreet_standard).2
  | run fuel => exact (h.runFrom SyscallTable.discreet_standard fuel 0).2
  | resume =>
    obtain ⟨fpu, alike, rfl⟩ := h
    exact ⟨fpu, alike, rfl⟩
  | terminate cause => exact h.terminate cause
  | exit code => exact h.stop _ _
  | core a =>
    obtain ⟨fpu, alike, rfl⟩ := h
    obtain ⟨left, alike', eq⟩ := Core.Alike.action ⟨fpu, alike, rfl⟩ a
    exact ⟨left, alike', by rw [Machine.perform, Machine.perform, eq]⟩
  | descriptors a =>
    obtain ⟨fpu, alike, rfl⟩ := h
    exact ⟨fpu, alike, rfl⟩

theorem performAll (h : m.Alike n) (actions : List Action) :
    (m.performAll actions).Alike (n.performAll actions) := by
  induction actions generalizing m n with
  | nil => exact h
  | cons a rest ih => exact ih (h.perform a)

end Alike

/-- Of two machines that differ at most in the values of slots not in use, each tick gives the same
answer and leaves two that differ in no more than that, and so does every run, however long: in
both, the memory, the registers, the flags, the instruction pointer, the fault if there is one, and
the entries in use are the same. This holds under every table of system calls whose handlers do not
look at such values, of which the standard one is an instance; and under that one it holds along
every history, whatever a driver does between the ticks. -/
theorem released_values_unobservable {m n : Machine} (alike : m.Alike n) :
    SyscallTable.standard.Discreet ∧
    (∀ table : SyscallTable, table.Discreet →
      ((m.tick table).1 = (n.tick table).1 ∧ (m.tick table).2.Alike (n.tick table).2) ∧
      ∀ fuel, (m.run table fuel).1 = (n.run table fuel).1 ∧
        (m.run table fuel).2.Alike (n.run table fuel).2) ∧
    ∀ actions : List Action,
      (m.performAll actions).Alike (n.performAll actions) ∧
      ((m.performAll actions).tick SyscallTable.standard).1 =
        ((n.performAll actions).tick SyscallTable.standard).1 := by
  refine ⟨SyscallTable.discreet_standard, fun table discreet => ⟨?_, fun fuel => ?_⟩,
    fun actions => ⟨?_, ?_⟩⟩
  · exact alike.tick discreet
  · exact alike.runFrom discreet fuel 0
  · exact alike.performAll actions
  · exact ((alike.performAll actions).tick SyscallTable.discreet_standard).1

/-- A machine about to load the top of its floating-point stack, whose slots have all been released
and held `value` before. -/
def reloading (value : Double) : Machine :=
  { new {} {} with
    core := { Core.blank with
      memory := ⟨#[Opcode.fld.toByte, 0], 2, 2, 2⟩
      fpu := { Fpu.empty with values := Vector.replicate 8 value } }
    life := .started }

theorem released_values_unobservable_reloading :
    (reloading ⟨0⟩).core.fpu ≠ (reloading ⟨1⟩).core.fpu ∧ (reloading ⟨0⟩).Alike (reloading ⟨1⟩) ∧
      ((reloading ⟨0⟩).tick SyscallTable.standard).1 =
        ((reloading ⟨1⟩).tick SyscallTable.standard).1 := by
  have alike : (reloading ⟨0⟩).Alike (reloading ⟨1⟩) := by
    refine ⟨(reloading ⟨1⟩).core.fpu, ⟨rfl, rfl, ?_⟩, rfl⟩
    intro s used
    simp [reloading, Fpu.empty] at used
  exact ⟨by decide, alike, (released_values_unobservable alike).2.2 [] |>.2⟩

end Machine

end GuestMachine
