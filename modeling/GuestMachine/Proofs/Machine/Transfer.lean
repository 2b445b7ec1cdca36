import GuestMachine.Proofs.Instruction.Reading
import GuestMachine.Proofs.Lifecycle

/-!
# Transfers

What one tick does to pipes. A tick changes a pipe only if it is a system call that reads or writes
through a descriptor of that pipe. A read puts the first bytes of the queue into its buffer, a
write adds all of its buffer, and a call that is refused for its descriptor or its buffer has not
touched the queue.
-/

namespace GuestMachine.Machine

open Relation (ReflTransGen)

variable {m m' : Machine} {name : String}

/-! ## Everything but reading and writing -/

theorem pipe_stop (fault : Option Fault) (code : Int32) (m : Machine) (name : String) :
    (m.stop fault code).host.pipe name = m.host.pipe name := by
  show (m.stop fault code).descriptors.host.pipe name = m.descriptors.host.pipe name
  rw [descriptors_stop, Descriptors.pipe_closeAll]

theorem pipe_log (level : Level) (message : String) (m : Machine) (name : String) :
    (m.log level message).host.pipe name = m.host.pipe name := Host.pipe_log _ _ _ _

theorem pipe_terminate (cause : Fault) (m : Machine) (name : String) :
    (m.terminate cause).host.pipe name = m.host.pipe name := by
  unfold terminate
  rw [pipe_stop]
  split
  · exact pipe_log _ _ _ _
  · rfl

theorem pipe_of_quiet (h : ReflTransGen Quiet m m') (name : String) :
    m'.host.pipe name = m.host.pipe name := by
  induction h with
  | refl => rfl
  | tail _ quiet ih => rw [quiet.pipe, ih]

/-- The number of the system call that the process is about to make. -/
def pendingCall? (m : Machine) : Option UInt64 :=
  if m.status = .running ∧ m.core.rip.toNat < m.core.memory.exeBarrier ∧
      m.core.memory.bytes[m.core.rip.toNat]? = some Opcode.syscall.toByte then
    some (m.core.registers.get .rax)
  else none

theorem pendingCall?_eq_some {number : UInt64} :
    m.pendingCall? = some number ↔
      (m.status = .running ∧ m.core.rip.toNat < m.core.memory.exeBarrier ∧
        m.core.memory.bytes[m.core.rip.toNat]? = some Opcode.syscall.toByte) ∧
      m.core.registers.get .rax = number := by
  unfold pendingCall?
  split
  · next pending => simp [pending]
  · next idle => simp [idle]

theorem running_of_pendingCall {number : UInt64} (pending : m.pendingCall? = some number) :
    m.status = .running := (pendingCall?_eq_some.mp pending).1.1

/-- The tick of a system call is its handler, behind the opcode. -/
theorem tick_of_pendingCall {number : UInt64} {handler : Sys Unit}
    (pending : m.pendingCall? = some number)
    (known : SyscallTable.standard.get? number = some handler) :
    m.tick SyscallTable.standard = conclude (handler.run m.pastOpcode) := by
  obtain ⟨⟨running, below, opcode⟩, rfl⟩ := pendingCall?_eq_some.mp pending
  rw [tick_of_running running, run_step_syscall below opcode known]

/-- A call that neither reads nor writes leaves every pipe alone. -/
theorem pipe_dispatch (notRead : m.core.registers.get .rax ≠ 0)
    (notWrite : m.core.registers.get .rax ≠ 1) (name : String) :
    ((Syscall.dispatch SyscallTable.standard).run m).2.host.pipe name = m.host.pipe name := by
  cases lookup : SyscallTable.standard.get? (m.core.registers.get .rax) with
  | none =>
    have unknown := Faulting.run_orFault (σ := Machine) .unhandledSyscall
      (SyscallTable.standard.get? (m.core.registers.get .rax)) m
    rw [lookup] at unknown
    unfold Syscall.dispatch
    rw [Faulting.run_bind_ok (run_argument .rax m), lookup, Faulting.run_bind_error unknown]
  | some handler =>
    rw [run_dispatch lookup]
    rcases quiet_handler lookup with ⟨zero, -⟩ | ⟨one, -⟩ | rfl | quiet
    · exact absurd zero notRead
    · exact absurd one notWrite
    · exact pipe_stop _ _ _ _
    · exact pipe_of_quiet (quiet m) name

/-- Reading a system call is being about to make one. -/
theorem pendingCall?_of_decode (running : m.status = .running)
    (below : m.core.rip.toNat < m.core.memory.exeBarrier)
    (call : (Instruction.decode m.window).result = .ok .syscall) :
    m.pendingCall? = some (m.core.registers.get .rax) := by
  have read : Fetch.instruction.run m.window = (.ok .syscall, (Fetch.instruction.run m.window).2) :=
    Prod.ext call rfl
  have first := Fetch.opcode_of_run_eq_syscall read
  rw [List.head?_eq_getElem?, window, Memory.getElem?_slice, if_pos (by decide),
    Nat.add_zero] at first
  exact pendingCall?_eq_some.mpr ⟨⟨running, below, first⟩, rfl⟩

theorem pipe_step (running : m.status = .running) (notRead : m.pendingCall? ≠ some 0)
    (notWrite : m.pendingCall? ≠ some 1) (name : String) :
    ((step SyscallTable.standard).run m).2.host.pipe name = m.host.pipe name := by
  by_cases below : m.core.rip.toNat < m.core.memory.exeBarrier
  · rw [run_step_of_below below]
    have advanced (length : Nat) : Faulting.Within Quiet (advance length) m :=
      within_onCore (.update (.rip _))
    cases result : (Instruction.decode m.window).result with
    | error fault =>
      refine pipe_of_quiet ?_ name
      unfold proceed
      refine Faulting.Within.bind (advanced _) fun _ _ _ => ?_
      rw [result]
      exact .of_observes (.fail _)
    | ok i =>
      cases i with
      | operation op =>
        refine pipe_of_quiet ?_ name
        unfold proceed
        refine Faulting.Within.bind (advanced _) fun _ _ _ => ?_
        rw [result]
        exact within_onCore (Exec.within_execute op _)
      | syscall =>
        have pending := pendingCall?_of_decode running below result
        rw [pending] at notRead notWrite
        have moved : (advance (Instruction.decode m.window).length).run m =
          (.ok (), ((advance (Instruction.decode m.window).length).run m).2) := rfl
        unfold proceed
        rw [Faulting.run_bind_ok moved, result]
        exact pipe_dispatch (m := ((advance (Instruction.decode m.window).length).run m).2)
          (fun zero => notRead (congrArg some zero)) (fun one => notWrite (congrArg some one)) name
  · rw [run_step_of_barrier_le (Nat.le_of_not_lt below)]

theorem pipe_conclude (outcome : Except Fault Unit × Machine) (name : String) :
    (conclude outcome).2.host.pipe name = outcome.2.host.pipe name := by
  obtain ⟨result, stepped⟩ := outcome
  cases result with
  | ok _ => rfl
  | error fault => exact pipe_terminate fault stepped name

/-- A tick that is neither a read nor a write leaves every pipe alone. -/
theorem pipe_tick (notRead : m.pendingCall? ≠ some 0) (notWrite : m.pendingCall? ≠ some 1)
    (name : String) : (m.tick SyscallTable.standard).2.host.pipe name = m.host.pipe name := by
  by_cases running : m.status = .running
  · rw [tick_of_running running, pipe_conclude, pipe_step running notRead notWrite]
  · rw [tick_of_not_running running]

/-! ## Reading -/

/-- The next state has the first `count` bytes of the queue in the buffer of a read, their number
in RAX, the rest of them in the pipe, and every other byte of memory as it was. -/
structure Delivers (m : Machine) (name : String) (count : Nat) (next : Machine) : Prop where
  stored : next.core.memory.slice (m.core.registers.get .rcx).toNat count =
    (m.host.pipe name).take count
  answer : (next.core.registers.get .rax).toNat = count
  queued : next.host.pipe name = (m.host.pipe name).drop count
  size : next.core.memory.size = m.core.memory.size
  elsewhere : ∀ i, i < (m.core.registers.get .rcx).toNat ∨
    (m.core.registers.get .rcx).toNat + count ≤ i →
    next.core.memory.bytes[i]? = m.core.memory.bytes[i]?

theorem host_received (m : Machine) (d : Descriptor) (data : Bytes) (t : Descriptors) :
    (Syscall.received m d data t).host = t.host := by
  unfold Syscall.received
  split <;> rfl

/-- A read waits only if there was nothing to give. -/
theorem eq_nil_of_received {d : Descriptor} {data : Bytes} {t : Descriptors}
    (running : m.status = .running)
    (waits : (Syscall.received m d data t).status = .suspended) :
    data = [] ∧ m.core.registers.get .rdx ≠ 0 := by
  unfold Syscall.received at waits
  split at waits
  · next empty =>
    simp only [Bool.and_eq_true, List.isEmpty_iff, bne_iff_ne] at empty
    exact empty.1
  · have still : m.status = .suspended := waits
    rw [running] at still
    cases still

/-- What a read is given and does not wait for is delivered. -/
theorem delivers_received {d : Descriptor} {t : Descriptors} (running : m.status = .running)
    (writable : m.core.memory.writeFault? (m.core.registers.get .rcx)
      (m.core.registers.get .rdx).toNat = none)
    (queued : t.host.pipe name = (m.host.pipe name).drop (m.core.registers.get .rdx).toNat)
    (awake : (Syscall.received m d
      ((m.host.pipe name).take (m.core.registers.get .rdx).toNat) t).status ≠ .suspended) :
    m.Delivers name (min (m.core.registers.get .rdx).toNat (m.host.pipe name).length)
      (Syscall.received m d
        ((m.host.pipe name).take (m.core.registers.get .rdx).toNat) t) := by
  have length : ((m.host.pipe name).take (m.core.registers.get .rdx).toNat).length =
      min (m.core.registers.get .rdx).toNat (m.host.pipe name).length := List.length_take
  have fits := (Memory.writeFault?_eq_none.mp writable).2
  have word := UInt64.toNat_lt_size (m.core.registers.get .rdx)
  unfold Syscall.received at awake ⊢
  split at awake
  · exact absurd (Life.status_suspend (running_of_status running)) awake
  · next busy =>
    rw [if_neg busy]
    constructor
    case stored =>
      rw [← List.take_eq_take_min, ← length]
      exact Memory.slice_patch _ (by rw [length]; omega)
    case answer =>
      rw [Registers.get_set_self, length]
      exact UInt64.toNat_ofNat_of_lt (by omega)
    case queued =>
      rw [← List.drop_eq_drop_min]
      exact queued
    case size => exact Memory.size_patch _ _ _
    case elsewhere =>
      intro i outside
      rw [Memory.patch, Memory.getElem?_overlay, if_neg]
      omega

section Read

variable (pending : m.pendingCall? = some 0)

include pending

theorem tick_read : m.tick SyscallTable.standard = conclude (Syscall.read.run m.pastOpcode) :=
  tick_of_pendingCall pending rfl

theorem tick_read_of_missing {fault : Fault}
    (missing : m.descriptors.find (m.core.registers.get .rbx) = .error fault) :
    m.tick SyscallTable.standard = (false, m.pastOpcode.terminate fault) := by
  have missing' : m.pastOpcode.descriptors.find (m.pastOpcode.core.registers.get .rbx) =
    .error fault := missing
  rw [tick_read pending, Syscall.run_read_eq, missing']
  rfl

variable {slot : Slot} {d : Descriptor}
variable (found : m.descriptors.find (m.core.registers.get .rbx) = .ok (slot, d))

include found

theorem tick_read_of_unwritable {fault : Fault}
    (unwritable : m.core.memory.writeFault? (m.core.registers.get .rcx)
      (m.core.registers.get .rdx).toNat = some fault) :
    m.tick SyscallTable.standard = (false, m.pastOpcode.terminate fault) := by
  have found' : m.pastOpcode.descriptors.find (m.pastOpcode.core.registers.get .rbx) =
    .ok (slot, d) := found
  have unwritable' : m.pastOpcode.core.memory.writeFault? (m.pastOpcode.core.registers.get .rcx)
    (m.pastOpcode.core.registers.get .rdx).toNat = some fault := unwritable
  rw [tick_read pending, Syscall.run_read_eq, found']
  simp only [unwritable']
  rfl

/-- A pipe always answers, with the first bytes of its queue. -/
theorem tick_read_pipe (pipe : d.stream.backend.pipe? = some name)
    (writable : m.core.memory.writeFault? (m.core.registers.get .rcx)
      (m.core.registers.get .rdx).toNat = none) :
    m.tick SyscallTable.standard = (true, Syscall.received m.pastOpcode d
      ((m.host.pipe name).take (m.core.registers.get .rdx).toNat)
      ((Descriptors.readFrom slot d (m.core.registers.get .rdx).toNat).run m.descriptors).2) := by
  have given : (Descriptors.readFrom slot d (m.core.registers.get .rdx).toNat).run m.descriptors =
      (.ok ((m.host.pipe name).take (m.core.registers.get .rdx).toNat),
        ((Descriptors.readFrom slot d (m.core.registers.get .rdx).toNat).run m.descriptors).2) :=
    Prod.ext (Descriptors.result_readFrom pipe _) rfl
  have read := Syscall.run_read (m := m.pastOpcode) found writable given
  rw [tick_read pending, read]
  rfl

theorem completes_read (pipe : d.stream.backend.pipe? = some name) :
    (m.tick SyscallTable.standard).1 = true ↔
      m.core.memory.writeFault? (m.core.registers.get .rcx)
        (m.core.registers.get .rdx).toNat = none := by
  cases fault : m.core.memory.writeFault? (m.core.registers.get .rcx)
      (m.core.registers.get .rdx).toNat with
  | some fault' => simp [tick_read_of_unwritable pending found fault]
  | none => simp [tick_read_pipe pending found pipe fault]

/-- Only a read that asks for bytes and finds none waits. -/
theorem empty_of_tick (pipe : d.stream.backend.pipe? = some name)
    (completed : m.tick SyscallTable.standard = (true, m')) (waits : m'.status = .suspended) :
    m.host.pipe name = [] ∧ (m.core.registers.get .rdx).toNat ≠ 0 := by
  cases fault : m.core.memory.writeFault? (m.core.registers.get .rcx)
      (m.core.registers.get .rdx).toNat with
  | some fault' =>
    rw [tick_read_of_unwritable pending found fault] at completed
    cases completed
  | none =>
    rw [tick_read_pipe pending found pipe fault] at completed
    cases completed
    have running : m.status = .running := running_of_pendingCall pending
    obtain ⟨none, asked⟩ := eq_nil_of_received (m := m.pastOpcode) running waits
    have asked' : (m.core.registers.get .rdx).toNat ≠ 0 :=
      fun zero => asked (UInt64.toNat_inj.mp zero)
    exact ⟨(List.take_eq_nil_iff.mp none).resolve_left asked', asked'⟩

/-- A read of a pipe that completes without waiting delivers the first bytes of the queue. -/
theorem delivers_tick (pipe : d.stream.backend.pipe? = some name)
    (completed : m.tick SyscallTable.standard = (true, m')) (awake : m'.status ≠ .suspended) :
    m.Delivers name (min (m.core.registers.get .rdx).toNat (m.host.pipe name).length) m' := by
  cases fault : m.core.memory.writeFault? (m.core.registers.get .rcx)
      (m.core.registers.get .rdx).toNat with
  | some fault' =>
    rw [tick_read_of_unwritable pending found fault] at completed
    cases completed
  | none =>
    rw [tick_read_pipe pending found pipe fault] at completed
    cases completed
    have queued := Descriptors.pipe_readFrom slot d (m.core.registers.get .rdx).toNat
      m.descriptors name
    rw [if_pos pipe] at queued
    have running : m.status = .running := running_of_pendingCall pending
    have delivers := delivers_received (m := m.pastOpcode) running fault queued awake
    exact ⟨delivers.stored, delivers.answer, delivers.queued, delivers.size, delivers.elsewhere⟩

end Read

/-- A read leaves every pipe alone but the one behind its descriptor. -/
theorem pipe_read_of_other
    (other : m.descriptors.pipeAt? (m.core.registers.get .rbx) ≠ some name) :
    (Syscall.read.run m).2.host.pipe name = m.host.pipe name := by
  rw [Syscall.run_read_eq]
  split
  · rfl
  · next slot d found =>
    have differs : d.stream.backend.pipe? ≠ some name :=
      fun same => other ((Descriptors.pipeAt?_of_find found).trans same)
    have kept := Descriptors.pipe_readFrom slot d (m.core.registers.get .rdx).toNat m.descriptors
      name
    rw [if_neg differs] at kept
    split
    · rfl
    · split
      · next t refused =>
        rw [refused] at kept
        exact kept
      · next data t given =>
        rw [given] at kept
        rw [host_received]
        exact kept

/-! ## Writing -/

section Write

variable (pending : m.pendingCall? = some 1)

include pending

theorem tick_write : m.tick SyscallTable.standard = conclude (Syscall.write.run m.pastOpcode) :=
  tick_of_pendingCall pending rfl

theorem tick_write_of_missing {fault : Fault}
    (missing : m.descriptors.find (m.core.registers.get .rbx) = .error fault) :
    m.tick SyscallTable.standard = (false, m.pastOpcode.terminate fault) := by
  have missing' : m.pastOpcode.descriptors.find (m.pastOpcode.core.registers.get .rbx) =
    .error fault := missing
  rw [tick_write pending, Syscall.run_write_eq, missing']
  rfl

variable {slot : Slot} {d : Descriptor}
variable (found : m.descriptors.find (m.core.registers.get .rbx) = .ok (slot, d))

include found

theorem tick_write_of_unreadable {fault : Fault}
    (unreadable : m.core.memory.readFault? (m.core.registers.get .rcx)
      (m.core.registers.get .rdx).toNat = some fault) :
    m.tick SyscallTable.standard = (false, m.pastOpcode.terminate fault) := by
  have found' : m.pastOpcode.descriptors.find (m.pastOpcode.core.registers.get .rbx) =
    .ok (slot, d) := found
  have buffer : m.core.memory.readBytes (m.core.registers.get .rcx)
      (m.core.registers.get .rdx).toNat = .error fault := by
    rw [Memory.readBytes, unreadable]
  have buffer' : m.pastOpcode.core.memory.readBytes (m.pastOpcode.core.registers.get .rcx)
    (m.pastOpcode.core.registers.get .rdx).toNat = .error fault := buffer
  rw [tick_write pending, Syscall.run_write_eq, found']
  simp only [buffer']
  rfl

/-- A pipe takes all of the buffer. -/
theorem tick_write_pipe (pipe : d.stream.backend.pipe? = some name)
    (readable : m.core.memory.readFault? (m.core.registers.get .rcx)
      (m.core.registers.get .rdx).toNat = none) :
    ∃ next, m.tick SyscallTable.standard = (true, next) ∧
      next.host.pipe name = m.host.pipe name ++
        m.core.memory.slice (m.core.registers.get .rcx).toNat
          (m.core.registers.get .rdx).toNat := by
  have found' : m.pastOpcode.descriptors.find (m.pastOpcode.core.registers.get .rbx) =
    .ok (slot, d) := found
  let data := m.core.memory.slice (m.core.registers.get .rcx).toNat
    (m.core.registers.get .rdx).toNat
  have buffer : m.core.memory.readBytes (m.core.registers.get .rcx)
      (m.core.registers.get .rdx).toNat = .ok data := by
    rw [Memory.readBytes, readable]
  have buffer' : m.pastOpcode.core.memory.readBytes (m.pastOpcode.core.registers.get .rcx)
    (m.pastOpcode.core.registers.get .rdx).toNat = .ok data := buffer
  have taken : (Descriptors.writeTo slot d data).run m.pastOpcode.descriptors =
      (.ok (), ((Descriptors.writeTo slot d data).run m.descriptors).2) :=
    Prod.ext (Descriptors.result_writeTo pipe data) rfl
  rw [tick_write pending, Syscall.run_write_eq, found']
  simp only [buffer', taken]
  refine ⟨_, rfl, ?_⟩
  have queued := Descriptors.pipe_writeTo slot d data m.descriptors name
  rw [if_pos pipe] at queued
  exact queued

theorem completes_write (pipe : d.stream.backend.pipe? = some name) :
    (m.tick SyscallTable.standard).1 = true ↔
      m.core.memory.readFault? (m.core.registers.get .rcx)
        (m.core.registers.get .rdx).toNat = none := by
  cases fault : m.core.memory.readFault? (m.core.registers.get .rcx)
      (m.core.registers.get .rdx).toNat with
  | some fault' => simp [tick_write_of_unreadable pending found fault]
  | none =>
    obtain ⟨next, outcome, -⟩ := tick_write_pipe pending found pipe fault
    simp [outcome]

end Write

/-- A write leaves every pipe alone but the one behind its descriptor. -/
theorem pipe_write_of_other
    (other : m.descriptors.pipeAt? (m.core.registers.get .rbx) ≠ some name) :
    (Syscall.write.run m).2.host.pipe name = m.host.pipe name := by
  rw [Syscall.run_write_eq]
  split
  · rfl
  · next slot d found =>
    have differs : d.stream.backend.pipe? ≠ some name :=
      fun same => other ((Descriptors.pipeAt?_of_find found).trans same)
    split
    · rfl
    · next data buffer =>
      have kept := Descriptors.pipe_writeTo slot d data m.descriptors name
      rw [if_neg differs, List.append_nil] at kept
      split
      · next t refused =>
        rw [refused] at kept
        exact kept
      · next t taken =>
        rw [taken] at kept
        exact kept

/-! ## Refusals -/

/-- A pending read or write that cannot go ahead: there is no such descriptor, or the buffer is not
one to write to or to read from. -/
inductive Refuses (m : Machine) (fault : Fault) : Prop where
  | descriptor (call : m.pendingCall? = some 0 ∨ m.pendingCall? = some 1)
      (missing : m.descriptors.find (m.core.registers.get .rbx) = .error fault)
  | destination (call : m.pendingCall? = some 0) (slot : Slot) (d : Descriptor)
      (found : m.descriptors.find (m.core.registers.get .rbx) = .ok (slot, d))
      (unwritable : m.core.memory.writeFault? (m.core.registers.get .rcx)
        (m.core.registers.get .rdx).toNat = some fault)
  | source (call : m.pendingCall? = some 1) (slot : Slot) (d : Descriptor)
      (found : m.descriptors.find (m.core.registers.get .rbx) = .ok (slot, d))
      (unreadable : m.core.memory.readFault? (m.core.registers.get .rcx)
        (m.core.registers.get .rdx).toNat = some fault)

theorem tick_of_refuses {fault : Fault} (h : m.Refuses fault) :
    m.tick SyscallTable.standard = (false, m.pastOpcode.terminate fault) := by
  cases h with
  | descriptor call missing =>
    rcases call with read | write
    · exact tick_read_of_missing read missing
    · exact tick_write_of_missing write missing
  | destination call slot d found unwritable => exact tick_read_of_unwritable call found unwritable
  | source call slot d found unreadable => exact tick_write_of_unreadable call found unreadable

theorem Refuses.running {fault : Fault} (h : m.Refuses fault) :
    m.status = .running := by
  cases h with
  | descriptor call missing => exact call.elim running_of_pendingCall running_of_pendingCall
  | destination call slot d found unwritable => exact running_of_pendingCall call
  | source call slot d found unreadable => exact running_of_pendingCall call

theorem status_of_refuses {fault : Fault} (h : m.Refuses fault) :
    (m.pastOpcode.terminate fault).status = .faulted fault := by
  have running : m.pastOpcode.status = .running := h.running
  exact status_terminate running

end GuestMachine.Machine
