import GuestMachine.Proofs.Core.Fallout
import GuestMachine.Proofs.Instruction.Reading
import GuestMachine.Proofs.Syscall

/-!
# What a faulting tick leaves behind

A tick that faults has moved the instruction pointer behind the bytes it read, and nothing else: a
system call touches the core only once nothing can fail any more, and an operation leaves no more
than the fallout of its own fault.
-/

namespace GuestMachine

open Faulting (FaultsTo)

namespace Core

variable {c : Core}

/-- The core with its instruction pointer moved on. -/
def past (n : Nat) (c : Core) : Core := { c with rip := c.rip + UInt64.ofNat n }

theorem past_zero (c : Core) : c.past 0 = c := by simp [past]

theorem past_past (c : Core) (n k : Nat) : (c.past n).past k = c.past (n + k) := by
  simp [past, UInt64.ofNat_add, UInt64.add_assoc]

/-- Within an address space of 64 bits the instruction pointer does not wrap around. -/
theorem toNat_rip_past {n : Nat} (inside : n ≤ c.memory.size - c.rip.toNat)
    (small : c.memory.size < UInt64.size) : (c.past n).rip.toNat = c.rip.toNat + n := by
  have word := c.rip.toNat_lt
  unfold past
  rw [UInt64.toNat_add, UInt64.toNat_ofNat']
  unfold UInt64.size at small
  omega

/-- No refusal depends on the instruction pointer. -/
theorem RefusesPopped.withRip {w : Width} {a : Address} (h : c.RefusesPopped w a) (rip : UInt64) :
    { c with rip := rip }.RefusesPopped w a :=
  ⟨h.above, h.read, h.refused⟩

theorem RefusesResult.withRip {op : Operation} {f : Flags} (h : c.RefusesResult op f)
    (rip : UInt64) : { c with rip := rip }.RefusesResult op f := by
  cases h with
  | binary op w a src x y stores given loaded refused =>
    refine .binary op w a src x y stores ?_ loaded refused
    cases src with
    | register r => exact given
    | immediate value => exact given
    | memory b => exact given
  | unary op w a x computes loaded refused => exact .unary op w a x computes loaded refused

end Core

/-! ## System calls -/

namespace Syscall

open Machine (onDescriptors)

/-- A computation that faults leaves the core as it was. -/
def SparesCore {α : Type} (x : Sys α) : Prop := ∀ m, FaultsTo (fun m' => m'.core = m.core) x m

theorem faultsTo_answer {P : Machine → Prop} {m : Machine} (value : UInt64) :
    FaultsTo P (answer value) m := by
  intro fault m' faulted
  cases faulted

theorem spares_onDescriptors {α : Type} (x : Faulting Descriptors α) :
    SparesCore (onDescriptors x) := by
  intro m fault m' faulted
  rw [Machine.run_onDescriptors] at faulted
  obtain ⟨-, rfl⟩ := Prod.mk.inj faulted
  rfl

theorem spares_changeFiles {α : Type} (call : String)
    (f : FileSystem → Except HostError (α × FileSystem)) : SparesCore (changeFiles call f) := by
  intro m fault m' faulted
  cases outcome : f m.descriptors.host.files with
  | ok r =>
    rw [run_changeFiles_ok outcome] at faulted
    cases faulted
  | error e =>
    rw [run_changeFiles_error outcome] at faulted
    cases faulted
    exact Machine.core_log _ _

/-- The buffer has been checked, so what was read is delivered without a fault. -/
theorem spares_read : SparesCore read := by
  intro m
  unfold read
  refine .bind_observes (.read _) rfl fun index _ => ?_
  refine .bind_observes (.read _) rfl fun buffer _ => ?_
  refine .bind_observes (.read _) rfl fun length _ => ?_
  refine .bind_observes (.query _) rfl fun found _ => ?_
  refine .bind_observes (.guard _) rfl fun _ _ => ?_
  refine .bind (spares_onDescriptors _ m) fun data _ _ => ?_
  split
  · exact .update _
  · exact .bind (fun _ _ faulted => by cases faulted) fun _ _ _ => faultsTo_answer _

theorem spares_write : SparesCore write := by
  intro m
  unfold write
  refine .bind_observes (.read _) rfl fun index _ => ?_
  refine .bind_observes (.read _) rfl fun buffer _ => ?_
  refine .bind_observes (.read _) rfl fun length _ => ?_
  refine .bind_observes (.query _) rfl fun found _ => ?_
  refine .bind_observes (.query _) rfl fun data _ => ?_
  exact .bind (spares_onDescriptors _ m) fun _ _ _ => faultsTo_answer _

theorem spares_openFile : SparesCore openFile := by
  intro m fault m' faulted
  rcases openFile_cases m with ⟨reason, refused⟩ | ⟨message, rejected⟩ | ⟨_, _, _, _, -, -, done⟩
  · obtain rfl := (Prod.mk.inj (refused.symm.trans faulted)).2
    rfl
  · obtain rfl := (Prod.mk.inj (rejected.symm.trans faulted)).2
    exact Machine.core_log _ _
  · rw [done] at faulted
    cases (Prod.mk.inj faulted).1

theorem spares_seek : SparesCore seek := by
  intro m
  unfold seek
  refine .bind_observes (.read _) rfl fun index _ => ?_
  refine .bind_observes (.read _) rfl fun offset _ => ?_
  refine .bind_observes (.read _) rfl fun origin _ => ?_
  refine .bind_observes (.query _) rfl fun found _ => ?_
  refine .bind_observes (.query _) rfl fun target _ => ?_
  exact .bind (spares_onDescriptors _ m) fun position _ _ => faultsTo_answer position

theorem spares_tell : SparesCore tell := by
  intro m
  unfold tell
  refine .bind_observes (.read _) rfl fun index _ => ?_
  exact .bind (spares_onDescriptors _ m) fun position _ _ => faultsTo_answer position

theorem spares_close : SparesCore close := fun m =>
  .bind_observes (.read _) rfl fun _ _ => spares_onDescriptors _ m

theorem spares_flush : SparesCore flush := fun m =>
  .bind_observes (.read _) rfl fun _ _ => spares_onDescriptors _ m

theorem spares_move : SparesCore move := by
  intro m
  unfold move
  refine .bind_observes (.guard _) rfl fun _ _ => ?_
  refine .bind_observes (.read _) rfl fun rbx _ => ?_
  refine .bind_observes (.query _) rfl fun source _ => ?_
  refine .bind_observes (.read _) rfl fun rcx _ => ?_
  refine .bind_observes (.query _) rfl fun target _ => ?_
  exact spares_changeFiles _ _ m

/-- The three calls that change the file system at one path. -/
theorem spares_changePath (call : String)
    (f : String → FileSystem → Except HostError (Unit × FileSystem)) :
    SparesCore (do
      requireFileSystem
      let path ← text (← argument .rbx)
      changeFiles call (f path)) := by
  intro m
  refine .bind_observes (.guard _) rfl fun _ _ => ?_
  refine .bind_observes (.read _) rfl fun rbx _ => ?_
  refine .bind_observes (.query _) rfl fun path _ => ?_
  exact spares_changeFiles call (f path) m

theorem spares_exit : SparesCore exit := fun _ =>
  .bind_observes (.read _) rfl fun _ _ => .update _

theorem spares_handler {number : UInt64} {handler : Sys Unit}
    (found : SyscallTable.standard.get? number = some handler) : SparesCore handler := by
  apply SyscallTable.standard_cases (motive := fun _ => SparesCore) found
  case read => exact spares_read
  case write => exact spares_write
  case openFile => exact spares_openFile
  case close => exact spares_close
  case flush => exact spares_flush
  case seek => exact spares_seek
  case tell => exact spares_tell
  case move => exact spares_move
  case remove | makeDirectory | removeDirectory => exact spares_changePath _ _
  case exit => exact spares_exit

theorem spares_dispatch : SparesCore (dispatch SyscallTable.standard) := by
  intro m
  unfold dispatch
  refine .bind_observes (.read _) rfl fun number _ => ?_
  cases found : SyscallTable.standard.get? number with
  | none => exact .of_observes (.fail _) rfl
  | some handler => exact spares_handler found m

end Syscall

/-! ## Ticks -/

namespace Machine

variable {table : SyscallTable} {m : Machine}

/-- The next tick reads an instruction that is the operation `op`. -/
def Executes (m : Machine) (op : Operation) : Prop :=
  m.core.rip.toNat < m.core.memory.exeBarrier ∧
    (Instruction.decode m.window).result = .ok (.operation op)

/-- The machine behind the bytes that are read for its next instruction. -/
def fetched (m : Machine) : Machine :=
  { m with core := m.core.past (Instruction.decode m.window).length }

theorem run_advance (m : Machine) :
    (advance (Instruction.decode m.window).length).run m = (.ok (), m.fetched) := rfl

theorem run_step_of_executes {op : Operation} (h : m.Executes op) :
    (step table).run m = (onCore (Exec.execute op)).run m.fetched := by
  rw [run_step_of_below h.1, proceed, Faulting.run_bind_ok m.run_advance, h.2]

/-- A tick that completes has executed the operation it read, and has touched nothing but the
core. -/
theorem executed_of_tick {op : Operation} {m' : Machine} (h : m.Executes op)
    (completed : m.tick table = (true, m')) :
    (Exec.execute op).run m.fetched.core = (.ok (), m'.core) ∧ m' = { m with core := m'.core } := by
  obtain ⟨-, -, stepped⟩ := tick_eq_true completed
  rw [run_step_of_executes h, run_onCore] at stepped
  obtain ⟨result, rfl⟩ := Prod.mk.inj stepped
  exact ⟨Prod.ext result rfl, rfl⟩

theorem run_step_of_fault {op : Operation} {fault : Fault} {c : Core} (h : m.Executes op)
    (faulted : (Exec.execute op).run m.fetched.core = (.error fault, c)) :
    (step table).run m = (.error fault, { m with core := c }) := by
  rw [run_step_of_executes h, run_onCore, faulted]
  rfl

/-- Where nothing is read as an instruction, only the instruction pointer moves. -/
theorem run_step_of_error {fault : Fault} (below : m.core.rip.toNat < m.core.memory.exeBarrier)
    (unread : (Instruction.decode m.window).result = .error fault) :
    (step table).run m = (.error fault, m.fetched) := by
  rw [run_step_of_below below, proceed, Faulting.run_bind_ok m.run_advance, unread]
  rfl

theorem length_decode_le (input : Bytes) : (Instruction.decode input).length ≤ input.length :=
  Nat.sub_le _ _

/-- What a step that faults leaves: the core behind at most the bytes of the window, with the
fallout of the operation if one was read. -/
theorem core_of_step_error {fault : Fault} {m' : Machine}
    (h : (step SyscallTable.standard).run m = (.error fault, m')) :
    ∃ n ≤ m.window.length, m'.core = m.core.past n ∨
      ∃ op, m.Executes op ∧ (m.core.past n).Fallout op m'.core := by
  by_cases below : m.core.rip.toNat < m.core.memory.exeBarrier
  · refine ⟨_, length_decode_le m.window, ?_⟩
    cases result : (Instruction.decode m.window).result with
    | error reason =>
      rw [run_step_of_error below result] at h
      obtain ⟨-, rfl⟩ := Prod.mk.inj h
      exact .inl rfl
    | ok i =>
      cases i with
      | syscall =>
        rw [run_step_of_below below, proceed, Faulting.run_bind_ok m.run_advance, result] at h
        exact .inl (Syscall.spares_dispatch m.fetched fault m' h)
      | operation op =>
        have executes : m.Executes op := ⟨below, result⟩
        rw [run_step_of_executes executes, run_onCore] at h
        obtain ⟨faulted, rfl⟩ := Prod.mk.inj h
        exact .inr ⟨op, executes, Exec.faultsTo_execute op _ fault _ (Prod.ext faulted rfl)⟩
  · rw [run_step_of_barrier_le (Nat.le_of_not_lt below)] at h
    obtain ⟨-, rfl⟩ := Prod.mk.inj h
    exact ⟨0, Nat.zero_le _, .inl m.core.past_zero.symm⟩

/-- A tick of a running process that does not complete is a step that faults. -/
theorem exists_step_error {next : Machine} (running : m.status = .running)
    (ticked : m.tick table = (false, next)) :
    ∃ fault m', (step table).run m = (.error fault, m') ∧ next.core = m'.core := by
  rw [tick_of_running running] at ticked
  cases outcome : (step table).run m with
  | mk result m' =>
    rw [outcome] at ticked
    cases result with
    | ok _ => cases ticked
    | error fault =>
      cases ticked
      exact ⟨fault, m', rfl, core_terminate fault⟩

/-- A step that faults decides how its tick ends. -/
theorem eq_of_step_error {completed : Bool} {next m' : Machine} {fault : Fault}
    (running : m.status = .running) (ticked : m.tick table = (completed, next))
    (h : (step table).run m = (.error fault, m')) :
    completed = false ∧ next.core = m'.core := by
  rw [tick_of_step_error running h] at ticked
  obtain ⟨rfl, rfl⟩ := Prod.mk.inj ticked
  exact ⟨rfl, core_terminate fault⟩

/-- A tick of a running process that faults leaves the memory and the floating-point unit as they
were. So are the registers, unless a pop into memory was refused its destination, and the flags,
unless an operation on memory was refused the place of its result; the instruction pointer has
moved on by at most fourteen bytes. Both exceptions are faults: the refused pop has moved the stack
pointer by its width, and the refused result has set its flags. An instruction that is cut short by
the end of memory is a fault too, and moves nothing but the instruction pointer. A read that the
host refuses leaves the memory alone, as a `Device` that fails touches no buffer. -/
theorem fault_effects_exact {m next : Machine} {completed : Bool} (running : m.status = .running)
    (ticked : m.tick SyscallTable.standard = (completed, next)) :
    (completed = false →
      next.core.memory = m.core.memory ∧ next.core.fpu = m.core.fpu ∧
      (next.core.registers = m.core.registers ∨
        ∃ w a, m.Executes (.pop w (.memory a)) ∧ m.core.RefusesPopped w a) ∧
      (next.core.flags = m.core.flags ∨ ∃ op f, m.Executes op ∧ m.core.RefusesResult op f) ∧
      ∃ n ≤ 14, next.core.rip = m.core.rip + UInt64.ofNat n ∧
        (m.core.memory.size < UInt64.size → next.core.rip.toNat = m.core.rip.toNat + n)) ∧
    (∀ w a, m.Executes (.pop w (.memory a)) → m.core.RefusesPopped w a →
      completed = false ∧ next.core.registers =
        m.core.registers.set .rsp (m.core.registers.get .rsp + UInt64.ofNat w.bytes)) ∧
    (∀ op f, m.Executes op → m.core.RefusesResult op f →
      completed = false ∧ next.core.flags = f) ∧
    ∀ taken i, Instruction.Spells taken i → m.window <+: taken → m.window ≠ taken →
      completed = false ∧ next.core = { m.core with rip := next.core.rip } := by
  refine ⟨?_, ?_, ?_, ?_⟩
  · rintro rfl
    obtain ⟨fault, m', stepped, left⟩ := exists_step_error running ticked
    obtain ⟨n, inside, outcome⟩ := core_of_step_error stepped
    rw [window, Memory.length_slice, Instruction.maxLength] at inside
    have reached : m.core.memory.size < UInt64.size →
        (m.core.past n).rip.toNat = m.core.rip.toNat + n := Core.toNat_rip_past (by omega)
    rw [left]
    rcases outcome with moved | ⟨op, executes, fallout⟩
    · rw [moved]
      exact ⟨rfl, rfl, .inl rfl, .inl rfl, n, by omega, rfl, reached⟩
    · obtain ⟨memory, fpu, rip⟩ := fallout.unmoved
      refine ⟨memory, fpu, ?_, ?_, n, by omega, rip, ?_⟩
      · refine fallout.registers.imp_right ?_
        rintro ⟨w, a, rfl, refuses⟩
        exact ⟨w, a, executes, refuses.withRip m.core.rip⟩
      · refine fallout.flags.imp_right ?_
        rintro ⟨f, refuses⟩
        exact ⟨op, f, executes, refuses.withRip m.core.rip⟩
      · rw [rip]
        exact reached
  · intro w a executes refuses
    obtain ⟨fault, faulted⟩ := Exec.run_of_refusesPopped (refuses.withRip m.fetched.core.rip)
    obtain ⟨ends, left⟩ := eq_of_step_error running ticked (run_step_of_fault executes faulted)
    rw [left]
    exact ⟨ends, rfl⟩
  · intro op f executes refuses
    have faulted := Exec.run_of_refusesResult (refuses.withRip m.fetched.core.rip)
    obtain ⟨ends, left⟩ := eq_of_step_error running ticked (run_step_of_fault executes faulted)
    rw [left]
    exact ⟨ends, rfl⟩
  · intro taken i spells begins short
    obtain ⟨fault, unread⟩ := spells.exists_error begins short
    by_cases below : m.core.rip.toNat < m.core.memory.exeBarrier
    · obtain ⟨ends, left⟩ := eq_of_step_error running ticked (run_step_of_error below unread)
      exact ⟨ends, by rw [left]; rfl⟩
    · obtain ⟨ends, left⟩ := eq_of_step_error running ticked
        (run_step_of_barrier_le (Nat.le_of_not_lt below))
      exact ⟨ends, by rw [left]⟩

/-- A machine at the start of its text, which is protected, with one word on its stack. -/
def protecting (text : Bytes) : Machine :=
  { new {} {} with
    core := { Core.blank with
      memory := ⟨(text ++ [1, 2, 3, 4, 5, 6, 7, 8]).toArray, text.length, text.length, text.length⟩
      registers := Registers.empty.set .rsp (UInt64.ofNat text.length) }
    life := .started }

/-- A machine about to pop the word into its text. -/
def popping : Machine := protecting [Opcode.pop.toByte, 0x0E, 0x0C]

/-- A machine about to increment the first byte of its text. -/
def incrementing : Machine := protecting [Opcode.inc.toByte, 0x01, 0x0C]

theorem fault_effects_exact_protecting :
    (∃ next, popping.status = .running ∧ popping.tick SyscallTable.standard = (false, next) ∧
      next.core.memory = popping.core.memory ∧
      next.core.registers = popping.core.registers.set .rsp 11) ∧
    ∃ next, incrementing.status = .running ∧
      incrementing.tick SyscallTable.standard = (false, next) ∧
      next.core.memory = incrementing.core.memory ∧
      incrementing.core.flags.get Flags.parity = false ∧
      next.core.flags.get Flags.parity = true := by
  constructor
  · obtain ⟨next, ticked⟩ : ∃ next, popping.tick SyscallTable.standard = (false, next) := ⟨_, rfl⟩
    have executes : popping.Executes (.pop .qword (.memory ⟨.qword, 0, none, none⟩)) :=
      ⟨by decide, rfl⟩
    have refuses : popping.core.RefusesPopped .qword ⟨.qword, 0, none, none⟩ :=
      ⟨by decide, ⟨_, rfl⟩, ⟨.accessViolation, rfl⟩⟩
    obtain ⟨effects, popped, -⟩ := fault_effects_exact (m := popping) rfl ticked
    exact ⟨next, rfl, ticked, (effects rfl).1, (popped _ _ executes refuses).2⟩
  · obtain ⟨next, ticked⟩ : ∃ next, incrementing.tick SyscallTable.standard = (false, next) :=
      ⟨_, rfl⟩
    have executes : incrementing.Executes (.unary .inc .byte (.memory ⟨.qword, 0, none, none⟩)) :=
      ⟨by decide, rfl⟩
    have refuses := Core.RefusesResult.unary (c := incrementing.core) .inc .byte
      ⟨.qword, 0, none, none⟩ 0x0E (by decide) rfl rfl
    obtain ⟨effects, -, computed, -⟩ := fault_effects_exact (m := incrementing) rfl ticked
    refine ⟨next, rfl, ticked, (effects rfl).1, by decide, ?_⟩
    rw [(computed _ _ executes refuses).2]
    decide

end Machine

end GuestMachine
