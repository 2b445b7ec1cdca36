import GuestMachine.Proofs.Machine.Boot
import GuestMachine.Proofs.Machine.Transfer

/-!
# Bytes through pipes

A pipe is one queue for everyone who holds it: the host, which feeds and drains it, and any number
of descriptors, through which the process reads and writes. Whatever order they act in, the bytes
come out as they went in. A call that faults on its descriptor or on its buffer has moved nothing.
-/

namespace GuestMachine

/-! ## Traffic -/

/-- The bytes that were put into a pipe and those that were taken out, each in order. -/
structure Traffic where
  appended : Bytes := []
  removed : Bytes := []
  deriving DecidableEq, Repr

namespace Traffic

def followedBy (first second : Traffic) : Traffic :=
  ⟨first.appended ++ second.appended, first.removed ++ second.removed⟩

/-- The traffic accounts for a queue: what was there and what came is what left and what is still
there, byte for byte. -/
def Accounts (traffic : Traffic) (before after : Bytes) : Prop :=
  before ++ traffic.appended = traffic.removed ++ after

variable {first second : Traffic} {before between after : Bytes}

theorem accounts_nothing (same : after = before) : Accounts {} before after := by
  rw [Accounts, same]
  exact List.append_nil before

theorem eq_of_accounts_nothing (h : Accounts {} before after) : after = before := by
  have balance : before ++ [] = [] ++ after := h
  rw [List.append_nil, List.nil_append] at balance
  exact balance.symm

theorem accounts_appended (before data : Bytes) :
    Accounts { appended := data } before (before ++ data) := rfl

theorem accounts_taken (before : Bytes) (count : Nat) :
    Accounts { removed := before.take count } before (before.drop count) := by
  unfold Accounts
  rw [List.append_nil, List.take_append_drop]

theorem Accounts.followedBy (h : first.Accounts before between)
    (h' : second.Accounts between after) : (first.followedBy second).Accounts before after := by
  unfold Accounts at h h' ⊢
  calc before ++ (first.appended ++ second.appended)
    _ = (before ++ first.appended) ++ second.appended := (List.append_assoc _ _ _).symm
    _ = first.removed ++ (between ++ second.appended) := by rw [h, List.append_assoc]
    _ = (first.removed ++ second.removed) ++ after := by rw [h', List.append_assoc]

end Traffic

namespace Machine

variable {m m' : Machine} {name : String}

/-! ## Ticks -/

/-- What a tick does to the pipe `name`: a read that completes takes the bytes that it leaves in its
buffer, a write that completes adds the bytes of its buffer. -/
def tickTraffic (name : String) (m : Machine) : Traffic :=
  let ticked := m.tick SyscallTable.standard
  let buffer := (m.core.registers.get .rcx).toNat
  if ticked.1 = true ∧ m.descriptors.pipeAt? (m.core.registers.get .rbx) = some name then
    if m.pendingCall? = some 0 ∧ ticked.2.status ≠ .suspended then
      { removed := ticked.2.core.memory.slice buffer (ticked.2.core.registers.get .rax).toNat }
    else if m.pendingCall? = some 1 then
      { appended := m.core.memory.slice buffer (m.core.registers.get .rdx).toNat }
    else {}
  else {}

theorem tickTraffic_of_false (h : m.tick SyscallTable.standard = (false, m')) (name : String) :
    m.tickTraffic name = {} := by
  unfold tickTraffic
  rw [h]
  exact if_neg fun both => nomatch both.1

theorem tickTraffic_of_other
    (other : m.descriptors.pipeAt? (m.core.registers.get .rbx) ≠ some name) :
    m.tickTraffic name = {} := if_neg fun both => other both.2

theorem tickTraffic_of_not_transfer (notRead : m.pendingCall? ≠ some 0)
    (notWrite : m.pendingCall? ≠ some 1) : m.tickTraffic name = {} := by
  unfold tickTraffic
  simp [notRead, notWrite]

variable {slot : Slot} {d : Descriptor}

theorem accounts_read (pending : m.pendingCall? = some 0)
    (found : m.descriptors.find (m.core.registers.get .rbx) = .ok (slot, d))
    (pipe : d.stream.backend.pipe? = some name) :
    (m.tickTraffic name).Accounts (m.host.pipe name)
      ((m.tick SyscallTable.standard).2.host.pipe name) := by
  have holds : m.descriptors.pipeAt? (m.core.registers.get .rbx) = some name :=
    (Descriptors.pipeAt?_of_find found).trans pipe
  cases fault : m.core.memory.writeFault? (m.core.registers.get .rcx)
      (m.core.registers.get .rdx).toNat with
  | some fault' =>
    have outcome := tick_read_of_unwritable pending found fault
    rw [tickTraffic_of_false outcome, outcome]
    exact Traffic.accounts_nothing (pipe_terminate _ _ _)
  | none =>
    have outcome := tick_read_pipe pending found pipe fault
    by_cases waits : (m.tick SyscallTable.standard).2.status = .suspended
    -- A read that waits has found the queue empty, and dropping from nothing leaves nothing.
    · have nothing : m.tickTraffic name = {} := by simp [tickTraffic, pending, waits]
      rw [outcome] at waits
      have empty := (empty_of_tick pending found pipe outcome waits).1
      rw [nothing, outcome, host_received, Descriptors.pipe_readFrom, if_pos pipe]
      refine Traffic.accounts_nothing ?_
      show (m.host.pipe name).drop _ = m.host.pipe name
      rw [empty, List.drop_nil]
    · rw [outcome] at waits
      have delivers := delivers_tick pending found pipe outcome waits
      have traffic : m.tickTraffic name = ⟨[], (m.host.pipe name).take
          (min (m.core.registers.get .rdx).toNat (m.host.pipe name).length)⟩ := by
        simp [tickTraffic, holds, pending, outcome, waits, delivers.answer, delivers.stored]
      rw [traffic, outcome, delivers.queued]
      exact Traffic.accounts_taken _ _

theorem accounts_write (pending : m.pendingCall? = some 1)
    (found : m.descriptors.find (m.core.registers.get .rbx) = .ok (slot, d))
    (pipe : d.stream.backend.pipe? = some name) :
    (m.tickTraffic name).Accounts (m.host.pipe name)
      ((m.tick SyscallTable.standard).2.host.pipe name) := by
  have holds : m.descriptors.pipeAt? (m.core.registers.get .rbx) = some name :=
    (Descriptors.pipeAt?_of_find found).trans pipe
  cases fault : m.core.memory.readFault? (m.core.registers.get .rcx)
      (m.core.registers.get .rdx).toNat with
  | some fault' =>
    have outcome := tick_write_of_unreadable pending found fault
    rw [tickTraffic_of_false outcome, outcome]
    exact Traffic.accounts_nothing (pipe_terminate _ _ _)
  | none =>
    obtain ⟨next, outcome, queued⟩ := tick_write_pipe pending found pipe fault
    have traffic : m.tickTraffic name = ⟨m.core.memory.slice (m.core.registers.get .rcx).toNat
        (m.core.registers.get .rdx).toNat, []⟩ := by
      simp [tickTraffic, holds, pending, outcome]
    rw [traffic, outcome, queued]
    exact Traffic.accounts_appended _ _

/-- Every tick accounts for every pipe. -/
theorem accounts_tick (name : String) (m : Machine) :
    (m.tickTraffic name).Accounts (m.host.pipe name)
      ((m.tick SyscallTable.standard).2.host.pipe name) := by
  by_cases holds : m.descriptors.pipeAt? (m.core.registers.get .rbx) = some name
  · obtain ⟨slot, d, found, pipe⟩ := Descriptors.find_of_pipeAt? holds
    by_cases read : m.pendingCall? = some 0
    · exact accounts_read read found pipe
    by_cases write : m.pendingCall? = some 1
    · exact accounts_write write found pipe
    rw [tickTraffic_of_not_transfer read write]
    exact Traffic.accounts_nothing (pipe_tick read write name)
  -- The descriptor may be missing, or stand for any other stream that may answer or fail.
  · rw [tickTraffic_of_other holds]
    refine Traffic.accounts_nothing ?_
    by_cases read : m.pendingCall? = some 0
    · rw [tick_read read, pipe_conclude]
      exact pipe_read_of_other (m := m.pastOpcode) holds
    by_cases write : m.pendingCall? = some 1
    · rw [tick_write write, pipe_conclude]
      exact pipe_write_of_other (m := m.pastOpcode) holds
    exact pipe_tick read write name

/-- A tick that fails moves no byte. -/
theorem pipe_of_tick_false (failed : m.tick SyscallTable.standard = (false, m')) (name : String) :
    m'.host.pipe name = m.host.pipe name := by
  have accounts := accounts_tick name m
  rw [tickTraffic_of_false failed, failed] at accounts
  exact Traffic.eq_of_accounts_nothing accounts

/-! ## Runs -/

/-- What a run does to the pipe `name`, tick by tick. -/
def runTraffic (name : String) : (fuel : Nat) → Machine → Traffic
  | 0, _ => {}
  | fuel + 1, m => (m.tickTraffic name).followedBy
      (match m.tick SyscallTable.standard with
        | (true, next) => next.runTraffic name fuel
        | (false, _) => {})

theorem accounts_runFrom (name : String) (fuel count : Nat) (m : Machine) :
    (m.runTraffic name fuel).Accounts (m.host.pipe name)
      ((m.runFrom SyscallTable.standard fuel count).2.host.pipe name) := by
  induction fuel generalizing count m with
  | zero => exact Traffic.accounts_nothing rfl
  | succ fuel ih =>
    have first := accounts_tick name m
    rw [runTraffic, runFrom]
    generalize m.tick SyscallTable.standard = outcome at first ⊢
    obtain ⟨completed, next⟩ := outcome
    cases completed with
    | true => exact first.followedBy (ih (count + 1) next)
    | false => exact first.followedBy (Traffic.accounts_nothing rfl)

end Machine

/-! ## Operations from outside -/

namespace Descriptors

/-- What an operation from outside does to the pipe `name`. -/
def Action.traffic (name : String) (a : Action) (t : Descriptors) : Traffic :=
  match a with
  | read index count =>
    if t.pipeAt? index = some name then
      match ((Descriptors.read index count).run t).1 with
      | .ok data => { removed := data }
      | .error _ => {}
    else {}
  | write index data => { appended := if t.pipeAt? index = some name then data else [] }
  | feed pipe bytes => { appended := if pipe = name then bytes else [] }
  | drain pipe => { removed := if pipe = name then (t.host.takePipe pipe).1 else [] }
  | _ => {}

theorem Action.accounts_read (index : UInt64) (count : Nat) (t : Descriptors) (name : String) :
    ((read index count).traffic name t).Accounts (t.host.pipe name)
      (((read index count).apply t).host.pipe name) := by
  unfold Action.traffic Action.apply
  by_cases holds : t.pipeAt? index = some name
  · obtain ⟨given, left⟩ := run_read_of_pipeAt? holds count
    simp only [if_pos holds, given]
    rw [left]
    exact Traffic.accounts_taken _ count
  · simp only [if_neg holds]
    exact Traffic.accounts_nothing (pipe_read_of_other holds count)

theorem Action.accounts_drain (pipe : String) (t : Descriptors) (name : String) :
    ((drain pipe).traffic name t).Accounts (t.host.pipe name)
      (((drain pipe).apply t).host.pipe name) := by
  unfold Action.traffic Action.apply Traffic.Accounts
  have left := Host.pipe_takePipe t.host name pipe
  by_cases same : pipe = name
  · subst same
    simp only [if_pos] at left ⊢
    rw [left, Host.takePipe]
  · simp only [if_neg same] at left ⊢
    rw [left, List.append_nil, List.nil_append]

/-- Every operation from outside accounts for every pipe. -/
theorem Action.accounts (name : String) (a : Action) (t : Descriptors) :
    (a.traffic name t).Accounts (t.host.pipe name) ((a.apply t).host.pipe name) := by
  cases a with
  | install index backend interactive =>
    exact Traffic.accounts_nothing (pipe_install index backend interactive t name)
  | setInteractive index on =>
    exact Traffic.accounts_nothing (pipe_run_found index fun _ _ => rfl)
  | read index count => exact accounts_read index count t name
  | write index data =>
    rw [Action.apply, pipe_write]
    exact Traffic.accounts_appended _ _
  | seek index target =>
    exact Traffic.accounts_nothing
      (pipe_run_found index fun slot d => pipe_seekOn slot d target t name)
  | flush index =>
    exact Traffic.accounts_nothing (pipe_run_found index fun slot d => pipe_flushOn slot d t name)
  | close index =>
    exact Traffic.accounts_nothing (pipe_run_found index fun slot _ => pipe_closeSlot t slot name)
  | closeAll => exact Traffic.accounts_nothing (pipe_closeAll t name)
  | feed pipe bytes =>
    rw [Action.apply, Host.pipe_pushPipe]
    exact Traffic.accounts_appended _ _
  | drain pipe => exact accounts_drain pipe t name

end Descriptors

namespace Machine

/-! ## Histories -/

/-- What an action does to the pipe `name`. -/
def Action.traffic (name : String) (a : Action) (m : Machine) : Traffic :=
  match a with
  | .tick => m.tickTraffic name
  | .run fuel => m.runTraffic name fuel
  | .descriptors a => a.traffic name m.descriptors
  | _ => {}

theorem accounts_perform (name : String) (a : Action) (m : Machine) :
    (a.traffic name m).Accounts (m.host.pipe name) ((m.perform a).host.pipe name) := by
  cases a with
  | tick => exact accounts_tick name m
  | run fuel => exact accounts_runFrom name fuel 0 m
  | resume => exact Traffic.accounts_nothing rfl
  | terminate cause => exact Traffic.accounts_nothing (pipe_terminate cause m name)
  | exit code => exact Traffic.accounts_nothing (pipe_stop _ _ m name)
  | core a => exact Traffic.accounts_nothing rfl
  | descriptors a => exact a.accounts name m.descriptors

/-- What a request does to the pipe `name`. -/
def Request.traffic (name : String) (r : Request) (m : Machine) : Traffic :=
  match r with
  | .boot _ _ _ _ => {}
  | .action a => a.traffic name m

/-- A start moves no byte. -/
theorem accounts_serve (name : String) (r : Request) (m : Machine) :
    (r.traffic name m).Accounts (m.host.pipe name) ((m.serve r).host.pipe name) := by
  cases r with
  | boot noise e args reserve =>
    refine Traffic.accounts_nothing ?_
    rcases serve_boot_cases m noise e args reserve with ⟨-, refused⟩ | ⟨-, _, _, started⟩
    · rw [refused]
    · rw [started]
      exact pipe_log .debug _ m name
  | action a => exact accounts_perform name a m

/-- What a history does to the pipe `name`: the bytes that anyone put in and the bytes that anyone
took out, in order. -/
def traffic (name : String) : List Request → Machine → Traffic
  | [], _ => {}
  | r :: rest, m => (r.traffic name m).followedBy ((m.serve r).traffic name rest)

theorem accounts_serveAll (name : String) (requests : List Request) (m : Machine) :
    (m.traffic name requests).Accounts (m.host.pipe name)
      ((m.serveAll requests).host.pipe name) := by
  induction requests generalizing m with
  | nil => exact Traffic.accounts_nothing rfl
  | cons r rest ih => exact (accounts_serve name r m).followedBy (ih (m.serve r))

/-- Whoever shares a pipe, and in whatever order they act: what was in it and what came in is what
went out and what is in it still. A read through any descriptor of it gets the first bytes of the
queue, unless it has to wait for one. A read or a write that is refused, and any other tick that
fails, leaves every pipe as it was. -/
theorem pipe_bytes_conserved (m : Machine) (requests : List Request) (name : String) :
    let now := m.serveAll requests
    let queue := now.host.pipe name
    let buffer := now.core.registers.get .rcx
    let count := (now.core.registers.get .rdx).toNat
    let outcome := now.tick SyscallTable.standard
    m.host.pipe name ++ (m.traffic name requests).appended =
      (m.traffic name requests).removed ++ queue ∧
    (now.descriptors.pipeAt? (now.core.registers.get .rbx) = some name →
      (now.pendingCall? = some 0 →
        (outcome.1 = true ↔ now.core.memory.writeFault? buffer count = none) ∧
        (outcome.1 = true → outcome.2.status = .suspended → queue = [] ∧ count ≠ 0) ∧
        (outcome.1 = true → outcome.2.status ≠ .suspended →
          now.Delivers name (min count queue.length) outcome.2)) ∧
      (now.pendingCall? = some 1 →
        (outcome.1 = true ↔ now.core.memory.readFault? buffer count = none) ∧
        (outcome.1 = true → outcome.2.host.pipe name =
          queue ++ now.core.memory.slice buffer.toNat count))) ∧
    (∀ fault, now.Refuses fault → outcome.1 = false ∧ outcome.2.status = .faulted fault) ∧
    (outcome.1 = false → ∀ other, outcome.2.host.pipe other = now.host.pipe other) := by
  intro now queue buffer count outcome
  refine ⟨accounts_serveAll name requests m, ?_, ?_, ?_⟩
  · intro holds
    obtain ⟨slot, d, found, pipe⟩ := Descriptors.find_of_pipeAt? holds
    constructor
    · intro read
      refine ⟨completes_read read found pipe, ?_, ?_⟩
      · intro completed waits
        exact empty_of_tick read found pipe (Prod.ext completed rfl) waits
      · intro completed awake
        exact delivers_tick read found pipe (Prod.ext completed rfl) awake
    · intro write
      refine ⟨completes_write write found pipe, ?_⟩
      intro completed
      have readable := (completes_write write found pipe).mp completed
      obtain ⟨next, ticked, queued⟩ := tick_write_pipe write found pipe readable
      have same : outcome.2 = next := congrArg Prod.snd ticked
      rw [same]
      exact queued
  · intro fault refuses
    have ticked : outcome = (false, now.pastOpcode.terminate fault) := tick_of_refuses refuses
    rw [ticked]
    exact ⟨rfl, status_of_refuses refuses⟩
  · intro failed other
    exact pipe_of_tick_false (Prod.ext failed rfl) other

/-- A process that takes the first byte of the pipe `"keys"` and, since the answer is the number
of the next call, puts it back at the end. Two slots share the pipe. -/
def recycling (first second : Slot) : Machine where
  core := {
    memory := ⟨#[Opcode.syscall.toByte, Opcode.syscall.toByte, 0], 2, 2, 3⟩
    registers :=
      ((Registers.empty.set .rbx (UInt64.ofNat first.val)).set .rcx 2).set .rdx 1
    rip := 0
    flags := Flags.initial
    fpu := Fpu.empty }
  descriptors := ((Descriptors.closed {}).put first (some ⟨⟨0, .pipe "keys"⟩, false⟩)).put second
    (some ⟨⟨1, .pipe "keys"⟩, true⟩)
  life := .started
  config := {}

/-- Three bytes come from outside, the process takes one of them through one descriptor and puts it
back through the other. -/
def recycle : List Request := [
  .action (.descriptors (.feed "keys" [65, 66, 67])), .action .tick,
  .action (.core (.setRegister .rbx 7)), .action .tick]

theorem pipe_bytes_conserved_recycling :
    let fed := (recycling 4 7).serveAll (recycle.take 1)
    let greedy := fed.perform (.core (.setRegister .rdx 9))
    (recycling 4 7).traffic "keys" recycle = ⟨[65, 66, 67, 65], [65]⟩ ∧
      ((recycling 4 7).serveAll recycle).host.pipe "keys" = [66, 67, 65] ∧
      fed.pendingCall? = some 0 ∧ fed.descriptors.pipeAt? 4 = some "keys" ∧
      fed.Delivers "keys" 1 (fed.tick SyscallTable.standard).2 ∧
      greedy.Refuses .outOfBounds ∧
      (greedy.tick SyscallTable.standard).2.host.pipe "keys" = [65, 66, 67] := by
  intro fed greedy
  have traffic : (recycling 4 7).traffic "keys" recycle = ⟨[65, 66, 67, 65], [65]⟩ := by
    decide +kernel
  have balance := (pipe_bytes_conserved (recycling 4 7) recycle "keys").1
  rw [traffic] at balance
  have queued : [66, 67, 65] = ((recycling 4 7).serveAll recycle).host.pipe "keys" :=
    (List.cons.inj balance).2
  obtain ⟨-, reads, -, -⟩ := pipe_bytes_conserved (recycling 4 7) (recycle.take 1) "keys"
  obtain ⟨completes, -, delivers⟩ := (reads rfl).1 (by decide)
  have completed := completes.mpr (by decide)
  obtain ⟨-, -, refused, unchanged⟩ := pipe_bytes_conserved (recycling 4 7)
    (recycle.take 1 ++ [.action (.core (.setRegister .rdx 9))]) "keys"
  have refuses : greedy.Refuses .outOfBounds :=
    .destination (by decide) 4 ⟨⟨0, .pipe "keys"⟩, false⟩ rfl (by decide)
  exact ⟨traffic, queued.symm, by decide, rfl,
    delivers completed (by decide +kernel), refuses, unchanged (refused _ refuses).1 "keys"⟩

end Machine

end GuestMachine
