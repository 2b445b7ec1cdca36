import GuestMachine.Host.Script
import GuestMachine.Proofs.Host.Delivery
import GuestMachine.Proofs.Lifecycle
import GuestMachine.Proofs.Syscall

/-!
# Writing to a descriptor

A process that writes a buffer to an open descriptor goes on only if the stream took all of it,
byte after byte, in however many pieces; the length is its result. If the stream fails or takes
nothing more while bytes are left, the process is over, and no stream is offered anything from then
on.
-/

namespace GuestMachine.Machine

open StreamEvent (allAccepted)

variable {table : SyscallTable} {m : Machine} {slot : Slot} {d : Descriptor}

/-- A process that is ended offers its streams nothing more; they are only flushed and dropped. -/
theorem history_terminate (cause : Fault) (m : Machine) (id : StreamId) :
    ∃ closing : List StreamEvent,
      (∀ event ∈ closing, event = .drop ∨ ∃ result, event = .flush result) ∧
      (m.terminate cause).host.history id = m.host.history id ++ closing := by
  unfold terminate
  rw [host, descriptors_stop]
  split
  · have same : ∀ message, (m.log .warn message).descriptors.host.history id = m.host.history id :=
      fun message => m.host.history_log .warn message id
    rw [← same]
    exact Descriptors.history_closeAll _ id
  · exact m.descriptors.history_closeAll id

/-! ## The call -/

/-- The process is about to write `[RCX, RCX + RDX)`, which is in memory, to the descriptor that is
open in `slot`. -/
structure AsksWrite (table : SyscallTable) (m : Machine) (slot : Slot) (d : Descriptor) :
    Prop where
  running : m.status = .running
  below : m.core.rip.toNat < m.core.memory.exeBarrier
  opcode : m.core.memory.bytes[m.core.rip.toNat]? = some Opcode.syscall.toByte
  handler : table.get? (m.core.registers.get .rax) = some Syscall.write
  index : (m.core.registers.get .rbx).toNat = slot.val
  opened : m.descriptors.get? slot = some d
  readable :
    (m.core.registers.get .rcx).toNat + (m.core.registers.get .rdx).toNat ≤ m.core.memory.size

/-- The bytes in `[RCX, RCX + RDX)`. -/
def outgoing (m : Machine) : Bytes :=
  m.core.memory.slice (m.core.registers.get .rcx).toNat (m.core.registers.get .rdx).toNat

/-- The machine behind its call, with the answer of the stream that was handed the bytes. -/
def handedOver (m : Machine) (slot : Slot) (d : Descriptor) : Machine :=
  let reply := d.stream.writeAll m.host m.outgoing
  { m.pastOpcode with
    descriptors := { m.descriptors.put slot (some { d with stream := reply.stream }) with
      host := Descriptors.noted "write" reply } }

theorem history_handedOver (m : Machine) (slot : Slot) (d : Descriptor) (id : StreamId) :
    (m.handedOver slot d).host.history id =
      (d.stream.writeAll m.host m.outgoing).host.history id :=
  (Descriptors.notes_noted "write" _).history id

namespace AsksWrite

theorem length_outgoing (h : AsksWrite table m slot d) :
    m.outgoing.length = (m.core.registers.get .rdx).toNat := by
  have readable := h.readable
  rw [outgoing, Memory.length_slice]
  omega

theorem step_eq (h : AsksWrite table m slot d) :
    (step table).run m =
      match (d.stream.writeAll m.host m.outgoing).result with
      | .error _ => (.error .hostFailure, m.handedOver slot d)
      | .ok _ => (.ok (), { m.handedOver slot d with
          core := { m.pastOpcode.core with
            registers := m.core.registers.set .rax (m.core.registers.get .rdx) } }) := by
  have found : m.pastOpcode.descriptors.find (m.pastOpcode.core.registers.get .rbx) =
      .ok (slot, d) := Descriptors.find_of_get? h.index h.opened
  have buffer : m.pastOpcode.core.memory.readBytes (m.pastOpcode.core.registers.get .rcx)
      (m.pastOpcode.core.registers.get .rdx).toNat = .ok m.outgoing := by
    have readable : m.pastOpcode.core.memory.readFault? (m.pastOpcode.core.registers.get .rcx)
        (m.pastOpcode.core.registers.get .rdx).toNat = none :=
      Memory.readFault?_eq_none.mpr h.readable
    rw [Memory.readBytes, readable]
    rfl
  have written : (Descriptors.writeTo slot d m.outgoing).run m.pastOpcode.descriptors =
      ((d.stream.writeAll m.host m.outgoing).result.mapError fun _ => .hostFailure,
        (m.handedOver slot d).descriptors) := Descriptors.run_settle "write" slot d _ _
  rw [run_step_syscall h.below h.opcode h.handler, Syscall.run_write_eq]
  simp only [found, buffer, written]
  cases (d.stream.writeAll m.host m.outgoing).result with
  | error e => rfl
  | ok _ => rfl

end AsksWrite

/-! ## How it ends -/

/-- The process goes on behind the call, with the length in RAX, and nothing was asked of a stream
but the calls `events` of its own. -/
structure Wrote (m : Machine) (d : Descriptor) (events : List StreamEvent) (next : Machine) :
    Prop where
  life : next.life = m.life
  core : next.core = { m.core with
    rip := m.core.rip + 1
    registers := m.core.registers.set .rax (m.core.registers.get .rdx) }
  history : ∀ id, next.host.history id =
    m.host.history id ++ if d.stream.id = id then events else []

/-- The process is over with RAX as it was. Nothing was offered to a stream but by the calls
`events`; streams were only closed after that. -/
structure WriteFailed (m : Machine) (d : Descriptor) (events : List StreamEvent) (next : Machine) :
    Prop where
  failed : next.life = ⟨false, false, some .hostFailure, 0⟩
  core : next.core = { m.core with rip := m.core.rip + 1 }
  closed : next.AllClosed
  history : ∀ id, ∃ closing : List StreamEvent,
    (∀ event ∈ closing, event = .drop ∨ ∃ result, event = .flush result) ∧
    next.host.history id =
      m.host.history id ++ (if d.stream.id = id then events else []) ++ closing

namespace AsksWrite

variable {events : List StreamEvent}

theorem tick_of_ok (h : AsksWrite table m slot d)
    (taken : (d.stream.writeAll m.host m.outgoing).result = .ok ())
    (grown : ∀ id, (d.stream.writeAll m.host m.outgoing).host.history id =
      m.host.history id ++ if d.stream.id = id then events else []) :
    ∃ next, m.tick table = (true, next) ∧ m.Wrote d events next := by
  have stepped := h.step_eq
  rw [taken] at stepped
  refine ⟨_, tick_of_step_ok h.running stepped, rfl, rfl, fun id => ?_⟩
  exact (m.history_handedOver slot d id).trans (grown id)

theorem tick_of_error (h : AsksWrite table m slot d) {e : HostError}
    (refused : (d.stream.writeAll m.host m.outgoing).result = .error e)
    (grown : ∀ id, (d.stream.writeAll m.host m.outgoing).host.history id =
      m.host.history id ++ if d.stream.id = id then events else []) :
    ∃ next, m.tick table = (false, next) ∧ m.WriteFailed d events next := by
  have stepped := h.step_eq
  rw [refused] at stepped
  have alive : (m.handedOver slot d).status = .running := h.running
  refine ⟨_, tick_of_step_error h.running stepped, ?_, core_terminate _,
    allClosed_terminate _ _, fun id => ?_⟩
  · rw [life_terminate, Life.stop_of_running (running_of_status alive)]
  · obtain ⟨closing, plain, closed⟩ := history_terminate .hostFailure (m.handedOver slot d) id
    refine ⟨closing, plain, ?_⟩
    rw [closed, history_handedOver, grown]

end AsksWrite

/-- Bytes that are handed to a stream are taken once and in order, in pieces of the stream's own
choosing: the pieces make up the front of the data, and all of it unless there is an error, which is
that of the last call. So a process that writes a buffer gets its length in RAX if the stream took
the buffer whole, and is ended by a failure of the host otherwise. -/
theorem bytes_delivered_once :
    (∀ (s : Stream) (h : Host) (data : Bytes), s.Measured →
      ∃ events, Stream.Delivers data events (s.writeAll h data).result ∧
        ∀ id, (s.writeAll h data).host.history id =
          h.history id ++ if s.id = id then events else []) ∧
    ∀ (table : SyscallTable) (m : Machine) (slot : Slot) (d : Descriptor),
      AsksWrite table m slot d → d.stream.Measured →
      m.outgoing.length = (m.core.registers.get .rdx).toNat ∧
      ∃ events next,
        Stream.Delivers m.outgoing events (d.stream.writeAll m.host m.outgoing).result ∧
        (allAccepted events = m.outgoing →
          m.tick table = (true, next) ∧ m.Wrote d events next) ∧
        (allAccepted events ≠ m.outgoing →
          m.tick table = (false, next) ∧ m.WriteFailed d events next) := by
  refine ⟨fun s h data measured => Stream.delivers_writeAll measured h data, ?_⟩
  intro table m slot d asks measured
  refine ⟨asks.length_outgoing, ?_⟩
  obtain ⟨events, delivers, grown⟩ := Stream.delivers_writeAll measured m.host m.outgoing
  cases answer : (d.stream.writeAll m.host m.outgoing).result with
  | ok _ =>
    obtain ⟨next, ticked, wrote⟩ := asks.tick_of_ok answer grown
    rw [answer] at delivers
    exact ⟨events, next, delivers, fun _ => ⟨ticked, wrote⟩,
      fun short => absurd (delivers.whole.mp rfl) short⟩
  | error e =>
    obtain ⟨next, ticked, failed⟩ := asks.tick_of_error answer grown
    rw [answer] at delivers
    exact ⟨events, next, delivers, fun all => absurd (delivers.whole.mpr all) nofun,
      fun _ => ⟨ticked, failed⟩⟩

/-- A descriptor of a device that takes two bytes at a time and `capacity` bytes in all. -/
def narrow (capacity : Nat) : Descriptor :=
  ⟨⟨7, .device (Script.device ⟨[], 2, capacity, false⟩)⟩, false⟩

theorem measured_narrow (capacity : Nat) : (narrow capacity).stream.Measured := by
  rintro device ⟨⟩ events data count - taken
  obtain rfl := Except.ok.inj taken
  exact Nat.min_le_left _ _

/-- With room for three bytes it is offered the rest twice more. -/
theorem writeAll_narrow_three :
    (narrow 3).stream.writeAll {} [65, 66, 67, 68, 69] = ⟨.error .writeZero, (narrow 3).stream,
      (((({} : Host).record 7 (.write [65, 66, 67, 68, 69] (.ok 2))).record 7
        (.write [67, 68, 69] (.ok 1))).record 7 (.write [68, 69] (.ok 0)))⟩ := by
  rw [Stream.writeAll]
  show Stream.writeAll _ _ [67, 68, 69] = _
  rw [Stream.writeAll]
  show Stream.writeAll _ _ [68, 69] = _
  rw [Stream.writeAll]
  rfl

/-- With room for five it takes everything, in three pieces. -/
theorem writeAll_narrow_five :
    ((narrow 5).stream.writeAll {} [65, 66, 67, 68, 69]).result = .ok () := by
  rw [Stream.writeAll]
  show (Stream.writeAll _ _ [67, 68, 69]).result = _
  rw [Stream.writeAll]
  show (Stream.writeAll _ _ [69]).result = _
  rw [Stream.writeAll]
  show (Stream.writeAll _ _ []).result = _
  rw [Stream.writeAll]

/-- A process of one system call that writes five bytes to the descriptor in `slot`. -/
def emitting (slot : Slot) (capacity : Nat) : Machine where
  core := { Core.blank with
    memory := ⟨#[Opcode.syscall.toByte, 65, 66, 67, 68, 69], 1, 6, 6⟩
    registers :=
      (((Registers.empty.set .rax 1).set .rbx (UInt64.ofNat slot.val)).set .rcx 1).set .rdx 5 }
  descriptors := (Descriptors.closed {}).put slot (some (narrow capacity))
  life := .started
  config := {}

theorem asksWrite_emitting (capacity : Nat) :
    AsksWrite SyscallTable.standard (emitting 4 capacity) 4 (narrow capacity) where
  running := rfl
  below := Nat.zero_lt_one
  opcode := rfl
  handler := rfl
  index := rfl
  opened := rfl
  readable := Nat.le_refl 6

theorem bytes_delivered_once_emitting :
    AsksWrite SyscallTable.standard (emitting 4 3) 4 (narrow 3) ∧ (narrow 3).stream.Measured ∧
    Stream.Delivers [65, 66, 67, 68, 69]
      [.write [65, 66, 67, 68, 69] (.ok 2), .write [67, 68, 69] (.ok 1), .write [68, 69] (.ok 0)]
      (.error .writeZero) ∧
    (∃ next, (emitting 4 3).tick SyscallTable.standard = (false, next) ∧
      next.life = ⟨false, false, some .hostFailure, 0⟩) ∧
    AsksWrite SyscallTable.standard (emitting 4 5) 4 (narrow 5) ∧ (narrow 5).stream.Measured ∧
    ∃ next, (emitting 4 5).tick SyscallTable.standard = (true, next) ∧
      next.core.registers.get .rax = 5 := by
  refine ⟨asksWrite_emitting 3, measured_narrow 3, ?_, ?_, asksWrite_emitting 5, measured_narrow 5,
    ?_⟩
  · obtain ⟨events, delivers, grown⟩ :=
      bytes_delivered_once.1 (narrow 3).stream {} [65, 66, 67, 68, 69] (measured_narrow 3)
    rw [writeAll_narrow_three] at delivers grown
    obtain rfl : _ = events := grown 7
    exact delivers
  · obtain ⟨-, events, next, delivers, -, failing⟩ := bytes_delivered_once.2
      SyscallTable.standard (emitting 4 3) 4 (narrow 3) (asksWrite_emitting 3) (measured_narrow 3)
    have answer : ((narrow 3).stream.writeAll (emitting 4 3).host (emitting 4 3).outgoing).result =
        .error .writeZero := congrArg Reply.result writeAll_narrow_three
    rw [answer] at delivers
    obtain ⟨ticked, failed⟩ := failing fun all => absurd (delivers.whole.mpr all) nofun
    exact ⟨next, ticked, failed.failed⟩
  · obtain ⟨-, events, next, delivers, wrote, -⟩ := bytes_delivered_once.2
      SyscallTable.standard (emitting 4 5) 4 (narrow 5) (asksWrite_emitting 5) (measured_narrow 5)
    have answer : ((narrow 5).stream.writeAll (emitting 4 5).host (emitting 4 5).outgoing).result =
        .ok () := writeAll_narrow_five
    obtain ⟨ticked, wrote⟩ := wrote (delivers.whole.mp answer)
    refine ⟨next, ticked, ?_⟩
    rw [wrote.core]
    rfl

end GuestMachine.Machine
