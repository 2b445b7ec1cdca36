import GuestMachine.Proofs.Host.Pipe
import GuestMachine.Proofs.Machine.Action
import GuestMachine.Proofs.Syscall

/-!
# Waiting for input

A process that reads an empty interactive pipe is suspended on its own call. The guest cannot
tell: it stays suspended in the same state however often it is ticked and resumed in vain, and
once bytes arrive it goes on as if they had been there from the start.
-/

namespace GuestMachine

/-- A read that gave nothing. -/
def StreamEvent.isIdleRead : StreamEvent → Bool
  | .read (.ok []) => true
  | _ => false

namespace Host

/-- The host with the reads of a stream that gave nothing struck from its journal. The journal is
the only place that tells how often a stream was asked in vain. -/
def forgetIdle (id : StreamId) (h : Host) : Host :=
  { h with journal := h.journal.filter fun e => !(e.1 == id && e.2.isIdleRead) }

theorem forgetIdle_record_idle (id : StreamId) (h : Host) :
    (h.record id (.read (.ok []))).forgetIdle id = h.forgetIdle id := by
  simp [forgetIdle, record, StreamEvent.isIdleRead]

theorem forgetIdle_record_read (id : StreamId) (h : Host) {data : Bytes} (given : data ≠ []) :
    (h.record id (.read (.ok data))).forgetIdle id =
      (h.forgetIdle id).record id (.read (.ok data)) := by
  have kept : (StreamEvent.read (.ok data)).isIdleRead = false := by
    cases data with
    | nil => exact absurd rfl given
    | cons b rest => rfl
  simp [forgetIdle, record, kept]

end Host

namespace Machine

variable {m : Machine} {slot : Slot} {d : Descriptor} {name : String}

/-- The process is about to read at least one byte from the pipe `name`, open and interactive in
`slot`, into a buffer that it may write. -/
structure AsksPipe (m : Machine) (slot : Slot) (d : Descriptor) (name : String) : Prop where
  running : m.status = .running
  below : m.core.rip.toNat < m.core.memory.exeBarrier
  opcode : m.core.memory.bytes[m.core.rip.toNat]? = some Opcode.syscall.toByte
  number : m.core.registers.get .rax = 0
  index : (m.core.registers.get .rbx).toNat = slot.val
  opened : m.descriptors.get? slot = some d
  interactive : d.interactive = true
  pipe : d.stream.backend = .pipe name
  asked : m.core.registers.get .rdx ≠ 0
  writable : m.core.memory.readonlyBarrier ≤ (m.core.registers.get .rcx).toNat ∧
    (m.core.registers.get .rcx).toNat + (m.core.registers.get .rdx).toNat ≤ m.core.memory.size

/-- The machine with its process suspended. -/
def suspended (m : Machine) : Machine := { m with life := m.life.suspend }

/-- How many bytes a read gets from a pipe that holds `data`. -/
def readCount (m : Machine) (data : Bytes) : Nat :=
  min (m.core.registers.get .rdx).toNat data.length

theorem length_take_readCount (m : Machine) (data : Bytes) :
    (data.take (m.readCount data)).length = m.readCount data :=
  List.length_take_of_le (Nat.min_le_right _ _)

/-- The machine after its process has read from a pipe that held `data`: the bytes are in the
buffer, their number is in RAX, and the pipe keeps the rest. -/
def delivered (id : StreamId) (name : String) (data : Bytes) (m : Machine) : Machine :=
  { m with
    core := { m.core with
      rip := m.core.rip + 1
      memory := m.core.memory.patch (m.core.registers.get .rcx).toNat
        (data.take (m.readCount data))
      registers := m.core.registers.set .rax (UInt64.ofNat (m.readCount data)) }
    descriptors := { m.descriptors with
      host := (m.host.setPipe name (data.drop (m.readCount data))).record id
        (.read (.ok (data.take (m.readCount data)))) } }

theorem toNat_rax_delivered (m : Machine) (id : StreamId) (name : String) (data : Bytes) :
    ((m.delivered id name data).core.registers.get .rax).toNat = m.readCount data := by
  have small : m.readCount data < UInt64.size :=
    Nat.lt_of_le_of_lt (Nat.min_le_left _ _) (UInt64.toNat_lt_size _)
  show ((m.core.registers.set .rax _).get .rax).toNat = _
  rw [Registers.get_set_self]
  exact UInt64.toNat_ofNat_of_lt small

/-- The machine with the vain reads of a stream forgotten. -/
def forgetIdle (id : StreamId) (m : Machine) : Machine := m.mapHost (Host.forgetIdle id)

namespace AsksPipe

/-- What the process is about to do does not depend on what the host holds. -/
theorem mapHost_iff (f : Host → Host) :
    (m.mapHost f).AsksPipe slot d name ↔ m.AsksPipe slot d name := by
  constructor <;>
    exact fun ⟨running, below, opcode, number, index, opened, interactive, pipe, asked, writable⟩ =>
      ⟨running, below, opcode, number, index, opened, interactive, pipe, asked, writable⟩

theorem step_eq (h : m.AsksPipe slot d name) :
    (step SyscallTable.standard).run m = Syscall.read.run m.pastOpcode := by
  refine run_step_syscall h.below h.opcode ?_
  rw [h.number]
  rfl

/-- Nothing queued: the process is suspended where it was. -/
theorem tick_empty (h : m.AsksPipe slot d name) (empty : m.host.pipe name = []) :
    m.tick SyscallTable.standard =
      (true, (m.mapHost fun host => host.record d.stream.id (.read (.ok []))).suspended) := by
  have found := Descriptors.find_of_get? h.index h.opened
  have given := Descriptors.run_readFrom_empty (m.core.registers.get .rdx).toNat h.opened h.pipe
    empty
  have read := Syscall.run_read (m := m.pastOpcode) found
    (Memory.writeFault?_eq_none.mpr h.writable) given
  refine tick_of_step_ok h.running ?_
  rw [h.step_eq, read, if_pos ?_]
  · have back : m.core.rip + 1 - 1 = m.core.rip := UInt64.add_sub_cancel _ _
    simp only [suspend, pastOpcode, back]
    rfl
  · have asked : m.pastOpcode.core.registers.get .rdx ≠ 0 := h.asked
    simp [asked, h.interactive]

/-- Something queued: the process gets it. -/
theorem tick_queued {data : Bytes} (h : m.AsksPipe slot d name) (queued : m.host.pipe name = data)
    (some : data ≠ []) :
    m.tick SyscallTable.standard = (true, m.delivered d.stream.id name data) := by
  have found := Descriptors.find_of_get? h.index h.opened
  have asked : (m.core.registers.get .rdx).toNat ≠ 0 :=
    fun zero => h.asked (UInt64.toNat_inj.mp zero)
  have given := Descriptors.run_readFrom_pipe h.opened h.pipe asked queued some
  have read := Syscall.run_read (m := m.pastOpcode) found
    (Memory.writeFault?_eq_none.mpr h.writable) given
  refine tick_of_step_ok h.running ?_
  rw [h.step_eq, read, if_neg ?_]
  · have length : (data.take (min (m.core.registers.get .rdx).toNat data.length)).length =
        m.readCount data := m.length_take_readCount data
    rw [length]
    rfl
  · simp [asked, some]

theorem slice_delivered (h : m.AsksPipe slot d name) (id : StreamId) (data : Bytes) :
    (m.delivered id name data).core.memory.slice (m.core.registers.get .rcx).toNat
        (m.readCount data) = data.take (m.readCount data) := by
  have length := m.length_take_readCount data
  have some : m.readCount data ≤ (m.core.registers.get .rdx).toNat := Nat.min_le_left _ _
  have fits : (m.core.registers.get .rcx).toNat + (data.take (m.readCount data)).length ≤
      m.core.memory.size := by
    have writable := h.writable.2
    omega
  have read := m.core.memory.slice_patch fits
  rw [length] at read
  exact read

end AsksPipe

/-! ## Schedules of the host -/

/-- What a host may do while nothing is queued: tick, or resume and tick. -/
inductive Round where
  | tick
  | retry

def Round.actions : Round → List Action
  | .tick => [.tick]
  | .retry => [.resume, .tick]

/-- The bytes `data` arrive in the pipe `name`. -/
def fed (name : String) (data : Bytes) (m : Machine) : Machine :=
  m.perform (.descriptors (.feed name data))

theorem resume_mapHost (f : Host → Host) : (m.mapHost f).resume = m.resume.mapHost f := rfl

theorem resume_suspended (running : m.status = .running) : m.suspended.resume = m := by
  have awake := Life.awake_of_ready (ready_iff.mpr running)
  show { m with life := { m.life with suspended := false } } = m
  rw [← awake]

theorem forgetIdle_delivered {data : Bytes} (id : StreamId) (name : String) (given : data ≠ [])
    (asked : m.core.registers.get .rdx ≠ 0) :
    (m.delivered id name data).forgetIdle id = (m.forgetIdle id).delivered id name data := by
  have some : data.take (m.readCount data) ≠ [] := by
    rw [readCount, ← List.take_eq_take_min, ne_eq, List.take_eq_nil_iff]
    exact fun none => none.elim (fun zero => asked (UInt64.toNat_inj.mp zero)) given
  unfold delivered forgetIdle mapHost
  simp only
  rw [Host.forgetIdle_record_read id _ some]
  rfl

/-- Bytes that arrive replace an empty queue, and what a read leaves replaces them. -/
theorem delivered_fed {data : Bytes} (id : StreamId) :
    (m.fed name data).delivered id name data = m.delivered id name data := by
  simp only [delivered, readCount, fed, perform, Descriptors.Action.apply, host, Host.pushPipe,
    Host.setPipe_setPipe]

theorem pipe_fed {data : Bytes} (empty : m.host.pipe name = []) :
    (m.fed name data).host.pipe name = data := by
  show (m.host.setPipe name (m.host.pipe name ++ data)).pipe name = data
  rw [Host.pipe_setPipe, empty, List.nil_append]

/-- `s` is `m`, suspended, but for reads of the stream that gave nothing. -/
def WaitsAs (id : StreamId) (m s : Machine) : Prop :=
  s.forgetIdle id = m.suspended.forgetIdle id

namespace WaitsAs

variable {s : Machine} {id : StreamId}

theorem waits (h : WaitsAs id m s) : s.life.suspended = true := by
  have same : (s.forgetIdle id).life = (m.suspended.forgetIdle id).life := by rw [h]
  exact congrArg Life.suspended same

theorem pipe (h : WaitsAs id m s) (name : String) : s.host.pipe name = m.host.pipe name := by
  have same : (s.forgetIdle id).host.pipe name = (m.suspended.forgetIdle id).host.pipe name := by
    rw [h]
  exact same

theorem resume (h : WaitsAs id m s) (running : m.status = .running) :
    s.resume.forgetIdle id = m.forgetIdle id := by
  have same : (s.forgetIdle id).resume = (m.suspended.forgetIdle id).resume := by rw [h]
  rw [forgetIdle, forgetIdle, resume_mapHost, resume_mapHost, resume_suspended running] at same
  exact same

theorem asks (h : WaitsAs id m s) (asks : m.AsksPipe slot d name) :
    s.resume.AsksPipe slot d name := by
  have forgotten : (m.forgetIdle id).AsksPipe slot d name := (AsksPipe.mapHost_iff _).mpr asks
  rw [← h.resume asks.running] at forgotten
  exact (AsksPipe.mapHost_iff _).mp forgotten

/-- A tick of the suspended machine does nothing; a retry finds nothing and suspends again. -/
theorem round (asks : m.AsksPipe slot d name) (empty : m.host.pipe name = [])
    (h : WaitsAs d.stream.id m s) (r : Round) :
    WaitsAs d.stream.id m (s.performAll r.actions) := by
  cases r with
  | tick =>
    have still : s.tick SyscallTable.standard = (false, s) :=
      tick_of_not_ready (Life.ready_of_suspended h.waits)
    show WaitsAs d.stream.id m (s.tick SyscallTable.standard).2
    rw [still]
    exact h
  | retry =>
    have again := (h.asks asks).tick_empty ((h.pipe name).trans empty)
    show WaitsAs d.stream.id m (s.resume.tick SyscallTable.standard).2
    rw [again]
    calc ((s.resume.mapHost fun host =>
          host.record d.stream.id (.read (.ok []))).suspended).forgetIdle d.stream.id
      _ = (s.resume.forgetIdle d.stream.id).suspended := by
        simp only [forgetIdle, mapHost, suspended, Host.forgetIdle_record_idle]
      _ = (m.forgetIdle d.stream.id).suspended := by rw [h.resume asks.running]

theorem rounds (asks : m.AsksPipe slot d name) (empty : m.host.pipe name = [])
    (h : WaitsAs d.stream.id m s) (rs : List Round) :
    WaitsAs d.stream.id m (s.performAll (rs.flatMap Round.actions)) := by
  induction rs generalizing s with
  | nil => exact h
  | cons r rest ih =>
    rw [List.flatMap_cons, performAll_append]
    exact ih (h.round asks empty r)

/-- Once bytes have arrived, the next tick leaves what it would have left in the first place. -/
theorem tick_fed {data : Bytes} (asks : m.AsksPipe slot d name) (empty : m.host.pipe name = [])
    (h : WaitsAs d.stream.id m s) (some : data ≠ []) :
    ∃ b, (s.fed name data).resume.tick SyscallTable.standard = (true, b) ∧
      b.forgetIdle d.stream.id = (m.delivered d.stream.id name data).forgetIdle d.stream.id := by
  have asks' : s.resume.AsksPipe slot d name := h.asks asks
  have fedAsks : (s.resume.fed name data).AsksPipe slot d name :=
    (AsksPipe.mapHost_iff fun host => host.pushPipe name data).mpr asks'
  have queued : (s.resume.fed name data).host.pipe name = data :=
    pipe_fed ((h.pipe name).trans empty)
  refine ⟨_, fedAsks.tick_queued queued some, ?_⟩
  rw [delivered_fed, forgetIdle_delivered _ _ some asks'.asked, h.resume asks.running,
    ← forgetIdle_delivered _ _ some asks.asked]

end WaitsAs

/-- A process that reads an empty interactive pipe is suspended in the state it was in, and any
number of ticks and retries leads back to that state. Once bytes arrive, however long it waited,
it gets what it would have got had they been there before it asked: as many as it asked for or as
there are. -/
theorem suspension_transparent (asks : m.AsksPipe slot d name) (empty : m.host.pipe name = []) :
    ∃ s, m.tick SyscallTable.standard = (true, s) ∧ WaitsAs d.stream.id m s ∧
      ∀ rounds : List Round,
        let waiting := s.performAll (rounds.flatMap Round.actions)
        WaitsAs d.stream.id m waiting ∧
        ∀ data, data ≠ [] →
          let count := min (m.core.registers.get .rdx).toNat data.length
          ∃ a b,
            (m.fed name data).tick SyscallTable.standard = (true, a) ∧
            (waiting.fed name data).resume.tick SyscallTable.standard = (true, b) ∧
            b.forgetIdle d.stream.id = a.forgetIdle d.stream.id ∧
            a.core.memory.slice (m.core.registers.get .rcx).toNat count = data.take count ∧
            (a.core.registers.get .rax).toNat = count ∧
            a.host.pipe name = data.drop count ∧
            a = { m with
              core := { m.core with
                rip := m.core.rip + 1
                memory := m.core.memory.patch (m.core.registers.get .rcx).toNat (data.take count)
                registers := m.core.registers.set .rax (UInt64.ofNat count) }
              descriptors := { m.descriptors with
                host := (m.host.setPipe name (data.drop count)).record d.stream.id
                  (.read (.ok (data.take count))) } } := by
  have first : WaitsAs d.stream.id m
      (m.mapHost fun host => host.record d.stream.id (.read (.ok []))).suspended := by
    simp only [WaitsAs, forgetIdle, mapHost, suspended, Host.forgetIdle_record_idle]
  refine ⟨_, asks.tick_empty empty, first, ?_⟩
  intro rounds waiting
  have waits : WaitsAs d.stream.id m waiting := first.rounds asks empty rounds
  refine ⟨waits, ?_⟩
  intro data some count
  have fedAsks : (m.fed name data).AsksPipe slot d name :=
    (AsksPipe.mapHost_iff fun host => host.pushPipe name data).mpr asks
  have early : (m.fed name data).tick SyscallTable.standard =
      (true, m.delivered d.stream.id name data) := by
    rw [fedAsks.tick_queued (pipe_fed empty) some, delivered_fed]
  obtain ⟨b, late, same⟩ := waits.tick_fed asks empty some
  exact ⟨_, b, early, late, same, asks.slice_delivered _ data,
    toNat_rax_delivered m _ name data, Host.pipe_setPipe _ _ _, rfl⟩

/-- A process of one system call that asks the interactive pipe `"keys"` in a slot for two
bytes. -/
def prompting (slot : Slot) : Machine where
  core := {
    memory := ⟨#[Opcode.syscall.toByte, 0, 0], 1, 1, 3⟩
    registers :=
      ((Registers.empty.set .rbx (UInt64.ofNat slot.val)).set .rcx 1).set .rdx 2
    rip := 0
    flags := Flags.initial
    fpu := Fpu.empty }
  descriptors := (Descriptors.closed {}).put slot (some ⟨⟨0, .pipe "keys"⟩, true⟩)
  life := .started
  config := {}

theorem suspension_transparent_prompting :
    (prompting 4).AsksPipe 4 ⟨⟨0, .pipe "keys"⟩, true⟩ "keys" ∧
      (prompting 4).host.pipe "keys" = [] ∧
      ∃ s a b, (prompting 4).tick SyscallTable.standard = (true, s) ∧
        ((prompting 4).fed "keys" [65, 66, 67]).tick SyscallTable.standard = (true, a) ∧
        ((s.performAll [.tick, .resume, .tick]).fed "keys" [65, 66, 67]).resume.tick
          SyscallTable.standard = (true, b) ∧
        b.forgetIdle 0 = a.forgetIdle 0 ∧ a.core.memory.slice 1 2 = [65, 66] ∧
        a.host.pipe "keys" = [67] := by
  have asks : (prompting 4).AsksPipe 4 ⟨⟨0, .pipe "keys"⟩, true⟩ "keys" := {
    running := rfl
    below := by decide
    opcode := rfl
    number := rfl
    index := rfl
    opened := rfl
    interactive := rfl
    pipe := rfl
    asked := by decide
    writable := by decide }
  obtain ⟨s, suspends, -, later⟩ := suspension_transparent asks rfl
  obtain ⟨a, b, early, late, same, stored, -, left, -⟩ :=
    (later [.tick, .retry]).2 [65, 66, 67] (by decide)
  exact ⟨asks, rfl, s, a, b, suspends, early, late, same, stored, left⟩

end Machine

end GuestMachine
