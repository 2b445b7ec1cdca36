import GuestMachine.Proofs.Host.Delivery
import GuestMachine.Proofs.Memory
import GuestMachine.Proofs.Syscall
import GuestMachine.Proofs.Width

/-!
# Calls on descriptors

Six system calls name a descriptor in RBX. Each of them checks its arguments in a fixed order
before it asks anything of a stream, and a call that does not pass leaves the machine as it was. A
call that passes asks the stream of its descriptor and no other, and the answer of that stream
decides what the call does.
-/

namespace GuestMachine

/-- The same reply, with its answer seen through a function. -/
def Reply.map {α β : Type} (f : α → β) (r : Reply α) : Reply β := ⟨r.result.map f, r.stream, r.host⟩

theorem Reply.map_eq_ok {α β : Type} {f : α → β} {r : Reply α} {b : β} :
    (r.map f).result = .ok b ↔ ∃ a, r.result = .ok a ∧ f a = b := by
  cases answer : r.result with
  | error e => simp [Reply.map, answer, Except.map]
  | ok a => simp [Reply.map, answer, Except.map]

/-- The system calls that name a descriptor in RBX. -/
inductive DescriptorCall where
  | read
  | write
  | close
  | flush
  | seek
  | tell
deriving DecidableEq

namespace DescriptorCall

def number : DescriptorCall → UInt64
  | read => 0
  | write => 1
  | close => 3
  | flush => 4
  | seek => 5
  | tell => 6

def handler : DescriptorCall → Sys Unit
  | read => Syscall.read
  | write => Syscall.write
  | close => Syscall.close
  | flush => Syscall.flush
  | seek => Syscall.seek
  | tell => Syscall.tell

/-! ## Refusals -/

/-- Why RCX and RDX cannot be the arguments of a call, if so. The end of a buffer is a number and
not a word, so a buffer that would wrap around is out of bounds. -/
def argumentFault? (call : DescriptorCall) (m : Machine) : Option Fault :=
  let rcx := m.core.registers.get .rcx
  let rdx := m.core.registers.get .rdx
  match call with
  | read =>
    if rcx.toNat < m.core.memory.readonlyBarrier then some .accessViolation
    else if m.core.memory.size < rcx.toNat + rdx.toNat then some .outOfBounds
    else none
  | write => if m.core.memory.size < rcx.toNat + rdx.toNat then some .outOfBounds else none
  | seek =>
    if 2 < rdx then some .undefinedBehavior
    else if rdx = 0 ∧ Width.qword.signed rcx < 0 then some .hostFailure
    else none
  | _ => none

/-- Why a call is refused, if it is: the descriptor counts before the other arguments. -/
def refusal? (call : DescriptorCall) (m : Machine) : Option Fault :=
  if h : (m.core.registers.get .rbx).toNat < 16 then
    if (m.descriptors.get? ⟨_, h⟩).isSome then call.argumentFault? m
    else some .descriptorNotInUse
  else some .outOfBounds

/-! ## What is asked of the stream -/

/-- Where a seek from one of the three origins leads. -/
def destination (offset origin : UInt64) : SeekTarget :=
  if origin = 0 then .start offset
  else if origin = 1 then .current offset.toInt64
  else .fromEnd offset.toInt64

/-- What a call asks of a stream. A positive answer is the bytes for the buffer and the result of
the call, if it has one. A close takes no notice of how its flush went. -/
def reply (call : DescriptorCall) (m : Machine) (s : Stream) : Reply (Bytes × Option UInt64) :=
  let rcx := m.core.registers.get .rcx
  let rdx := m.core.registers.get .rdx
  let host := m.descriptors.host
  match call with
  | read => (s.read host rdx.toNat).map fun data => (data, some (UInt64.ofNat data.length))
  | write => (s.writeAll host (m.core.memory.slice rcx.toNat rdx.toNat)).map fun _ =>
      ([], some rdx)
  | close => ⟨.ok ([], none), s, s.drop (s.flush host).host⟩
  | flush => (s.flush host).map fun _ => ([], none)
  | seek => (s.seek host (destination rcx rdx)).map fun position => ([], some position)
  | tell => (s.seek host (.current 0)).map fun position => ([], some position)

/-- The events by which a call asks a stream, with its answers. A write offers the buffer, and then
what is left of it each time, until nothing is left or nothing more is taken. -/
def Asks (call : DescriptorCall) (m : Machine) (s : Stream) (events : List StreamEvent) : Prop :=
  let rcx := m.core.registers.get .rcx
  let rdx := m.core.registers.get .rdx
  match call with
  | read => events = [.read (s.read m.host rdx.toNat).result]
  | write =>
    let buffer := m.core.memory.slice rcx.toNat rdx.toNat
    Stream.Offers buffer events (s.writeAll m.host buffer).result
  | close => events = [.flush (s.flush m.host).result, .drop]
  | flush => events = [.flush (s.flush m.host).result]
  | seek => events =
      [.seek (destination rcx rdx) (s.seek m.host (destination rcx rdx)).result]
  | tell => events = [.seek (.current 0) (s.seek m.host (.current 0)).result]

/-! ## What a call leaves -/

/-- The descriptors once the stream in a slot has answered. -/
def left (call : DescriptorCall) (m : Machine) (slot : Slot) (d : Descriptor) (host : Host) :
    Descriptors :=
  let held := if call = close then none
    else some { d with stream := (call.reply m d.stream).stream }
  { m.descriptors.put slot held with host := host }

/-- Tells whether a call waits for input: a read of something got nothing from an interactive
descriptor. -/
def waits (call : DescriptorCall) (m : Machine) (d : Descriptor) (data : Bytes) : Bool :=
  call = read && data.isEmpty && m.core.registers.get .rdx != 0 && d.interactive

/-- The machine with the answer to a call: bytes go to the buffer at RCX and the result to RAX. -/
def answered (m : Machine) (answer : Bytes × Option UInt64) : Machine :=
  { m with core := { m.core with
    memory := m.core.memory.patch (m.core.registers.get .rcx).toNat answer.1
    registers := match answer.2 with
      | none => m.core.registers
      | some value => m.core.registers.set .rax value } }

/-- What a call comes to by the answer of the stream, if `host` is the host it leaves. -/
def outcome (call : DescriptorCall) (m : Machine) (slot : Slot) (d : Descriptor) (host : Host) :
    Except Fault Unit × Machine :=
  let asked := { m with descriptors := call.left m slot d host }
  match (call.reply m d.stream).result with
  | .error _ => (.error .hostFailure, asked)
  | .ok answer =>
    (.ok (), if call.waits m d answer.1 then asked.suspend else answered asked answer)

/-! ## Running a call -/

variable {m : Machine}

/-- The number in RBX either finds its descriptor or is refused. -/
theorem find_cases (call : DescriptorCall) (m : Machine) :
    (∃ fault, call.refusal? m = some fault ∧
      m.descriptors.find (m.core.registers.get .rbx) = .error fault) ∨
    ∃ slot d, slot.val = (m.core.registers.get .rbx).toNat ∧ m.descriptors.get? slot = some d ∧
      call.refusal? m = call.argumentFault? m ∧
      m.descriptors.find (m.core.registers.get .rbx) = .ok (slot, d) := by
  unfold refusal?
  by_cases inside : (m.core.registers.get .rbx).toNat < 16
  · rw [dif_pos inside]
    cases opened : m.descriptors.get? ⟨_, inside⟩ with
    | none =>
      refine .inl ⟨_, rfl, ?_⟩
      simp [Descriptors.find, Descriptors.slot?, inside, opened]
    | some d => exact .inr ⟨_, d, rfl, opened, rfl, Descriptors.find_of_get? rfl opened⟩
  · rw [dif_neg inside]
    refine .inl ⟨_, rfl, ?_⟩
    simp [Descriptors.find, Descriptors.slot?, inside]

theorem seekTarget_eq (offset origin : UInt64) :
    Syscall.seekTarget offset origin =
      if 2 < origin then .error .undefinedBehavior
      else if origin = 0 ∧ Width.qword.signed offset < 0 then .error .hostFailure
      else .ok (destination offset origin) := by
  have sign : Width.qword.signed offset < 0 ↔ offset.toInt64 < 0 := by
    rw [Width.signed_qword, Int64.lt_iff_toInt_lt]
    rfl
  unfold Syscall.seekTarget
  split
  · by_cases negative : offset.toInt64 < 0
    · simp [sign, negative]
    · simp [sign, negative, destination]
  · rfl
  · rfl
  · next start current fromEnd =>
    rw [if_pos]
    grind

/-- The check that a read makes of its buffer. -/
theorem writeFault?_eq (m : Machine) :
    m.core.memory.writeFault? (m.core.registers.get .rcx) (m.core.registers.get .rdx).toNat =
      read.argumentFault? m := by
  simp only [Memory.writeFault?, Memory.readFault?, argumentFault?, ← Nat.not_lt, ite_not]

/-- The check that a write makes of its buffer. -/
theorem readFault?_eq (m : Machine) :
    m.core.memory.readFault? (m.core.registers.get .rcx) (m.core.registers.get .rdx).toNat =
      write.argumentFault? m := by
  simp only [Memory.readFault?, argumentFault?, ← Nat.not_lt, ite_not]

theorem run_handler_of_missing (call : DescriptorCall) {fault : Fault}
    (missing : m.descriptors.find (m.core.registers.get .rbx) = .error fault) :
    call.handler.run m = (.error fault, m) := by
  cases call with
  | read => simp only [handler, Syscall.run_read_eq, missing]
  | write => simp only [handler, Syscall.run_write_eq, missing]
  | close => simp only [handler, Syscall.run_close_eq, missing]
  | flush => simp only [handler, Syscall.run_flush_eq, missing]
  | seek => simp only [handler, Syscall.run_seek_eq, missing]
  | tell => simp only [handler, Syscall.run_tell_eq, missing]

theorem run_handler_of_refused (call : DescriptorCall) {slot : Slot} {d : Descriptor}
    {fault : Fault}
    (found : m.descriptors.find (m.core.registers.get .rbx) = .ok (slot, d))
    (refused : call.argumentFault? m = some fault) : call.handler.run m = (.error fault, m) := by
  cases call with
  | read => simp only [handler, Syscall.run_read_eq, found, writeFault?_eq, refused]
  | write =>
    simp only [handler, Syscall.run_write_eq, found, Memory.readBytes, readFault?_eq, refused]
  | seek =>
    have aimed : Syscall.seekTarget (m.core.registers.get .rcx) (m.core.registers.get .rdx) =
        .error fault := by
      rw [seekTarget_eq]
      simp only [argumentFault?] at refused
      grind
    simp only [handler, Syscall.run_seek_eq, found, aimed]
  | close => cases refused
  | flush => cases refused
  | tell => cases refused

/-- A call that settles a reply of the stream in its slot comes to what the reply says. -/
theorem outcome_of_settle {call : DescriptorCall} {slot : Slot} {d : Descriptor} {α : Type}
    (name : String) (r : Reply α) (view : α → Bytes × Option UInt64) (keeps : call ≠ close)
    (asks : call.reply m d.stream = r.map view)
    (refused : ∀ fault t, (Descriptors.settle name slot d r).run m.descriptors = (.error fault, t) →
      call.handler.run m = (.error fault, { m with descriptors := t }))
    (granted : ∀ a t, (Descriptors.settle name slot d r).run m.descriptors = (.ok a, t) →
      call.handler.run m = (.ok (),
        if call.waits m d (view a).1 then Machine.suspend { m with descriptors := t }
        else answered { m with descriptors := t } (view a))) :
    ∃ host, (call.reply m d.stream).host.Notes host ∧
      call.handler.run m = call.outcome m slot d host := by
  refine ⟨Descriptors.noted name r, ?_, ?_⟩
  · rw [asks]
    exact Descriptors.notes_noted name r
  · rw [outcome, left, if_neg keeps, asks]
    have settled := Descriptors.run_settle name slot d r m.descriptors
    cases answer : r.result with
    | error e =>
      rw [answer] at settled
      rw [refused _ _ settled]
      simp only [Reply.map, answer, Except.map]
    | ok a =>
      rw [answer] at settled
      rw [granted _ _ settled]
      simp only [Reply.map, answer, Except.map]

/-- A call that passes its checks does what the stream answers. -/
theorem run_handler_of_passed (call : DescriptorCall) {slot : Slot} {d : Descriptor}
    (found : m.descriptors.find (m.core.registers.get .rbx) = .ok (slot, d))
    (passed : call.argumentFault? m = none) :
    ∃ host, (call.reply m d.stream).host.Notes host ∧
      call.handler.run m = call.outcome m slot d host := by
  cases call with
  | read =>
    apply outcome_of_settle "read" _ _ (by decide) rfl
    all_goals
      intro result t settled
      simp only [handler, Syscall.run_read_eq, found, writeFault?_eq, passed,
        Descriptors.run_readFrom, settled]
    rfl
  | write =>
    apply outcome_of_settle "write" _ _ (by decide) rfl
    all_goals
      intro result t settled
      simp only [handler, Syscall.run_write_eq, found, Memory.readBytes, readFault?_eq, passed,
        Descriptors.run_writeTo, settled]
    rfl
  | close =>
    obtain ⟨host, notes, closed⟩ := Descriptors.closeSlot_eq (Descriptors.find_eq_ok found).2
    refine ⟨host, notes, ?_⟩
    simp only [handler, Syscall.run_close_eq, found, closed]
    rfl
  | flush =>
    apply outcome_of_settle "flush" _ _ (by decide) rfl
    all_goals
      intro result t settled
      simp only [handler, Syscall.run_flush_eq, found, Descriptors.run_flushOn, settled]
    rfl
  | seek =>
    have aimed : Syscall.seekTarget (m.core.registers.get .rcx) (m.core.registers.get .rdx) =
        .ok (destination (m.core.registers.get .rcx) (m.core.registers.get .rdx)) := by
      rw [seekTarget_eq]
      simp only [argumentFault?] at passed
      grind
    apply outcome_of_settle "seek" _ _ (by decide) rfl
    all_goals
      intro result t settled
      simp only [handler, Syscall.run_seek_eq, found, aimed, Descriptors.run_seekOn, settled]
    rfl
  | tell =>
    apply outcome_of_settle "seek" _ _ (by decide) rfl
    all_goals
      intro result t settled
      simp only [handler, Syscall.run_tell_eq, found, Descriptors.run_seekOn, settled]
    rfl

/-- What a call asks of a stream is all that is asked of any stream. -/
theorem history_reply (call : DescriptorCall) (m : Machine) (s : Stream) :
    ∃ events, call.Asks m s events ∧ ∀ id, (call.reply m s).host.history id =
      m.host.history id ++ if s.id = id then events else [] := by
  cases call with
  | read => exact ⟨_, rfl, s.history_read m.host _⟩
  | write =>
    obtain ⟨events, offers, -, grown⟩ := Stream.offers_writeAll s m.host _
    exact ⟨events, offers, grown⟩
  | close =>
    refine ⟨_, rfl, fun id => ?_⟩
    have flushed := s.history_flush m.host id
    have dropped : (close.reply m s).host = (s.flush m.host).host.record s.id .drop := rfl
    rw [dropped, Host.history_record, flushed]
    by_cases mine : s.id = id
    · simp [mine]
    · simp [mine]
  | flush => exact ⟨_, rfl, s.history_flush m.host⟩
  | seek => exact ⟨_, rfl, s.history_seek m.host _⟩
  | tell => exact ⟨_, rfl, s.history_seek m.host _⟩

/-- The bytes of an answer fit the buffer they are for. -/
theorem length_le_of_reply (call : DescriptorCall) {s : Stream} {data : Bytes}
    {result : Option UInt64} (given : (call.reply m s).result = .ok (data, result)) :
    data.length ≤ (m.core.registers.get .rdx).toNat := by
  cases call with
  | read =>
    obtain ⟨bytes, read, view⟩ := Reply.map_eq_ok.mp given
    cases view
    exact s.length_le_of_read _ read
  | close =>
    cases given
    exact Nat.zero_le _
  | write | flush | seek | tell =>
    obtain ⟨_, -, view⟩ := Reply.map_eq_ok.mp given
    cases view
    exact Nat.zero_le _

/-- A call on a descriptor is refused for the first thing wrong with it, the number of the
descriptor, the descriptor and the other arguments in turn, and then it leaves the machine as it
was. Any other call asks the stream of its descriptor, and no stream but that, for what the call is
named after. A stream that refuses is a failure of the host and leaves the core as it was, except
that a close does not mind how its flush went; an answer goes to the buffer and to RAX, unless the
call waits for input. Of the buffer a stream touches what it reports and no more, like every
`Device`. -/
theorem descriptor_calls_exact (call : DescriptorCall) (m : Machine) :
    SyscallTable.standard.get? call.number = some call.handler ∧
    match call.refusal? m with
    | some fault => call.handler.run m = (.error fault, m)
    | none => ∃ slot d host events,
        slot.val = (m.core.registers.get .rbx).toNat ∧
        m.descriptors.get? slot = some d ∧
        call.Asks m d.stream events ∧
        (∀ id, host.history id = m.host.history id ++ if d.stream.id = id then events else []) ∧
        (call.reply m d.stream).host.Notes host ∧
        (∀ data result, (call.reply m d.stream).result = .ok (data, result) →
          data.length ≤ (m.core.registers.get .rdx).toNat) ∧
        call.handler.run m = call.outcome m slot d host := by
  refine ⟨by cases call <;> rfl, ?_⟩
  rcases call.find_cases m with ⟨fault, refused, missing⟩ | ⟨slot, d, number, opened, rest, found⟩
  · simp only [refused]
    exact call.run_handler_of_missing missing
  · rw [rest]
    cases checked : call.argumentFault? m with
    | some fault => exact call.run_handler_of_refused found checked
    | none =>
      obtain ⟨host, notes, ran⟩ := call.run_handler_of_passed found checked
      obtain ⟨events, asks, grown⟩ := call.history_reply m d.stream
      refine ⟨slot, d, host, events, number, opened, asks, fun id => ?_, notes,
        fun _ _ => call.length_le_of_reply, ran⟩
      rw [notes.history, grown]

end DescriptorCall

end GuestMachine
