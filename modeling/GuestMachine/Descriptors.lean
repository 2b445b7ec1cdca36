import GuestMachine.Fault
import GuestMachine.Host.Stream

/-!
# Descriptors

Sixteen slots, each closed or holding one stream. A stream leaves its slot in one way only: it
is flushed and then dropped, whether the guest closes the slot, another stream replaces it, or
the process ends.
-/

namespace GuestMachine

abbrev Slot := Fin 16

/-- An open descriptor. Reading nothing from an interactive one suspends the process. -/
structure Descriptor where
  stream : Stream
  interactive : Bool

/-- What a slot holds (`FileDescriptor`, §3): a stream while it is open, and the interactive flag,
which is there whether the slot is open or not. -/
structure SlotState where
  stream : Option Stream
  interactive : Bool

namespace SlotState

def free : SlotState := ⟨none, false⟩

/-- The slot with its stream taken out; the flag is reset even if there was no stream. -/
def close (_ : SlotState) : SlotState := ⟨none, false⟩

def setInteractive (on : Bool) (s : SlotState) : SlotState := { s with interactive := on }

/-- The open descriptor of a slot. -/
def descriptor? (s : SlotState) : Option Descriptor := s.stream.map fun stream =>
  ⟨stream, s.interactive⟩

/-- A slot with an open descriptor in it. -/
def holding (d : Descriptor) : SlotState := ⟨some d.stream, d.interactive⟩

end SlotState

/-- The descriptor slots (`FdTable`, §4.5), with the host behind them. -/
structure Descriptors where
  slots : Vector SlotState 16
  host : Host

namespace Descriptors

def closed (host : Host) : Descriptors := ⟨Vector.replicate 16 .free, host⟩

/-- What a slot holds, open or not. -/
def slot (t : Descriptors) (slot : Slot) : SlotState := t.slots[slot]

def setSlot (t : Descriptors) (slot : Slot) (s : SlotState) : Descriptors :=
  { t with slots := t.slots.set slot.val s slot.isLt }

def get? (t : Descriptors) (slot : Slot) : Option Descriptor := (t.slot slot).descriptor?

/-- Leaves an open descriptor in a slot, or none. -/
def put (t : Descriptors) (slot : Slot) : Option Descriptor → Descriptors
  | some d => t.setSlot slot (.holding d)
  | none => t.setSlot slot .free

/-- The slot of a number. -/
def slot? (index : UInt64) : Option Slot :=
  if h : index.toNat < 16 then some ⟨index.toNat, h⟩ else none

/-- The open descriptor of a number (`get_open`, §4.5). -/
def find (t : Descriptors) (index : UInt64) : Except Fault (Slot × Descriptor) :=
  match slot? index with
  | none => .error .outOfBounds
  | some slot =>
    match t.get? slot with
    | none => .error .descriptorNotInUse
    | some d => .ok (slot, d)

def openSlots (t : Descriptors) : List Slot := (List.finRange 16).filter fun s => (t.get? s).isSome

/-- The slots whose interactive flag is set. -/
def interactiveSlots (t : Descriptors) : List Slot :=
  (List.finRange 16).filter fun s => (t.slot s).interactive

/-- The lowest closed slot (`first_free`, §3). -/
def firstFree? (t : Descriptors) : Option Slot :=
  (List.finRange 16).find? fun s => (t.get? s).isNone

/-- Takes the answer to a call on the stream in a slot. A refusal is noted in the log and becomes a
failure of the host (`io_failure`, §B). -/
def settle {α : Type} (call : String) (slot : Slot) (d : Descriptor) (r : Reply α) :
    Faulting Descriptors α := fun t =>
  let t := { t.put slot (some { d with stream := r.stream }) with host := r.host }
  match r.result with
  | .ok a => (.ok a, t)
  | .error e =>
    (.error .hostFailure,
      { t with host := t.host.log .debug ("host " ++ call ++ " failed: " ++ e.message) })

/-- Reads at most `count` bytes from an open descriptor. -/
def readFrom (slot : Slot) (d : Descriptor) (count : Nat) : Faulting Descriptors Bytes := fun t =>
  settle "read" slot d (d.stream.read t.host count) t

/-- Writes all of `data` to an open descriptor. -/
def writeTo (slot : Slot) (d : Descriptor) (data : Bytes) : Faulting Descriptors Unit := fun t =>
  settle "write" slot d (d.stream.writeAll t.host data) t

def seekOn (slot : Slot) (d : Descriptor) (target : SeekTarget) :
    Faulting Descriptors UInt64 := fun t =>
  settle "seek" slot d (d.stream.seek t.host target) t

def flushOn (slot : Slot) (d : Descriptor) : Faulting Descriptors Unit := fun t =>
  settle "flush" slot d (d.stream.flush t.host) t

/-- Reads from the descriptor of a number. -/
def read (index : UInt64) (count : Nat) : Faulting Descriptors Bytes := do
  let (slot, d) ← Faulting.query fun t => t.find index
  readFrom slot d count

/-- Writes to the descriptor of a number. -/
def write (index : UInt64) (data : Bytes) : Faulting Descriptors Unit := do
  let (slot, d) ← Faulting.query fun t => t.find index
  writeTo slot d data

/-- Seeks on the descriptor of a number. -/
def seek (index : UInt64) (target : SeekTarget) : Faulting Descriptors UInt64 := do
  let (slot, d) ← Faulting.query fun t => t.find index
  seekOn slot d target

/-- Flushes the descriptor of a number. -/
def flush (index : UInt64) : Faulting Descriptors Unit := do
  let (slot, d) ← Faulting.query fun t => t.find index
  flushOn slot d

/-- Flushes and drops the stream of a slot, if there is one, and resets the flag in any case
(`close` of a descriptor, §4.5). A failing flush is noted in the log and changes nothing else. -/
def closeSlot (t : Descriptors) (slot : Slot) : Descriptors :=
  let closed := t.setSlot slot (t.slot slot).close
  match (t.slot slot).stream with
  | none => closed
  | some stream =>
    let r := stream.flush t.host
    let host := match r.result with
      | .ok _ => r.host
      | .error e => r.host.log .debug ("flush on close failed: " ++ e.message)
    { closed with host := r.stream.drop host }

/-- Closes every slot, the lowest first (`close_all`, §4.5). -/
def closeAll (t : Descriptors) : Descriptors := (List.finRange 16).foldl closeSlot t

/-- Closes the descriptor of a number (`close`, §4.5). -/
def close (index : UInt64) : Faulting Descriptors Unit := do
  let (slot, _) ← Faulting.query fun t => t.find index
  Faulting.update fun t => t.closeSlot slot

/-- Gives a stream its number. -/
def adopt (t : Descriptors) (backend : Backend) : Stream × Descriptors :=
  (⟨t.host.streams, backend⟩, { t with host := { t.host with streams := t.host.streams + 1 } })

/-- Puts a stream into a slot and closes what the slot held before (`install`, §G). A stream for a
slot that does not exist is dropped. -/
def install (index : Nat) (backend : Backend) (interactive : Bool) :
    Faulting Descriptors Unit := fun t =>
  let (stream, t) := t.adopt backend
  if h : index < 16 then
    (.ok (), (t.closeSlot ⟨index, h⟩).put ⟨index, h⟩ (some ⟨stream, interactive⟩))
  else (.error .outOfBounds, { t with host := stream.drop t.host })

/-- Makes an open descriptor interactive or not (`set_interactive`, §G). A closed slot is
refused. -/
def setInteractive (index : UInt64) (on : Bool) : Faulting Descriptors Unit := do
  let (slot, _) ← Faulting.query fun t => t.find index
  Faulting.update fun t => t.setSlot slot ((t.slot slot).setInteractive on)

end Descriptors

end GuestMachine
