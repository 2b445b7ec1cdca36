import GuestMachine.Core
import GuestMachine.Descriptors
import GuestMachine.Text.Numeral

/-!
# The machine

One process at a time: its core, its descriptors and the host behind them, and the state of its
life. A process stops once; the first reason to stop is the one that counts, and every stop
closes all descriptors.

In this and all other modules, §4.5 and the like are sections of the specification of the machine,
and a name in front of one, as in `stop` (§4.5), is that of the operation which is rendered.
-/

namespace GuestMachine

/-- Limits and capabilities the host gives a machine (`ProcessorConfig`, §D). -/
structure Config where
  /-- Whether the guest may open files and change the file system. -/
  fsEnabled : Bool := false
  /-- The largest address space, in bytes. -/
  maxMemory : UInt64 := 0xFFFFFFFF
  /-- The seed of uninitialised memory and registers. -/
  seed : UInt64 := 0
deriving DecidableEq

/-- The record of a process (§3, engine state): four fields side by side, which nothing in their
types keeps from contradicting each other. -/
structure Life where
  running : Bool
  /-- The process waits for input on an interactive descriptor. -/
  suspended : Bool
  /-- The fault that stopped the process. -/
  fault : Option Fault
  /-- The value the process exited with. -/
  exitCode : Int32
deriving DecidableEq

/-- What a record comes to. -/
inductive Status where
  | running
  /-- The process waits for input on an interactive descriptor. -/
  | suspended
  /-- The process has ended without a fault, or none has been started. -/
  | exited (code : Int32)
  | faulted (cause : Fault)
deriving DecidableEq

namespace Life

/-- No process has been started. -/
def idle : Life := ⟨false, false, none, 0⟩

/-- A process has just been started. -/
def started : Life := ⟨true, false, none, 0⟩

/-- Tells whether a tick has something to do: `Running` and not `SuspendedRead` (§4.3). -/
def ready (l : Life) : Bool := l.running && !l.suspended

/-- Puts the end of a process on record. The first stop is the one that counts (§4.5). -/
def stop (fault : Option Fault) (code : Int32) (l : Life) : Life :=
  if l.running then ⟨false, false, fault, code⟩ else l

def suspend (l : Life) : Life := { l with suspended := true }

def resume (l : Life) : Life := { l with suspended := false }

def status (l : Life) : Status :=
  if l.running then
    if l.suspended then .suspended else .running
  else
    match l.fault with
    | some cause => .faulted cause
    | none => .exited l.exitCode

end Life

namespace Status

/-- Tells whether a process has been started and has not stopped. -/
def alive : Status → Bool
  | running | suspended => true
  | _ => false

/-- The fault that stopped the process. -/
def fault? : Status → Option Fault
  | faulted cause => some cause
  | _ => none

/-- The value the process exited with, zero if it did not. -/
def exitCode : Status → Int32
  | exited code => code
  | _ => 0

end Status

structure Machine where
  core : Core
  descriptors : Descriptors
  life : Life
  config : Config

abbrev Sys := Faulting Machine

namespace Machine

/-- A machine without a process, with all descriptors closed. -/
def new (config : Config) (host : Host) : Machine :=
  ⟨Core.blank, Descriptors.closed host, .idle, config⟩

def status (m : Machine) : Status := m.life.status

def host (m : Machine) : Host := m.descriptors.host

def mapHost (f : Host → Host) (m : Machine) : Machine :=
  { m with descriptors := { m.descriptors with host := f m.descriptors.host } }

/-- Writes a message to the log of the host. -/
def log (level : Level) (message : String) (m : Machine) : Machine :=
  m.mapHost fun h => h.log level message

/-- Stops the process if it runs, and closes all descriptors in any case (`stop`, the common end of
`Terminate` and `Exit`, §4.5). -/
def stop (fault : Option Fault) (code : Int32) (m : Machine) : Machine :=
  { m with
    life := m.life.stop fault code
    descriptors := m.descriptors.closeAll }

/-- Stops the process with a fault (`terminate`, §4.5). -/
def terminate (cause : Fault) (m : Machine) : Machine :=
  let m :=
    if m.life.running then
      m.log .warn ("process terminated at rip " ++ Text.Numeral.hex m.core.rip ++ ": " ++
        cause.message)
    else m
  m.stop (some cause) 0

/-- Stops the process with an exit value (`exit`, §4.5). -/
def exit (code : Int32) (m : Machine) : Machine := m.stop none code

/-- Lets a suspended process go on (`resume_suspended_read`, §4.5). -/
def resume (m : Machine) : Machine := { m with life := m.life.resume }

/-- Steps back onto the one-byte system call and waits (`suspend_read`, §4.5). -/
def suspend (m : Machine) : Machine :=
  { m with core := { m.core with rip := m.core.rip - 1 }, life := m.life.suspend }

/-- Runs a computation on the core. -/
@[inline] def onCore {α : Type} (x : Exec α) : Sys α := fun ⟨core, descriptors, life, config⟩ =>
  let (result, core) := x core
  (result, ⟨core, descriptors, life, config⟩)

/-- Runs a computation on the descriptors. -/
@[inline] def onDescriptors {α : Type} (x : Faulting Descriptors α) : Sys α :=
  fun ⟨core, descriptors, life, config⟩ =>
    let (result, descriptors) := x descriptors
    (result, ⟨core, descriptors, life, config⟩)

end Machine

end GuestMachine
