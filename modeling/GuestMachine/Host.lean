import GuestMachine.Host.FileSystem
import GuestMachine.Log
import GuestMachine.Text.Utf8

/-!
# The host

Everything a process can reach outside its own core: the file system, pipes that the host feeds
and drains, collected output, and a journal of what was asked of every stream. The host is a
value; each operation says which host it leaves.
-/

namespace GuestMachine

/-- The number of a stream, in the order in which streams were handed to descriptors. -/
abbrev StreamId := Nat

/-- What was asked of a stream, and what it answered. -/
inductive StreamEvent where
  | read (result : Except HostError Bytes)
  | write (offered : Bytes) (accepted : Except HostError Nat)
  | seek (target : SeekTarget) (result : Except HostError UInt64)
  | flush (result : Except HostError Unit)
  /-- The stream was let go of for good. -/
  | drop

/-- A place where output is collected. -/
inductive Output where
  | stdout
  | stderr
  | buffer (name : String)
deriving DecidableEq

structure Host where
  files : FileSystem := FileSystem.empty
  /-- The queued bytes of each pipe. -/
  pipes : Table String Bytes := Table.empty
  /-- All bytes written to each output. -/
  outputs : Table Output Bytes := Table.empty
  /-- What was asked of the streams, in order. -/
  journal : Array (StreamId × StreamEvent) := #[]
  /-- The number of streams handed to descriptors so far. -/
  streams : Nat := 0
  /-- Whether debug messages are written. -/
  verbose : Bool := false

namespace Host

def pipe (h : Host) (name : String) : Bytes := (h.pipes.get? name).getD []

/-- Replaces the bytes queued in a pipe. -/
def setPipe (h : Host) (name : String) (bytes : Bytes) : Host :=
  { h with pipes := h.pipes.insert name bytes }

/-- Appends bytes to a pipe, from the host's side. -/
def pushPipe (h : Host) (name : String) (bytes : Bytes) : Host :=
  h.setPipe name (h.pipe name ++ bytes)

/-- Removes everything queued in a pipe, from the host's side. -/
def takePipe (h : Host) (name : String) : Bytes × Host := (h.pipe name, h.setPipe name [])

def output (h : Host) (o : Output) : Bytes := (h.outputs.get? o).getD []

def emit (h : Host) (o : Output) (bytes : Bytes) : Host :=
  { h with outputs := h.outputs.insert o (h.output o ++ bytes) }

def print (h : Host) (o : Output) (text : String) : Host := h.emit o (Text.Utf8.encode text)

/-- Writes a message to the error output, if its level is enabled. -/
def log (h : Host) (level : Level) (message : String) : Host :=
  if level.enabled h.verbose then h.print .stderr (level.line message) else h

/-- Notes an event of a stream. -/
def record (h : Host) (id : StreamId) (event : StreamEvent) : Host :=
  { h with journal := h.journal.push (id, event) }

/-- What was asked of one stream, in order. -/
def history (h : Host) (id : StreamId) : List StreamEvent :=
  (h.journal.toList.filter fun e => e.1 == id).map Prod.snd

end Host

end GuestMachine
