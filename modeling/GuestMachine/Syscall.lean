import GuestMachine.Machine

/-!
# System calls

The number of a call is in RAX, its arguments in RBX, RCX and RDX, its result goes to RAX.
Descriptors are checked before buffers and buffers before the host is asked. Calls that reach
the file system are refused first of all unless the machine has that capability.
-/

namespace GuestMachine

namespace Syscall

open Machine (onCore onDescriptors)

/-- The word in an argument register (`arg`). -/
def argument (r : Register) : Sys UInt64 := Faulting.read fun m => m.core.registers.get r

/-- Gives the result of a call. -/
def answer (value : UInt64) : Sys Unit := onCore (Exec.setRegister .rax value)

/-- The open descriptor of a number. -/
def descriptor (index : UInt64) : Sys (Slot × Descriptor) :=
  Faulting.query fun m => m.descriptors.find index

/-- Refuses to go on without the file-system capability (`require_fs`, §4.5). -/
def requireFileSystem : Sys Unit :=
  Faulting.guard fun m => if m.config.fsEnabled then none else some .fileSystemDisabled

def text (address : UInt64) : Sys String := Faulting.query fun m => m.core.memory.readText address

/-- Changes the file system; a refusal is noted in the log (`host_failure`, §B). -/
def changeFiles {α : Type} (call : String)
    (f : FileSystem → Except HostError (α × FileSystem)) : Sys α := fun m =>
  match f m.descriptors.host.files with
  | .ok (a, files) => (.ok a, m.mapHost fun h => { h with files := files })
  | .error e =>
    (.error .hostFailure,
      m.log .debug ("syscall " ++ call ++ " failed on the host: " ++ e.message))

/-- Reads from descriptor RBX into `[RCX, RCX + RDX)` (`sys_read`, §F). If an interactive descriptor
has nothing to give, the process is suspended on the call. -/
def read : Sys Unit := do
  let index ← argument .rbx
  let buffer ← argument .rcx
  let length ← argument .rdx
  let (slot, d) ← descriptor index
  Faulting.guard fun m => m.core.memory.writeFault? buffer length.toNat
  let data ← onDescriptors (Descriptors.readFrom slot d length.toNat)
  if data.isEmpty && length != 0 && d.interactive then Faulting.update Machine.suspend
  else
    onCore (Faulting.update fun c => { c with memory := c.memory.patch buffer.toNat data })
    answer (UInt64.ofNat data.length)

/-- Writes `[RCX, RCX + RDX)` to descriptor RBX (`sys_write`, §F). -/
def write : Sys Unit := do
  let index ← argument .rbx
  let buffer ← argument .rcx
  let length ← argument .rdx
  let (slot, d) ← descriptor index
  let data ← Faulting.query fun m => m.core.memory.readBytes buffer length.toNat
  onDescriptors (Descriptors.writeTo slot d data)
  answer length

/-- The ways to open a file that the bits of a word ask for. -/
def openOptions (flags : UInt64) : OpenOptions where
  read := flags &&& 1 != 0
  write := flags &&& 2 != 0
  append := flags &&& 4 != 0
  truncate := flags &&& 8 != 0
  create := flags &&& 16 != 0
  createNew := flags &&& 32 != 0

/-- Opens the file named at RBX in the ways of RCX; the result is the lowest closed slot
(`sys_open`, §F). -/
def openFile : Sys Unit := do
  requireFileSystem
  let path ← argument .rbx
  let flags ← argument .rcx
  let free ← Faulting.read fun m => m.descriptors.firstFree?
  let slot ← Faulting.orFault .noFreeDescriptor free
  let name ← text path
  let file ← changeFiles "open" fun files => files.openFile name (openOptions flags)
  onDescriptors (Descriptors.install slot.val (.file file) false)
  Faulting.update fun m =>
    m.log .debug ("opened " ++ name ++ " as fd " ++ toString slot.val)
  answer (UInt64.ofNat slot.val)

/-- Closes descriptor RBX (`sys_close`, §F). -/
def close : Sys Unit := do
  let index ← argument .rbx
  onDescriptors (Descriptors.close index)

/-- Flushes descriptor RBX (`sys_flush`, §F). -/
def flush : Sys Unit := do
  let index ← argument .rbx
  onDescriptors (Descriptors.flush index)

/-- Where an offset and an origin lead: from the start, the position or the end. -/
def seekTarget (offset origin : UInt64) : Except Fault SeekTarget :=
  match origin with
  | 0 => if offset.toInt64 < 0 then .error .hostFailure else .ok (.start offset)
  | 1 => .ok (.current offset.toInt64)
  | 2 => .ok (.fromEnd offset.toInt64)
  | _ => .error .undefinedBehavior

/-- Moves descriptor RBX by offset RCX from origin RDX; the result is the new position (`sys_seek`,
§F). -/
def seek : Sys Unit := do
  let index ← argument .rbx
  let offset ← argument .rcx
  let origin ← argument .rdx
  let (slot, d) ← descriptor index
  let target ← Faulting.query fun _ => seekTarget offset origin
  answer (← onDescriptors (Descriptors.seekOn slot d target))

/-- The position of descriptor RBX (`sys_tell`, §F). -/
def tell : Sys Unit := do
  let index ← argument .rbx
  answer (← onDescriptors (Descriptors.seek index (.current 0)))

/-- Renames the entry named at RBX to the name at RCX (`sys_move`, §F). -/
def move : Sys Unit := do
  requireFileSystem
  let source ← text (← argument .rbx)
  let target ← text (← argument .rcx)
  changeFiles "move" fun files => (files.rename source target).map ((), ·)

/-- Removes the file named at RBX (`sys_remove`, §F). -/
def remove : Sys Unit := do
  requireFileSystem
  let path ← text (← argument .rbx)
  changeFiles "remove" fun files => (files.removeFile path).map ((), ·)

/-- Makes the directory named at RBX (`sys_mkdir`, §F). -/
def makeDirectory : Sys Unit := do
  requireFileSystem
  let path ← text (← argument .rbx)
  changeFiles "mkdir" fun files => (files.createDirectory path).map ((), ·)

/-- Removes the empty directory named at RBX (`sys_rmdir`, §F). -/
def removeDirectory : Sys Unit := do
  requireFileSystem
  let path ← text (← argument .rbx)
  changeFiles "rmdir" fun files => (files.removeDirectory path).map ((), ·)

/-- Ends the process with the low half of RBX as its value (`sys_exit`, §F). -/
def exit : Sys Unit := do
  let value ← argument .rbx
  Faulting.update fun m => m.exit value.toUInt32.toInt32

end Syscall

/-- The handlers of system calls by number. -/
abbrev SyscallTable := Table UInt64 (Sys Unit)

namespace SyscallTable

/-- The table of §F (`standard`). -/
def standard : SyscallTable := ⟨[
  (0, Syscall.read),
  (1, Syscall.write),
  (2, Syscall.openFile),
  (3, Syscall.close),
  (4, Syscall.flush),
  (5, Syscall.seek),
  (6, Syscall.tell),
  (7, Syscall.move),
  (8, Syscall.remove),
  (9, Syscall.makeDirectory),
  (10, Syscall.removeDirectory),
  (11, Syscall.exit)]⟩

end SyscallTable

/-- Runs the handler of the call numbered in RAX (`op_syscall`, §4.3). -/
def Syscall.dispatch (table : SyscallTable) : Sys Unit := do
  let number ← Syscall.argument .rax
  let handler ← Faulting.orFault .unhandledSyscall (table.get? number)
  handler

end GuestMachine
