import GuestMachine.Proofs.Lifecycle

/-!
# The file-system capability

Without the capability, and with no file behind any descriptor, a process cannot reach the file
system: no run of it changes a file or opens a descriptor. Each call that would is refused before
anything else about it is looked at.
-/

namespace GuestMachine

open Relation (ReflTransGen)

namespace Descriptors

/-- No file of the host is behind any descriptor. -/
def FileFree (t : Descriptors) : Prop :=
  ∀ slot d, t.get? slot = some d → d.stream.backend.isFile = false

/-- `t'` has come from `t` without a file: it holds none either, the file system is the same, and
what was closed still is. -/
structure Apart (t t' : Descriptors) : Prop where
  fileFree : t'.FileFree
  files : t'.host.files = t.host.files
  closed : ∀ slot, t.get? slot = none → t'.get? slot = none

namespace Apart

variable {t t' t'' : Descriptors}

theorem refl (free : t.FileFree) : t.Apart t := ⟨free, rfl, fun _ closed => closed⟩

theorem trans (first : t.Apart t') (second : t'.Apart t'') : t.Apart t'' where
  fileFree := second.fileFree
  files := second.files.trans first.files
  closed slot closed := second.closed slot (first.closed slot closed)

/-- A change of the host outside its file system. -/
theorem host (free : t.FileFree) {host : Host} (files : host.files = t.host.files) :
    t.Apart { t with host := host } := ⟨free, files, fun _ closed => closed⟩

theorem called {slot : Slot} {d : Descriptor} (free : t.FileFree) (opened : t.get? slot = some d)
    (h : t.Called slot d t') : t.Apart t' := by
  obtain ⟨stream, host, served, rfl⟩ := h
  obtain ⟨fileless, files⟩ := served.files (free slot d opened)
  refine ⟨?_, files, ?_⟩
  · intro other d' found
    have found : (t.put slot (some { d with stream := stream })).get? other = some d' := found
    rw [get?_put] at found
    split at found
    · cases found
      exact fileless
    · exact free other d' found
  · intro other closed
    show (t.put slot (some { d with stream := stream })).get? other = none
    have differ : slot ≠ other := by
      rintro rfl
      rw [opened] at closed
      cases closed
    rw [get?_put, if_neg differ]
    exact closed

theorem closeSlot (free : t.FileFree) (slot : Slot) : t.Apart (t.closeSlot slot) := by
  refine ⟨?_, files_closeSlot t slot, ?_⟩
  · intro other d found
    rw [get?_closeSlot] at found
    split at found
    · cases found
    · exact free other d found
  · intro other closed
    rw [get?_closeSlot, closed, ite_self]

theorem closeAll (free : t.FileFree) : t.Apart t.closeAll :=
  closeAll_keeps (R := fun t t' => t.FileFree → t.Apart t') (fun _ => refl)
    (fun _ _ _ first second free => (first free).trans (second (first free).fileFree))
    (fun _ slot free => closeSlot free slot) t free

end Apart

end Descriptors

namespace Machine

/-- The process has no way to the file system. -/
structure Shut (m : Machine) : Prop where
  disabled : m.config.fsEnabled = false
  fileFree : m.descriptors.FileFree

/-- `m'` has come from `m` without the file system. -/
structure Apart (m m' : Machine) : Prop where
  config : m'.config = m.config
  descriptors : m.descriptors.Apart m'.descriptors

namespace Apart

variable {m m' m'' : Machine}

theorem shut (h : m.Apart m') (shut : m.Shut) : m'.Shut where
  disabled := by rw [h.config]; exact shut.disabled
  fileFree := h.descriptors.fileFree

theorem refl (shut : m.Shut) : m.Apart m := ⟨rfl, .refl shut.fileFree⟩

theorem trans (first : m.Apart m') (second : m'.Apart m'') : m.Apart m'' :=
  ⟨second.config.trans first.config, first.descriptors.trans second.descriptors⟩

theorem chain (first : m.Shut → m.Apart m') (second : m'.Shut → m'.Apart m'') (shut : m.Shut) :
    m.Apart m'' := (first shut).trans (second ((first shut).shut shut))

end Apart

variable {m m' : Machine}

/-- The changes that would reach the file system need the capability. -/
theorem Change.apart (shut : m.Shut) (h : m.Change m') : m.Apart m' := by
  have free := shut.fileFree
  cases h with
  | core c access => exact ⟨rfl, .refl free⟩
  | deliver buffer length data writable => exact ⟨rfl, .refl free⟩
  | read slot d count opened => exact ⟨rfl, .called free opened (Descriptors.called_readFrom count)⟩
  | write slot d data opened => exact ⟨rfl, .called free opened (Descriptors.called_writeTo data)⟩
  | seek slot d target opened => exact ⟨rfl, .called free opened (Descriptors.called_seekOn target)⟩
  | flush slot d opened => exact ⟨rfl, .called free opened Descriptors.called_flushOn⟩
  | close slot => exact ⟨rfl, .closeSlot free slot⟩
  | install slot file enabled _ =>
    rw [shut.disabled] at enabled
    cases enabled
  | files files enabled =>
    rw [shut.disabled] at enabled
    cases enabled
  | log level message => exact ⟨rfl, .host free (Host.files_log _ _ _)⟩

theorem apart_stop (shut : m.Shut) (fault : Option Fault) (code : Int32) :
    m.Apart (m.stop fault code) := by
  constructor
  · simp only [stop]
  · rw [descriptors_stop]
    exact .closeAll shut.fileFree

theorem apart_tick (shut : m.Shut) : m.Apart (m.tick SyscallTable.standard).2 :=
  tick_keeps (R := fun m m' => m.Shut → m.Apart m') (fun _ => .refl) (fun _ _ _ => .chain)
    (fun _ _ change shut => change.apart shut) (fun _ shut => ⟨rfl, .refl shut.fileFree⟩)
    (fun _ fault code shut => apart_stop shut fault code) m shut

/-- The actions by which a process goes on, without any other help from the driver. -/
def Action.goesOn : Action → Bool
  | .tick | .run _ | .resume => true
  | _ => false

theorem apart_perform {a : Action} (onward : a.goesOn = true) (shut : m.Shut) :
    m.Apart (m.perform a) := by
  cases a with
  | tick => exact apart_tick shut
  | run fuel =>
    exact run_keeps (R := fun m m' => m.Shut → m.Apart m') (fun _ => .refl)
      (fun _ _ _ => .chain) (fun _ => apart_tick) fuel m shut
  | resume => exact ⟨rfl, .refl shut.fileFree⟩
  | _ => cases onward

theorem apart_performAll {actions : List Action} (onward : ∀ a ∈ actions, a.goesOn = true)
    (shut : m.Shut) : m.Apart (m.performAll actions) :=
  performAll_keeps (R := fun m m' => m.Shut → m.Apart m') (fun _ => .refl) (fun _ _ _ => .chain)
    (fun a member _ => apart_perform (onward a member)) m shut

/-! ## Refused calls -/

/-- The calls that reach the file system. -/
def fileCalls : List (Sys Unit) :=
  [Syscall.openFile, Syscall.move, Syscall.remove, Syscall.makeDirectory, Syscall.removeDirectory]

theorem run_fileCall {handler : Sys Unit} (member : handler ∈ fileCalls)
    (disabled : m.config.fsEnabled = false) :
    handler.run m = (.error .fileSystemDisabled, m) := by
  have refused := Syscall.run_requireFileSystem m
  rw [disabled] at refused
  simp only [fileCalls, List.mem_cons, List.not_mem_nil, or_false] at member
  rcases member with rfl | rfl | rfl | rfl | rfl
  · exact Faulting.run_bind_error refused
  · exact Faulting.run_bind_error refused
  · exact Faulting.run_bind_error refused
  · exact Faulting.run_bind_error refused
  · exact Faulting.run_bind_error refused

/-- Without the capability and without a file behind a descriptor, no run of ticks and resumes
changes the file system or opens a closed slot. A tick that gets to one of the five calls that
reach the file system ends the process for the lack of the capability, whatever is in its registers
and its memory. -/
theorem fileSystem_out_of_reach (disabled : m.config.fsEnabled = false) :
    (m.descriptors.FileFree → ∀ before after : List Action,
      (∀ a ∈ before ++ after, a.goesOn = true) →
      let now := m.performAll before
      let later := now.performAll after
      later.host.files = m.host.files ∧
        ∀ slot, now.descriptors.get? slot = none → later.descriptors.get? slot = none) ∧
    (∀ handler ∈ fileCalls, m.status = .running →
      m.core.rip.toNat < m.core.memory.exeBarrier →
      m.core.memory.bytes[m.core.rip.toNat]? = some Opcode.syscall.toByte →
      SyscallTable.standard.get? (m.core.registers.get .rax) = some handler →
      ∃ stopped, m.tick SyscallTable.standard = (false, stopped) ∧
        stopped.status = .faulted .fileSystemDisabled) := by
  refine ⟨?_, ?_⟩
  · intro free before after onward now later
    have first : m.Apart now :=
      apart_performAll (fun a member => onward a (List.mem_append_left _ member)) ⟨disabled, free⟩
    have second : now.Apart later :=
      apart_performAll (fun a member => onward a (List.mem_append_right _ member))
        (first.shut ⟨disabled, free⟩)
    exact ⟨(first.trans second).descriptors.files, second.descriptors.closed⟩
  · intro handler member running below opcode number
    have refused : (step SyscallTable.standard).run m =
        (.error .fileSystemDisabled, m.pastOpcode) := by
      rw [run_step_syscall below opcode number]
      exact run_fileCall member disabled
    have alive : m.pastOpcode.status = .running := running
    exact ⟨_, tick_of_step_error running refused, status_terminate alive⟩

/-- A process about to make the directory named at address zero, with a pipe to read from. -/
def makingDirectory : Machine where
  core := { Core.blank with
    memory := ⟨#[Opcode.syscall.toByte], 1, 1, 1⟩
    registers := Registers.empty.set .rax 9 }
  descriptors := ((Descriptors.install 0 (.pipe "in") true).run (Descriptors.closed {})).2
  life := .started
  config := {}

theorem fileFree_makingDirectory : makingDirectory.descriptors.FileFree := by
  intro slot d found
  have placed := Descriptors.get?_install (t := Descriptors.closed {}) 0 slot (.pipe "in") true
  rw [Descriptors.get?_closed] at placed
  have found := placed.symm.trans found
  split at found
  · cases found
    rfl
  · cases found

/-- The name would not be readable, but the call does not get that far. -/
theorem fileSystem_out_of_reach_makingDirectory :
    (makingDirectory.performAll [.tick, .resume, .tick]).host.files =
        makingDirectory.host.files ∧
      ∃ stopped, makingDirectory.tick SyscallTable.standard = (false, stopped) ∧
        stopped.status = .faulted .fileSystemDisabled := by
  have shut : makingDirectory.config.fsEnabled = false := rfl
  have out := fileSystem_out_of_reach shut
  have unreached := out.1 fileFree_makingDirectory [.tick] [.resume, .tick] (by decide)
  refine ⟨unreached.1, ?_⟩
  exact out.2 Syscall.makeDirectory (by simp [fileCalls]) rfl (by decide) (by decide) rfl

end Machine

end GuestMachine
