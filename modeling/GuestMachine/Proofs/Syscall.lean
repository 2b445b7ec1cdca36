import GuestMachine.Proofs.Descriptors
import GuestMachine.Proofs.Machine.Step

/-!
# What system calls do

What a call leaves, in terms of what the descriptor or the file system answers.
-/

namespace GuestMachine.Syscall

open Machine (onDescriptors)

variable {m : Machine}

theorem run_requireFileSystem (m : Machine) :
    requireFileSystem.run m =
      (if m.config.fsEnabled then .ok () else .error .fileSystemDisabled, m) := by
  unfold requireFileSystem
  rw [Faulting.run_guard]
  cases m.config.fsEnabled with
  | true => rfl
  | false => rfl

theorem run_changeFiles_ok {α : Type} {call : String} {a : α} {files : FileSystem}
    {f : FileSystem → Except HostError (α × FileSystem)}
    (h : f m.descriptors.host.files = .ok (a, files)) :
    (changeFiles call f).run m = (.ok a, m.mapHost fun h => { h with files := files }) := by
  simp only [changeFiles, Faulting.run, h]

theorem run_changeFiles_error {α : Type} {call : String} {e : HostError}
    {f : FileSystem → Except HostError (α × FileSystem)}
    (h : f m.descriptors.host.files = .error e) :
    (changeFiles call f).run m = (.error .hostFailure, m.log .debug
      ("syscall " ++ call ++ " failed on the host: " ++ e.message)) := by
  simp only [changeFiles, Faulting.run, h]

theorem run_descriptor (index : UInt64) (m : Machine) :
    (descriptor index).run m = (m.descriptors.find index, m) := rfl

/-- What a stream answers with a number is the result of the call. -/
theorem run_onDescriptors_answer (x : Faulting Descriptors UInt64) (m : Machine) :
    (onDescriptors x >>= answer).run m =
      match x.run m.descriptors with
      | (.error fault, t) => (.error fault, { m with descriptors := t })
      | (.ok value, t) => (.ok (), { m with
          core := { m.core with registers := m.core.registers.set .rax value }
          descriptors := t }) := by
  have answered := Machine.run_onDescriptors x m
  generalize x.run m.descriptors = reply at answered ⊢
  obtain ⟨result, t⟩ := reply
  cases result with
  | error fault => exact Faulting.run_bind_error answered
  | ok value =>
    rw [Faulting.run_bind_ok answered]
    rfl

/-- What a read leaves once its descriptor has answered: the process is suspended if an interactive
descriptor has nothing to give, and gets what it was given otherwise. -/
def received (m : Machine) (d : Descriptor) (data : Bytes) (t : Descriptors) : Machine :=
  if data.isEmpty && m.core.registers.get .rdx != 0 && d.interactive then
    Machine.suspend { m with descriptors := t }
  else { m with
    core := { m.core with
      memory := m.core.memory.patch (m.core.registers.get .rcx).toNat data
      registers := m.core.registers.set .rax (UInt64.ofNat data.length) }
    descriptors := t }

/-- A read faults on its descriptor, then on its buffer, and asks the descriptor only then. -/
theorem run_read_eq (m : Machine) :
    read.run m =
      match m.descriptors.find (m.core.registers.get .rbx) with
      | .error fault => (.error fault, m)
      | .ok (slot, d) =>
        match m.core.memory.writeFault? (m.core.registers.get .rcx)
          (m.core.registers.get .rdx).toNat with
        | some fault => (.error fault, m)
        | none =>
          match (Descriptors.readFrom slot d (m.core.registers.get .rdx).toNat).run
            m.descriptors with
          | (.error fault, t) => (.error fault, { m with descriptors := t })
          | (.ok data, t) => (.ok (), received m d data t) := by
  have looked := run_descriptor (m.core.registers.get .rbx) m
  have checked := Faulting.run_guard (fun now : Machine => now.core.memory.writeFault?
    (m.core.registers.get .rcx) (m.core.registers.get .rdx).toNat) m
  unfold read
  rw [Faulting.run_bind_ok (Machine.run_argument .rbx m),
    Faulting.run_bind_ok (Machine.run_argument .rcx m),
    Faulting.run_bind_ok (Machine.run_argument .rdx m)]
  cases found : m.descriptors.find (m.core.registers.get .rbx) with
  | error fault =>
    rw [found] at looked
    exact Faulting.run_bind_error looked
  | ok entry =>
    obtain ⟨slot, d⟩ := entry
    rw [found] at looked
    rw [Faulting.run_bind_ok looked]
    dsimp only
    cases fault : m.core.memory.writeFault? (m.core.registers.get .rcx)
        (m.core.registers.get .rdx).toNat with
    | some fault' =>
      rw [fault] at checked
      exact Faulting.run_bind_error checked
    | none =>
      rw [fault] at checked
      rw [Faulting.run_bind_ok checked]
      have answered := Machine.run_onDescriptors
        (Descriptors.readFrom slot d (m.core.registers.get .rdx).toNat) m
      dsimp only
      generalize (Descriptors.readFrom slot d (m.core.registers.get .rdx).toNat).run
        m.descriptors = reply at answered ⊢
      obtain ⟨result, t⟩ := reply
      cases result with
      | error refused => exact Faulting.run_bind_error answered
      | ok data =>
        rw [Faulting.run_bind_ok answered]
        dsimp only [received]
        split
        · rfl
        · rfl

/-- A write faults on its descriptor, then on its buffer, and hands the buffer on only then. -/
theorem run_write_eq (m : Machine) :
    write.run m =
      match m.descriptors.find (m.core.registers.get .rbx) with
      | .error fault => (.error fault, m)
      | .ok (slot, d) =>
        match m.core.memory.readBytes (m.core.registers.get .rcx)
          (m.core.registers.get .rdx).toNat with
        | .error fault => (.error fault, m)
        | .ok data =>
          match (Descriptors.writeTo slot d data).run m.descriptors with
          | (.error fault, t) => (.error fault, { m with descriptors := t })
          | (.ok _, t) => (.ok (), { m with
              core := { m.core with
                registers := m.core.registers.set .rax (m.core.registers.get .rdx) }
              descriptors := t }) := by
  have looked := run_descriptor (m.core.registers.get .rbx) m
  have checked := Faulting.run_query (fun now : Machine => now.core.memory.readBytes
    (m.core.registers.get .rcx) (m.core.registers.get .rdx).toNat) m
  unfold write
  rw [Faulting.run_bind_ok (Machine.run_argument .rbx m),
    Faulting.run_bind_ok (Machine.run_argument .rcx m),
    Faulting.run_bind_ok (Machine.run_argument .rdx m)]
  cases found : m.descriptors.find (m.core.registers.get .rbx) with
  | error fault =>
    rw [found] at looked
    exact Faulting.run_bind_error looked
  | ok entry =>
    obtain ⟨slot, d⟩ := entry
    rw [found] at looked
    rw [Faulting.run_bind_ok looked]
    dsimp only
    cases buffer : m.core.memory.readBytes (m.core.registers.get .rcx)
        (m.core.registers.get .rdx).toNat with
    | error fault =>
      rw [buffer] at checked
      exact Faulting.run_bind_error checked
    | ok data =>
      rw [buffer] at checked
      rw [Faulting.run_bind_ok checked]
      have answered := Machine.run_onDescriptors (Descriptors.writeTo slot d data) m
      dsimp only
      generalize (Descriptors.writeTo slot d data).run m.descriptors = reply at answered ⊢
      obtain ⟨result, t⟩ := reply
      cases result with
      | error refused => exact Faulting.run_bind_error answered
      | ok _ =>
        rw [Faulting.run_bind_ok answered]
        rfl

/-- A seek faults on its descriptor, then on its offset and origin, and asks the stream only
then. -/
theorem run_seek_eq (m : Machine) :
    seek.run m =
      match m.descriptors.find (m.core.registers.get .rbx) with
      | .error fault => (.error fault, m)
      | .ok (slot, d) =>
        match seekTarget (m.core.registers.get .rcx) (m.core.registers.get .rdx) with
        | .error fault => (.error fault, m)
        | .ok target =>
          match (Descriptors.seekOn slot d target).run m.descriptors with
          | (.error fault, t) => (.error fault, { m with descriptors := t })
          | (.ok position, t) => (.ok (), { m with
              core := { m.core with registers := m.core.registers.set .rax position }
              descriptors := t }) := by
  have looked := run_descriptor (m.core.registers.get .rbx) m
  have checked := Faulting.run_query (fun _ : Machine => seekTarget (m.core.registers.get .rcx)
    (m.core.registers.get .rdx)) m
  unfold seek
  rw [Faulting.run_bind_ok (Machine.run_argument .rbx m),
    Faulting.run_bind_ok (Machine.run_argument .rcx m),
    Faulting.run_bind_ok (Machine.run_argument .rdx m)]
  cases found : m.descriptors.find (m.core.registers.get .rbx) with
  | error fault =>
    rw [found] at looked
    exact Faulting.run_bind_error looked
  | ok entry =>
    obtain ⟨slot, d⟩ := entry
    rw [found] at looked
    rw [Faulting.run_bind_ok looked]
    dsimp only
    cases aimed : seekTarget (m.core.registers.get .rcx) (m.core.registers.get .rdx) with
    | error fault =>
      rw [aimed] at checked
      exact Faulting.run_bind_error checked
    | ok target =>
      rw [aimed] at checked
      rw [Faulting.run_bind_ok checked]
      exact run_onDescriptors_answer _ m

/-- The position of a stream is asked for once its descriptor is found. -/
theorem run_tell_eq (m : Machine) :
    tell.run m =
      match m.descriptors.find (m.core.registers.get .rbx) with
      | .error fault => (.error fault, m)
      | .ok (slot, d) =>
        match (Descriptors.seekOn slot d (.current 0)).run m.descriptors with
        | (.error fault, t) => (.error fault, { m with descriptors := t })
        | (.ok position, t) => (.ok (), { m with
            core := { m.core with registers := m.core.registers.set .rax position }
            descriptors := t }) := by
  unfold tell
  rw [Faulting.run_bind_ok (Machine.run_argument .rbx m), run_onDescriptors_answer,
    Descriptors.seek, Descriptors.run_query_find]
  cases m.descriptors.find (m.core.registers.get .rbx) <;> rfl

theorem run_flush_eq (m : Machine) :
    flush.run m =
      match m.descriptors.find (m.core.registers.get .rbx) with
      | .error fault => (.error fault, m)
      | .ok (slot, d) =>
        (((Descriptors.flushOn slot d).run m.descriptors).1,
          { m with descriptors := ((Descriptors.flushOn slot d).run m.descriptors).2 }) := by
  unfold flush
  rw [Faulting.run_bind_ok (Machine.run_argument .rbx m), Machine.run_onDescriptors,
    Descriptors.flush, Descriptors.run_query_find]
  cases m.descriptors.find (m.core.registers.get .rbx) <;> rfl

theorem run_close_eq (m : Machine) :
    close.run m =
      match m.descriptors.find (m.core.registers.get .rbx) with
      | .error fault => (.error fault, m)
      | .ok (slot, _) => (.ok (), { m with descriptors := m.descriptors.closeSlot slot }) := by
  unfold close
  rw [Faulting.run_bind_ok (Machine.run_argument .rbx m), Machine.run_onDescriptors,
    Descriptors.close, Descriptors.run_query_find]
  cases m.descriptors.find (m.core.registers.get .rbx) <;> rfl

/-- A read whose descriptor is open and whose buffer is writable suspends the process if an
interactive descriptor has nothing to give, and delivers what it was given otherwise. -/
theorem run_read {slot : Slot} {d : Descriptor} {data : Bytes} {t : Descriptors}
    (found : m.descriptors.find (m.core.registers.get .rbx) = .ok (slot, d))
    (writable : m.core.memory.writeFault? (m.core.registers.get .rcx)
      (m.core.registers.get .rdx).toNat = none)
    (given : (Descriptors.readFrom slot d (m.core.registers.get .rdx).toNat).run m.descriptors =
      (.ok data, t)) :
    read.run m = (.ok (),
      if data.isEmpty && m.core.registers.get .rdx != 0 && d.interactive then
        Machine.suspend { m with descriptors := t }
      else { m with
        core := { m.core with
          memory := m.core.memory.patch (m.core.registers.get .rcx).toNat data
          registers := m.core.registers.set .rax (UInt64.ofNat data.length) }
        descriptors := t }) := by
  simp only [run_read_eq, found, writable, given, received]

theorem descriptors_close (m : Machine) :
    (close.run m).2.descriptors =
      ((Descriptors.close (m.core.registers.get .rbx)).run m.descriptors).2 := by
  unfold close
  rw [Faulting.run_bind_ok (Machine.run_argument .rbx m), Machine.run_onDescriptors]

/-- The machine once a file was put into a slot, which is the result of the call. -/
def withFile (slot : Slot) (file : OpenFile) (message : String) (m : Machine) : Machine :=
  let installed := { m with descriptors :=
    ((Descriptors.install slot.val (.file file) false).run m.descriptors).2 }
  { installed.log .debug message with core := { m.core with
    registers := m.core.registers.set .rax (UInt64.ofNat slot.val) } }

theorem run_installFile (slot : Slot) (file : OpenFile) (message : String) (m : Machine) :
    (do
      onDescriptors (Descriptors.install slot.val (.file file) false)
      Faulting.update fun m => m.log .debug message
      answer (UInt64.ofNat slot.val) : Sys Unit).run m =
      (.ok (), withFile slot file message m) := by
  have installed : (onDescriptors (Descriptors.install slot.val (.file file) false)).run m =
      (.ok (), { m with descriptors :=
        ((Descriptors.install slot.val (.file file) false).run m.descriptors).2 }) := by
    refine Prod.ext ?_ rfl
    rw [Machine.run_onDescriptors, Descriptors.run_install]
  rw [Faulting.run_bind_ok installed]
  rfl

/-- Opening a file asks for the capability, a closed slot, the name and the file, in this order, and
puts the file into the lowest closed slot. -/
theorem run_openFile (m : Machine) :
    openFile.run m =
      if m.config.fsEnabled then
        match m.descriptors.firstFree? with
        | none => (.error .noFreeDescriptor, m)
        | some slot =>
          match m.core.memory.readText (m.core.registers.get .rbx) with
          | .error fault => (.error fault, m)
          | .ok name =>
            match m.host.files.openFile name (openOptions (m.core.registers.get .rcx)) with
            | .error e => (.error .hostFailure,
                m.log .debug ("syscall open failed on the host: " ++ e.message))
            | .ok (file, files) => (.ok (), withFile slot file
                ("opened " ++ name ++ " as fd " ++ toString slot.val)
                (m.mapHost fun h => { h with files := files }))
      else (.error .fileSystemDisabled, m) := by
  unfold openFile
  have required := run_requireFileSystem m
  cases enabled : m.config.fsEnabled with
  | false =>
    rw [enabled] at required
    exact Faulting.run_bind_error required
  | true =>
  rw [enabled] at required
  rw [Faulting.run_bind_ok required, Faulting.run_bind_ok (Machine.run_argument .rbx m),
    Faulting.run_bind_ok (Machine.run_argument .rcx m),
    Faulting.run_bind_ok (Faulting.run_read _ m), if_pos rfl]
  have chosen := Faulting.run_orFault (σ := Machine) .noFreeDescriptor m.descriptors.firstFree? m
  cases free : m.descriptors.firstFree? with
  | none =>
    rw [free] at chosen
    exact Faulting.run_bind_error chosen
  | some slot =>
  rw [free] at chosen
  rw [Faulting.run_bind_ok chosen]
  have read : (text (m.core.registers.get .rbx)).run m =
      (m.core.memory.readText (m.core.registers.get .rbx), m) := rfl
  dsimp only
  cases named : m.core.memory.readText (m.core.registers.get .rbx) with
  | error fault =>
    rw [named] at read
    exact Faulting.run_bind_error read
  | ok name =>
  rw [named] at read
  rw [Faulting.run_bind_ok read]
  dsimp only
  cases opened : m.host.files.openFile name (openOptions (m.core.registers.get .rcx)) with
  | error e => exact Faulting.run_bind_error (run_changeFiles_error opened)
  | ok r =>
    obtain ⟨file, files⟩ := r
    rw [Faulting.run_bind_ok (run_changeFiles_ok opened)]
    exact run_installFile slot file _ _

/-- Opening a file is refused before the file system is asked, fails there with a message, or puts
the file into the lowest closed slot. -/
theorem openFile_cases (m : Machine) :
    (∃ fault, openFile.run m = (.error fault, m)) ∨
    (∃ message, openFile.run m = (.error .hostFailure, m.log .debug message)) ∨
    ∃ slot file files message, m.config.fsEnabled = true ∧
      m.descriptors.firstFree? = some slot ∧
      openFile.run m = (.ok (), withFile slot file message
        (m.mapHost fun h => { h with files := files })) := by
  rw [run_openFile]
  split
  next enabled =>
    split
    · exact .inl ⟨_, rfl⟩
    next slot free =>
    split
    · exact .inl ⟨_, rfl⟩
    split
    · exact .inr (.inl ⟨_, rfl⟩)
    next file files _ => exact .inr (.inr ⟨slot, file, files, _, enabled, free, rfl⟩)
  · exact .inl ⟨_, rfl⟩

/-- A file is opened if there is the capability, a closed slot, a name and a file of that name that
opens, and only then. -/
theorem openFile_eq_ok_iff :
    (openFile.run m).1 = .ok () ↔
      m.config.fsEnabled = true ∧ (∃ slot, m.descriptors.firstFree? = some slot) ∧
        ∃ name, m.core.memory.readText (m.core.registers.get .rbx) = .ok name ∧
          ∃ opened, m.host.files.openFile name
            (openOptions (m.core.registers.get .rcx)) = .ok opened := by
  rw [run_openFile]
  cases enabled : m.config.fsEnabled with
  | false => simp
  | true =>
  cases free : m.descriptors.firstFree? with
  | none => simp
  | some slot =>
  cases named : m.core.memory.readText (m.core.registers.get .rbx) with
  | error fault => simp
  | ok name =>
  cases opens : m.host.files.openFile name (openOptions (m.core.registers.get .rcx)) with
  | error e => simp [opens]
  | ok opened => exact iff_of_true (by simp [opens]) ⟨rfl, ⟨slot, rfl⟩, name, rfl, opened, opens⟩

/-- A file that was opened is in the lowest closed slot, and no other slot has changed. -/
theorem slots_openFile_ok {opened : Machine} (h : openFile.run m = (.ok (), opened)) :
    ∃ (slot : Slot) (file : OpenFile), m.descriptors.firstFree? = some slot ∧
      opened.core.registers.get .rax = UInt64.ofNat slot.val ∧
      opened.descriptors.slots = m.descriptors.slots.set slot.val
        (.holding ⟨⟨m.host.streams, .file file⟩, false⟩) slot.isLt := by
  rcases openFile_cases m with ⟨fault, refused⟩ | ⟨message, failed⟩ |
    ⟨slot, file, files, message, -, free, done⟩
  · rw [refused] at h
    cases (Prod.mk.inj h).1
  · rw [failed] at h
    cases (Prod.mk.inj h).1
  · obtain rfl := (Prod.mk.inj (done.symm.trans h)).2
    refine ⟨slot, file, free, Registers.get_set_self _ _ _, ?_⟩
    exact Descriptors.slots_install
      (t := (m.mapHost fun h => { h with files := files }).descriptors) slot _ _

/-- A file that could not be opened leaves the slots and the streams as they were. -/
theorem slots_openFile_error {fault : Fault} {failed : Machine}
    (h : openFile.run m = (.error fault, failed)) :
    failed.descriptors.slots = m.descriptors.slots ∧
      failed.host.journal = m.host.journal ∧ failed.host.streams = m.host.streams := by
  rcases openFile_cases m with ⟨fault, refused⟩ | ⟨message, rejected⟩ |
    ⟨slot, file, files, message, -, -, done⟩
  · obtain rfl := (Prod.mk.inj (refused.symm.trans h)).2
    exact ⟨rfl, rfl, rfl⟩
  · obtain rfl := (Prod.mk.inj (rejected.symm.trans h)).2
    exact ⟨rfl, Host.journal_log _ _ _, Host.streams_log _ _ _⟩
  · rw [done] at h
    cases (Prod.mk.inj h).1

end GuestMachine.Syscall

namespace GuestMachine.SyscallTable

/-- What holds of each standard call under its number holds of every handler in the table. -/
theorem standard_cases {motive : UInt64 → Sys Unit → Prop}
    {number : UInt64} {handler : Sys Unit} (found : standard.get? number = some handler)
    (read : motive 0 Syscall.read) (write : motive 1 Syscall.write)
    (openFile : motive 2 Syscall.openFile) (close : motive 3 Syscall.close)
    (flush : motive 4 Syscall.flush) (seek : motive 5 Syscall.seek)
    (tell : motive 6 Syscall.tell) (move : motive 7 Syscall.move)
    (remove : motive 8 Syscall.remove) (makeDirectory : motive 9 Syscall.makeDirectory)
    (removeDirectory : motive 10 Syscall.removeDirectory) (exit : motive 11 Syscall.exit) :
    motive number handler := by
  have member := Table.mem_of_find found
  simp only [standard, List.mem_cons, Prod.mk.injEq, List.not_mem_nil, or_false] at member
  rcases member with ⟨rfl, rfl⟩ | ⟨rfl, rfl⟩ | ⟨rfl, rfl⟩ | ⟨rfl, rfl⟩ | ⟨rfl, rfl⟩ | ⟨rfl, rfl⟩ |
    ⟨rfl, rfl⟩ | ⟨rfl, rfl⟩ | ⟨rfl, rfl⟩ | ⟨rfl, rfl⟩ | ⟨rfl, rfl⟩ | ⟨rfl, rfl⟩
  all_goals assumption

end GuestMachine.SyscallTable
