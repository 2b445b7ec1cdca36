import GuestMachine.Proofs.Core.Footprint
import GuestMachine.Proofs.Descriptors.Pipe
import GuestMachine.Proofs.Syscall

/-!
# What a step can do to the machine

A step is a sequence of changes to the core, the descriptors and the host, none of which touches
the life of the process or the configuration. Only the very end of a step can do more: a read
that found nothing suspends the process, and the exit call stops it.
-/

namespace GuestMachine.Machine

open Relation (ReflTransGen)
open Faulting (Observes Within)

/-- A single change that a step makes under the standard system calls. -/
inductive Change (m : Machine) : Machine → Prop
  | core (c : Core) (access : m.core.Access c) : Change m { m with core := c }
  /-- Bytes that were read are put into a buffer that was checked beforehand. -/
  | deliver (buffer : UInt64) (length : Nat) (data : Bytes)
      (writable : m.core.memory.writeFault? buffer length = none) :
      Change m { m with core := { m.core with memory := m.core.memory.patch buffer.toNat data } }
  | read (slot : Slot) (d : Descriptor) (count : Nat) (opened : m.descriptors.get? slot = some d) :
      Change m { m with
        descriptors := ((Descriptors.readFrom slot d count).run m.descriptors).2 }
  | write (slot : Slot) (d : Descriptor) (data : Bytes) (opened : m.descriptors.get? slot = some d) :
      Change m { m with
        descriptors := ((Descriptors.writeTo slot d data).run m.descriptors).2 }
  | seek (slot : Slot) (d : Descriptor) (target : SeekTarget)
      (opened : m.descriptors.get? slot = some d) :
      Change m { m with
        descriptors := ((Descriptors.seekOn slot d target).run m.descriptors).2 }
  | flush (slot : Slot) (d : Descriptor) (opened : m.descriptors.get? slot = some d) :
      Change m { m with descriptors := ((Descriptors.flushOn slot d).run m.descriptors).2 }
  | close (slot : Slot) : Change m { m with descriptors := m.descriptors.closeSlot slot }
  | install (slot : Slot) (file : OpenFile) (enabled : m.config.fsEnabled = true)
      (free : m.descriptors.firstFree? = some slot) :
      Change m { m with
        descriptors := ((Descriptors.install slot.val (.file file) false).run m.descriptors).2 }
  | files (files : FileSystem) (enabled : m.config.fsEnabled = true) :
      Change m (m.mapHost fun h => { h with files := files })
  | log (level : Level) (message : String) : Change m (m.log level message)

/-- A change that leaves every pipe as it was. -/
structure Quiet (m m' : Machine) : Prop where
  change : m.Change m'
  pipe : ∀ name, m'.host.pipe name = m.host.pipe name

/-- How a step can end, once all its changes are made: with the state they led to, whether it
completed or faulted, or with one of the two ways in which the process gives up control. -/
inductive Ending (m : Machine) : Except Fault Unit × Machine → Prop
  | plain (result : Except Fault Unit) : Ending m (result, m)
  /-- The last change was a read of an interactive descriptor that gave nothing. -/
  | suspended (slot : Slot) (d : Descriptor) (count : Nat) (t : Descriptors)
      (opened : t.get? slot = some d) (interactive : d.interactive = true) (asked : count ≠ 0)
      (empty : (Descriptors.readFrom slot d count).run t = (.ok [], m.descriptors)) :
      Ending m (.ok (), m.suspend)
  | exited (code : Int32) : Ending m (.ok (), m.exit code)

/-- From `m` the computation makes some changes and then ends. -/
def Finishes (x : Sys Unit) (m : Machine) : Prop :=
  ∃ last, ReflTransGen Change m last ∧ Ending last (x.run m)

theorem Finishes.of_within {x : Sys Unit} {m : Machine} (h : Within Change x m) : Finishes x m :=
  ⟨(x.run m).2, h, .plain (x.run m).1⟩

theorem Finishes.bind {α : Type} {x : Sys α} {f : α → Sys Unit} {m : Machine}
    (hx : Within Change x m) (hf : ∀ a m', x.run m = (.ok a, m') → Finishes (f a) m') :
    Finishes (x >>= f) m := by
  unfold Within at hx
  generalize outcome : x.run m = r at hx
  obtain ⟨result, m'⟩ := r
  cases result with
  | ok a =>
    obtain ⟨last, changes, ending⟩ := hf a m' outcome
    refine ⟨last, hx.trans changes, ?_⟩
    rw [Faulting.run_bind_ok outcome]
    exact ending
  | error fault =>
    refine ⟨m', hx, ?_⟩
    rw [Faulting.run_bind_error outcome]
    exact .plain _

theorem Finishes.bind_observes {α : Type} {x : Sys α} {f : α → Sys Unit} {m : Machine}
    (hx : Observes x) (hf : ∀ a, x.run m = (.ok a, m) → Finishes (f a) m) :
    Finishes (x >>= f) m := by
  refine .bind (.of_observes hx) fun a m' outcome => ?_
  have same := hx m
  rw [outcome] at same
  obtain rfl : m' = m := same
  exact hf a outcome

/-! ## Parts of the machine -/

variable {m : Machine}

theorem within_change {α : Type} {x : Sys α} (h : Within Quiet x m) : Within Change x m :=
  h.mono fun _ _ => Quiet.change

theorem within_onCore {α : Type} {x : Exec α} (h : Within Core.Access x m.core) :
    Within Quiet (onCore x) m := by
  unfold Within
  rw [run_onCore]
  have lifted : ∀ a b : Core, a.Access b →
      Quiet { m with core := a } { m with core := b } :=
    fun a b access => ⟨.core b access, fun _ => rfl⟩
  exact ReflTransGen.lift (fun c => { m with core := c }) lifted _ _ h

theorem within_onDescriptors {α : Type} {A : Machine → Machine → Prop} {x : Faulting Descriptors α}
    (h : A m { m with descriptors := (x.run m.descriptors).2 }) :
    Within A (onDescriptors x) m := .single h

theorem quiet_log (level : Level) (message : String) : m.Quiet (m.log level message) :=
  ⟨.log level message, fun name => Host.pipe_log _ level message name⟩

/-! ## System calls -/

theorem observes_requireFileSystem : Observes Syscall.requireFileSystem := .guard _

theorem within_answer (value : UInt64) : Within Quiet (Syscall.answer value) m :=
  within_onCore (.update (.registers _))

theorem enabled_of_requireFileSystem {m' : Machine}
    (h : Syscall.requireFileSystem.run m = (.ok (), m')) : m.config.fsEnabled = true := by
  rw [Syscall.run_requireFileSystem] at h
  cases enabled : m.config.fsEnabled with
  | true => rfl
  | false => simp [enabled] at h

theorem within_changeFiles {α : Type} {call : String}
    {f : FileSystem → Except HostError (α × FileSystem)} (enabled : m.config.fsEnabled = true) :
    Within Quiet (Syscall.changeFiles call f) m := by
  unfold Within
  cases outcome : f m.descriptors.host.files with
  | ok r =>
    rw [Syscall.run_changeFiles_ok outcome]
    exact .single ⟨.files r.2 enabled, fun _ => rfl⟩
  | error e =>
    rw [Syscall.run_changeFiles_error outcome]
    exact .single (quiet_log _ _)

/-- A change of the descriptor found under a number, or no change if none is found. -/
theorem within_onFound {α : Type} {x : Slot × Descriptor → Faulting Descriptors α}
    (index : UInt64)
    (h : ∀ slot d, m.descriptors.get? slot = some d →
      Quiet m { m with descriptors := ((x (slot, d)).run m.descriptors).2 }) :
    Within Quiet (onDescriptors (Faulting.query (fun t => t.find index) >>= x)) m :=
  Descriptors.run_found (P := fun t => ReflTransGen Quiet m { m with descriptors := t }) index
    .refl fun slot d opened => .single (h slot d opened)

theorem finishes_read : Finishes Syscall.read m := by
  unfold Syscall.read
  refine .bind_observes (.read _) fun index _ => ?_
  refine .bind_observes (.read _) fun buffer _ => ?_
  refine .bind_observes (.read _) fun length _ => ?_
  refine .bind_observes (.query _) fun found lookup => ?_
  obtain ⟨slot, d⟩ := found
  have opened := (Descriptors.find_eq_ok (congrArg Prod.fst lookup)).2
  refine .bind_observes (.guard _) fun _ checked => ?_
  have writable : m.core.memory.writeFault? buffer length.toNat = none := by
    rw [Faulting.run_guard] at checked
    cases fault : m.core.memory.writeFault? buffer length.toNat with
    | none => rfl
    | some _ => simp [fault] at checked
  refine .bind (within_onDescriptors (.read slot d _ opened)) fun data m' outcome => ?_
  rw [run_onDescriptors] at outcome
  obtain ⟨delivered, rfl⟩ := Prod.mk.inj outcome
  split
  · next waits =>
    simp only [Bool.and_eq_true, bne_iff_ne, List.isEmpty_iff] at waits
    obtain ⟨⟨rfl, asked⟩, interactive⟩ := waits
    refine ⟨_, .refl, ?_⟩
    have positive : length.toNat ≠ 0 := fun zero => asked (UInt64.toNat.inj zero)
    exact .suspended slot d _ m.descriptors opened interactive positive
      (Prod.ext delivered rfl)
  · refine .of_within (.bind ?_ fun _ _ _ => within_change (within_answer _))
    exact .single (.deliver buffer length.toNat data writable)

theorem within_write : Within Change Syscall.write m := by
  unfold Syscall.write
  refine .bind_observes (.read _) fun index _ => ?_
  refine .bind_observes (.read _) fun buffer _ => ?_
  refine .bind_observes (.read _) fun length _ => ?_
  refine .bind_observes (.query _) fun found lookup => ?_
  obtain ⟨slot, d⟩ := found
  have opened := (Descriptors.find_eq_ok (congrArg Prod.fst lookup)).2
  refine .bind_observes (.query _) fun data _ => ?_
  refine .bind (within_onDescriptors (.write slot d data opened)) fun _ _ _ => ?_
  exact within_change (within_answer length)

theorem within_openFile : Within Quiet Syscall.openFile m := by
  unfold Within
  rcases Syscall.openFile_cases m with ⟨fault, refused⟩ | ⟨message, failed⟩ |
    ⟨slot, file, files, message, enabled, free, done⟩
  · rw [refused]
  · rw [failed]
    exact .single (quiet_log _ _)
  · rw [done]
    have changed : ReflTransGen Quiet m (m.mapHost fun h => { h with files := files }) :=
      .single ⟨.files files enabled, fun _ => rfl⟩
    -- Only the files have changed, so the slot is still the lowest closed one.
    have installed := changed.tail
      ⟨.install slot file enabled free, fun name => Descriptors.pipe_install _ _ _ _ name⟩
    have logged := installed.tail (quiet_log .debug message)
    exact logged.tail ⟨.core _ (.registers _), fun _ => rfl⟩

theorem within_close : Within Quiet Syscall.close m := by
  unfold Syscall.close
  refine .bind_observes (.read _) fun index _ => ?_
  exact within_onFound index fun slot _ _ =>
    ⟨.close slot, fun name => Descriptors.pipe_closeSlot _ slot name⟩

theorem within_flush : Within Quiet Syscall.flush m := by
  unfold Syscall.flush
  refine .bind_observes (.read _) fun index _ => ?_
  exact within_onFound index fun slot d opened =>
    ⟨.flush slot d opened, fun name => Descriptors.pipe_flushOn slot d _ name⟩

theorem quiet_seek {slot : Slot} {d : Descriptor} (target : SeekTarget)
    (opened : m.descriptors.get? slot = some d) :
    m.Quiet { m with
      descriptors := ((Descriptors.seekOn slot d target).run m.descriptors).2 } :=
  ⟨.seek slot d target opened, fun name => Descriptors.pipe_seekOn slot d target _ name⟩

theorem within_seek : Within Quiet Syscall.seek m := by
  unfold Syscall.seek
  refine .bind_observes (.read _) fun index _ => ?_
  refine .bind_observes (.read _) fun offset _ => ?_
  refine .bind_observes (.read _) fun origin _ => ?_
  refine .bind_observes (.query _) fun found lookup => ?_
  obtain ⟨slot, d⟩ := found
  have opened := (Descriptors.find_eq_ok (congrArg Prod.fst lookup)).2
  refine .bind_observes (.query _) fun target _ => ?_
  refine .bind (within_onDescriptors (quiet_seek target opened)) fun position _ _ => ?_
  exact within_answer position

theorem within_tell : Within Quiet Syscall.tell m := by
  unfold Syscall.tell
  refine .bind_observes (.read _) fun index _ => ?_
  refine .bind (within_onFound index fun slot d opened => quiet_seek _ opened)
    fun position _ _ => ?_
  exact within_answer position

theorem within_move : Within Quiet Syscall.move m := by
  unfold Syscall.move
  refine .bind_observes observes_requireFileSystem fun _ granted => ?_
  have enabled := enabled_of_requireFileSystem granted
  refine .bind_observes (.read _) fun rbx _ => ?_
  refine .bind_observes (.query _) fun source _ => ?_
  refine .bind_observes (.read _) fun rcx _ => ?_
  refine .bind_observes (.query _) fun target _ => ?_
  exact within_changeFiles enabled

/-- The three calls that change the file system at one path. -/
theorem within_changePath {call : String}
    {f : String → FileSystem → Except HostError (Unit × FileSystem)} :
    Within Quiet (do
      Syscall.requireFileSystem
      let path ← Syscall.text (← Syscall.argument .rbx)
      Syscall.changeFiles call (f path)) m := by
  refine .bind_observes observes_requireFileSystem fun _ granted => ?_
  have enabled := enabled_of_requireFileSystem granted
  refine .bind_observes (.read _) fun rbx _ => ?_
  refine .bind_observes (.query _) fun path _ => ?_
  exact within_changeFiles enabled

theorem finishes_exit : Finishes Syscall.exit m := by
  unfold Syscall.exit
  refine .bind_observes (.read _) fun value _ => ?_
  exact ⟨m, .refl, .exited value.toUInt32.toInt32⟩

/-- Every standard call but read, write and exit leaves every pipe alone. -/
theorem quiet_handler {number : UInt64} {handler : Sys Unit}
    (h : SyscallTable.standard.get? number = some handler) :
    (number = 0 ∧ handler = Syscall.read) ∨ (number = 1 ∧ handler = Syscall.write) ∨
      handler = Syscall.exit ∨ ∀ m, Within Quiet handler m := by
  apply SyscallTable.standard_cases (motive := fun number handler =>
    (number = 0 ∧ handler = Syscall.read) ∨ (number = 1 ∧ handler = Syscall.write) ∨
      handler = Syscall.exit ∨ ∀ m, Within Quiet handler m) h
  case read => exact .inl ⟨rfl, rfl⟩
  case write => exact .inr (.inl ⟨rfl, rfl⟩)
  case openFile => exact .inr (.inr (.inr fun _ => within_openFile))
  case close => exact .inr (.inr (.inr fun _ => within_close))
  case flush => exact .inr (.inr (.inr fun _ => within_flush))
  case seek => exact .inr (.inr (.inr fun _ => within_seek))
  case tell => exact .inr (.inr (.inr fun _ => within_tell))
  case move => exact .inr (.inr (.inr fun _ => within_move))
  case remove | makeDirectory | removeDirectory =>
    exact .inr (.inr (.inr fun _ => within_changePath))
  case exit => exact .inr (.inr (.inl rfl))

/-- Each of the twelve standard calls makes its changes and then ends. -/
theorem finishes_handler {number : UInt64} {handler : Sys Unit}
    (h : SyscallTable.standard.get? number = some handler) : Finishes handler m := by
  rcases quiet_handler h with ⟨-, rfl⟩ | ⟨-, rfl⟩ | rfl | quiet
  · exact finishes_read
  · exact .of_within within_write
  · exact finishes_exit
  · exact .of_within (within_change (quiet m))

/-! ## Steps -/

theorem finishes_dispatch : Finishes (Syscall.dispatch SyscallTable.standard) m := by
  unfold Syscall.dispatch
  refine .bind_observes (.read _) fun number _ => ?_
  refine .bind_observes (.orFault _ _) fun handler found => ?_
  rw [Faulting.run_orFault] at found
  cases lookup : SyscallTable.standard.get? number with
  | none => simp [lookup] at found
  | some h =>
    obtain rfl : h = handler := by simpa [lookup] using found
    exact finishes_handler lookup

/-- A step makes changes and then ends. -/
theorem finishes_step (m : Machine) : Finishes (step SyscallTable.standard) m := by
  unfold step
  refine .bind_observes (.guard _) fun _ _ => ?_
  refine .bind_observes (.read _) fun decoded _ => ?_
  refine .bind (within_change (within_onCore (.update (.rip _)))) fun _ _ _ => ?_
  split
  · exact .of_within (.of_observes (.fail _))
  · exact finishes_dispatch
  · next op _ => exact .of_within (within_change (within_onCore (Exec.within_execute op _)))

/-! ## Ticks -/

section Keeps

variable {R : Machine → Machine → Prop}

theorem changes_keep (refl : ∀ m, R m m) (trans : ∀ a b c, R a b → R b c → R a c)
    (change : ∀ m m', m.Change m' → R m m') {m m' : Machine} (h : ReflTransGen Change m m') :
    R m m' := by
  induction h with
  | refl => exact refl m
  | tail _ last ih => exact trans _ _ _ ih (change _ _ last)

/-- Ending a process by a fault is a message, if it was alive, and a stop. -/
theorem terminate_keeps (trans : ∀ a b c, R a b → R b c → R a c)
    (change : ∀ m m', m.Change m' → R m m') (stop : ∀ m fault code, R m (m.stop fault code))
    (cause : Fault) (m : Machine) : R m (m.terminate cause) := by
  unfold terminate
  split
  · exact trans _ _ _ (change _ _ (.log _ _)) (stop _ _ _)
  · exact stop _ _ _

/-- What every change keeps, and suspending and stopping too, every tick keeps. -/
theorem tick_keeps (refl : ∀ m, R m m) (trans : ∀ a b c, R a b → R b c → R a c)
    (change : ∀ m m', m.Change m' → R m m') (suspend : ∀ m, R m m.suspend)
    (stop : ∀ m fault code, R m (m.stop fault code)) (m : Machine) :
    R m (m.tick SyscallTable.standard).2 := by
  by_cases running : m.status = .running
  · obtain ⟨last, changes, ending⟩ := finishes_step m
    have changed := changes_keep refl trans change changes
    rw [tick_of_running running]
    generalize (step SyscallTable.standard).run m = r at ending
    cases ending with
    | plain result =>
      cases result with
      | ok _ => exact changed
      | error fault =>
        exact trans _ _ _ changed (terminate_keeps trans change stop fault last)
    | suspended slot d count t opened interactive asked empty =>
      exact trans _ _ _ changed (suspend last)
    | exited code => exact trans _ _ _ changed (stop last _ _)
  · rw [tick_of_not_running running]
    exact refl m

end Keeps

end GuestMachine.Machine
