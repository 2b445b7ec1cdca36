import GuestMachine.Proofs.Descriptors.Pipe
import GuestMachine.Proofs.Lifecycle

/-!
# What a process waits on

Nothing that a process does makes a descriptor interactive: the interactive ones that it has after
a tick it had before, in the same slots and with the same pipes behind them. A process that starts
to wait does so on one of them, and has emptied its pipe.
-/

namespace GuestMachine

/-! ## Interactive descriptors -/

namespace Descriptors

theorem run_setInteractive_ok {t : Descriptors} {index : UInt64} {slot : Slot} {d : Descriptor}
    (found : t.find index = .ok (slot, d)) (on : Bool) :
    (setInteractive index on).run t = (.ok (), t.put slot (some { d with interactive := on })) := by
  unfold setInteractive
  rw [run_of_find found, ← setSlot_setInteractive (find_eq_ok found).2]
  rfl

theorem run_setInteractive_error {t : Descriptors} {index : UInt64} {fault : Fault}
    (missing : t.find index = .error fault) (on : Bool) :
    (setInteractive index on).run t = (.error fault, t) := run_of_missing missing

/-- Every interactive descriptor of `t'` was interactive in `t`, in the same slot and with the same
pipe behind it. -/
def Inherits (t t' : Descriptors) : Prop :=
  ∀ slot d', t'.get? slot = some d' → d'.interactive = true →
    ∃ d, t.get? slot = some d ∧ d.interactive = true ∧
      d'.stream.backend.pipe? = d.stream.backend.pipe?

namespace Inherits

variable {t t' t'' : Descriptors}

theorem of_slots (same : t'.slots = t.slots) : t.Inherits t' := by
  intro slot d' opened interactive
  refine ⟨d', ?_, interactive, rfl⟩
  rw [← opened, get?, get?, slot_congr same]

theorem refl (t : Descriptors) : t.Inherits t := of_slots rfl

theorem trans (first : t.Inherits t') (second : t'.Inherits t'') : t.Inherits t'' := by
  intro slot d'' opened interactive
  obtain ⟨d', opened', interactive', pipe'⟩ := second slot d'' opened interactive
  obtain ⟨d, opened, interactive, pipe⟩ := first slot d' opened' interactive'
  exact ⟨d, opened, interactive, pipe'.trans pipe⟩

/-- Where a slot has changed, what it holds now may be no more interactive than before. -/
theorem put {slot : Slot} {held : Option Descriptor}
    (h : ∀ d', held = some d' → d'.interactive = true →
      ∃ d, t.get? slot = some d ∧ d.interactive = true ∧
        d'.stream.backend.pipe? = d.stream.backend.pipe?) :
    t.Inherits (t.put slot held) := by
  intro other d' opened interactive
  rw [get?_put] at opened
  by_cases here : slot = other
  · rw [if_pos here] at opened
    rw [← here]
    exact h d' opened interactive
  · rw [if_neg here] at opened
    exact ⟨d', opened, interactive, rfl⟩

theorem called {slot : Slot} {d : Descriptor} (opened : t.get? slot = some d)
    (called : t.Called slot d t') : t.Inherits t' := by
  obtain ⟨stream, host, served, rfl⟩ := called
  have held : t.Inherits (t.put slot (some { d with stream := stream })) := by
    refine put fun d' held interactive => ?_
    cases held
    exact ⟨d, opened, interactive, served.pipe⟩
  exact held.trans (of_slots rfl)

theorem closeSlot (t : Descriptors) (slot : Slot) : t.Inherits (t.closeSlot slot) := by
  intro other d' opened interactive
  rw [get?_closeSlot] at opened
  split at opened
  · cases opened
  · exact ⟨d', opened, interactive, rfl⟩

theorem closeAll (t : Descriptors) : t.Inherits t.closeAll :=
  closeAll_keeps refl (fun _ _ _ => trans) closeSlot t

theorem install (slot : Slot) (backend : Backend) :
    t.Inherits ((install slot.val backend false).run t).2 := by
  intro other d' opened interactive
  rw [get?_install] at opened
  split at opened
  · cases opened
    cases interactive
  · exact ⟨d', opened, interactive, rfl⟩

/-- The descriptor of a number is no longer interactive. -/
theorem quieten (index : UInt64) : t.Inherits ((setInteractive index false).run t).2 := by
  refine run_found index (refl t) fun slot d opened => ?_
  have muted : t.Inherits (t.setSlot slot ((t.slot slot).setInteractive false)) := by
    rw [setSlot_setInteractive opened]
    refine put fun d' held interactive => ?_
    cases held
    cases interactive
  exact muted

end Inherits

/-- No descriptor is interactive. -/
def Passive (t : Descriptors) : Prop := ∀ slot d, t.get? slot = some d → d.interactive = false

theorem Passive.of_inherits {t t' : Descriptors} (h : t.Passive) (inherits : t.Inherits t') :
    t'.Passive := by
  intro slot d' opened
  by_contra interactive
  obtain ⟨d, opened, interactive, -⟩ := inherits slot d' opened (by simpa using interactive)
  rw [h slot d opened] at interactive
  cases interactive

end Descriptors

namespace Machine

variable {m m' : Machine}

theorem Change.inherits (h : m.Change m') : m.descriptors.Inherits m'.descriptors := by
  cases h with
  | core | deliver => exact .refl _
  | read slot d count opened => exact .called opened (Descriptors.called_readFrom count)
  | write slot d data opened => exact .called opened (Descriptors.called_writeTo data)
  | seek slot d target opened => exact .called opened (Descriptors.called_seekOn target)
  | flush slot d opened => exact .called opened Descriptors.called_flushOn
  | close slot => exact .closeSlot _ slot
  | install slot file enabled free => exact .install slot _
  | files files enabled => exact .of_slots rfl
  | log level message => exact .of_slots rfl

/-- A process never makes a descriptor interactive. -/
theorem inherits_tick (m : Machine) :
    m.descriptors.Inherits (m.tick SyscallTable.standard).2.descriptors := by
  refine tick_keeps (R := fun m m' => m.descriptors.Inherits m'.descriptors) (fun _ => .refl _)
    (fun _ _ _ => .trans) (fun _ _ => Change.inherits) (fun _ => .refl _) (fun m fault code => ?_) m
  rw [descriptors_stop]
  exact .closeAll _

/-- The process waits on an interactive descriptor, and if there is a pipe behind it, the pipe is
empty. -/
def Waits (m : Machine) : Prop :=
  ∃ slot d, m.descriptors.get? slot = some d ∧ d.interactive = true ∧
    ∀ name, d.stream.backend.pipe? = some name → m.host.pipe name = []

/-- A read that gives nothing leaves a pipe empty. -/
theorem waits_of_readFrom {slot : Slot} {d : Descriptor} {count : Nat} {t : Descriptors}
    (interactive : d.interactive = true) (asked : count ≠ 0)
    (empty : (Descriptors.readFrom slot d count).run t = (.ok [], m.descriptors)) : m.Waits := by
  have called : t.Called slot d ((Descriptors.readFrom slot d count).run t).2 :=
    Descriptors.called_readFrom count
  have result : ∀ name, d.stream.backend.pipe? = some name →
      ((Descriptors.readFrom slot d count).run t).1 = .ok ((t.host.pipe name).take count) :=
    fun name pipe => Descriptors.result_readFrom pipe count
  have pipes := Descriptors.pipe_readFrom slot d count t
  rw [empty] at called result pipes
  obtain ⟨stream, host, served, left⟩ := called
  dsimp only at left
  refine ⟨slot, { d with stream := stream }, ?_, interactive, fun name pipe => ?_⟩
  · rw [left]
    exact (Descriptors.get?_put t slot slot _).trans (if_pos rfl)
  · have behind : d.stream.backend.pipe? = some name := served.pipe.symm.trans pipe
    have none : (t.host.pipe name).take count = [] := (Except.ok.inj (result name behind)).symm
    have nothing : t.host.pipe name = [] := (List.take_eq_nil_iff.mp none).resolve_left asked
    have after := pipes name
    rw [if_pos behind, nothing, List.drop_nil] at after
    exact after

theorem waits_of_tick (awake : m.life.suspended = false)
    (h : (m.tick SyscallTable.standard).2.life.suspended = true) :
    (m.tick SyscallTable.standard).2.Waits := by
  cases ready : m.life.ready with
  | true =>
    obtain ⟨last, changes, ending⟩ := finishes_step m
    have same : last.life.suspended = false := by rw [life_of_changes changes, awake]
    have stopped (fault : Option Fault) (code : Int32) :
        (last.life.stop fault code).suspended = false := by
      unfold Life.stop
      split
      · rfl
      · exact same
    rw [tick_of_running (ready_iff.mp ready)] at h ⊢
    generalize (step SyscallTable.standard).run m = outcome at ending h ⊢
    cases ending with
    | plain result =>
      cases result with
      | ok _ => exact absurd h (Bool.eq_false_iff.mp same)
      | error fault =>
        rw [conclude, life_terminate, stopped] at h
        cases h
    | suspended slot d count t opened interactive asked empty =>
      exact waits_of_readFrom (m := last.suspend) interactive asked empty
    | exited code =>
      rw [conclude, life_exit, stopped] at h
      cases h
  | false =>
    rw [tick_of_not_ready ready, awake] at h
    cases h

end Machine

end GuestMachine
