import GuestMachine.Proofs.Machine.Action
import GuestMachine.Proofs.Machine.Change
import GuestMachine.Proofs.Machine.Step

/-!
# The life of a process

The record of a process is four fields that nothing in their types keeps apart. Over every history
of a machine they agree: `Life.Sound` is what each action keeps. A process comes to life by a start
and by nothing else, stops once, and closes its descriptors when it does. The first reason to stop
is the one that stays on record until the next start.
-/

namespace GuestMachine

open Relation (ReflTransGen)

namespace Life

variable {l l' : Life}

/-- The fields of a record agree: only a running process waits, a fault is on record of a stopped
process without an exit value, and an exit value other than zero of one that stopped without a
fault. -/
structure Sound (l : Life) : Prop where
  suspended : l.suspended = true → l.running = true
  fault : ∀ cause, l.fault = some cause → l.running = false ∧ l.exitCode = 0
  exitCode : l.exitCode ≠ 0 → l.running = false ∧ l.fault = none

namespace Sound

theorem idle : Life.idle.Sound := ⟨by decide, by simp [Life.idle], by simp [Life.idle]⟩

theorem started : Life.started.Sound := ⟨by decide, by simp [Life.started], by simp [Life.started]⟩

theorem of_running (h : l.Sound) (running : l.running = true) : l.fault = none ∧ l.exitCode = 0 := by
  refine ⟨Option.eq_none_iff_forall_ne_some.mpr fun cause faulted => ?_, ?_⟩
  · have stopped := (h.fault cause faulted).1
    rw [running] at stopped
    cases stopped
  · refine Classical.byContradiction fun given => ?_
    have stopped := (h.exitCode given).1
    rw [running] at stopped
    cases stopped

theorem suspended_of_stopped (h : l.Sound) (stopped : l.running = false) :
    l.suspended = false := by
  refine Bool.eq_false_iff.mpr fun waits => ?_
  rw [h.suspended waits] at stopped
  cases stopped

/-- A stop is for a fault or with a value, never both. -/
theorem stop (h : l.Sound) {fault : Option Fault} {code : Int32} (one : fault = none ∨ code = 0) :
    (l.stop fault code).Sound := by
  unfold Life.stop
  split
  · refine ⟨fun waits => waits, fun cause faulted => ⟨rfl, one.resolve_left ?_⟩, fun given => ?_⟩
    · intro none
      cases none.symm.trans faulted
    · exact ⟨rfl, one.resolve_right given⟩
  · exact h

theorem suspend (h : l.Sound) (running : l.running = true) : l.suspend.Sound :=
  ⟨fun _ => running, h.fault, h.exitCode⟩

theorem resume (h : l.Sound) : l.resume.Sound :=
  ⟨fun waits => absurd waits Bool.false_ne_true, h.fault, h.exitCode⟩

/-- Of a sound record nothing is lost in its status. -/
theorem eq_of_status_eq (h : l.Sound) (h' : l'.Sound) (same : l.status = l'.status) : l = l' := by
  obtain ⟨running, suspended, fault, code⟩ := l
  obtain ⟨running', suspended', fault', code'⟩ := l'
  cases running with
  | true =>
    obtain ⟨rfl, rfl⟩ := h.of_running rfl
    cases running' with
    | true =>
      obtain ⟨rfl, rfl⟩ := h'.of_running rfl
      cases suspended <;> cases suspended' <;> simp_all [Life.status]
    | false => cases suspended <;> cases fault' <;> simp [Life.status] at same
  | false =>
    obtain rfl := h.suspended_of_stopped rfl
    cases running' with
    | true => cases suspended' <;> cases fault <;> simp [Life.status] at same
    | false =>
      obtain rfl := h'.suspended_of_stopped rfl
      cases fault with
      | none => cases fault' <;> simp_all [Life.status]
      | some cause =>
        obtain rfl := (h.fault cause rfl).2
        cases fault' with
        | none => simp [Life.status] at same
        | some cause' =>
          obtain rfl := (h'.fault cause' rfl).2
          simpa [Life.status] using same

end Sound

theorem stop_of_stopped (stopped : l.running = false) (fault : Option Fault) (code : Int32) :
    l.stop fault code = l := by
  rw [stop, if_neg (Bool.eq_false_iff.mp stopped)]

theorem stop_of_running (running : l.running = true) (fault : Option Fault) (code : Int32) :
    l.stop fault code = ⟨false, false, fault, code⟩ := by
  rw [stop, if_pos running]

theorem ready_of_running (running : l.running = true) (awake : l.suspended = false) :
    l.ready = true := by
  rw [ready, running, awake]
  rfl

end Life

namespace Machine

variable {m m' : Machine}

/-- No descriptor is open. -/
def AllClosed (m : Machine) : Prop := ∀ slot, m.descriptors.get? slot = none

/-! ## Stopping -/

theorem life_stop (fault : Option Fault) (code : Int32) (m : Machine) :
    (m.stop fault code).life = m.life.stop fault code := by
  simp only [stop]

theorem descriptors_stop (fault : Option Fault) (code : Int32) (m : Machine) :
    (m.stop fault code).descriptors = m.descriptors.closeAll := by
  simp only [stop]

theorem allClosed_stop (fault : Option Fault) (code : Int32) (m : Machine) :
    (m.stop fault code).AllClosed := by
  intro slot
  rw [descriptors_stop]
  exact Descriptors.get?_closeAll m.descriptors slot

theorem life_log (level : Level) (message : String) (m : Machine) :
    (m.log level message).life = m.life := rfl

theorem life_terminate (cause : Fault) (m : Machine) :
    (m.terminate cause).life = m.life.stop (some cause) 0 := by
  unfold terminate
  split
  · rw [life_stop, life_log]
  · rw [life_stop]

theorem allClosed_terminate (cause : Fault) (m : Machine) : (m.terminate cause).AllClosed := by
  unfold terminate
  exact allClosed_stop _ _ _

theorem life_exit (code : Int32) (m : Machine) : (m.exit code).life = m.life.stop none code :=
  life_stop none code m

theorem status_terminate {cause : Fault} (running : m.status = .running) :
    (m.terminate cause).status = .faulted cause := by
  unfold status
  rw [life_terminate, Life.stop_of_running (running_of_status running)]
  rfl

/-! ## Steps and ticks -/

theorem Change.life (h : m.Change m') : m'.life = m.life := by
  cases h <;> rfl

theorem life_of_changes (h : ReflTransGen Change m m') : m'.life = m.life := by
  induction h with
  | refl => rfl
  | tail _ change ih => exact change.life.trans ih

/-- A step that faults leaves the record to the fault, which is what ends the process. -/
theorem life_step_error {fault : Fault}
    (h : (step SyscallTable.standard).run m = (.error fault, m')) : m'.life = m.life := by
  obtain ⟨last, changes, ending⟩ := finishes_step m
  rw [h] at ending
  cases ending with
  | plain result => exact life_of_changes changes

/-- A step that completes leaves the process running or waiting, or is the end of it. -/
theorem life_step_ok (h : (step SyscallTable.standard).run m = (.ok (), m')) :
    m'.life = m.life ∨ m'.life = m.life.suspend ∨
      (∃ code, m'.life = m.life.stop none code) ∧ m'.AllClosed := by
  obtain ⟨last, changes, ending⟩ := finishes_step m
  have same : last.life = m.life := life_of_changes changes
  rw [h] at ending
  cases ending with
  | plain result => exact .inl same
  | suspended slot d count t opened interactive asked empty =>
    exact .inr (.inl (congrArg Life.suspend same))
  | exited code =>
    refine .inr (.inr ⟨⟨code, ?_⟩, allClosed_stop _ _ _⟩)
    rw [life_exit, same]

/-- A tick of a running process that fails has ended it with a fault. -/
theorem tick_false (ready : m.life.ready = true)
    (h : m.tick SyscallTable.standard = (false, m')) :
    (∃ cause, m'.life = m.life.stop (some cause) 0) ∧ m'.AllClosed := by
  rw [tick_of_running (ready_iff.mp ready)] at h
  generalize outcome : (step SyscallTable.standard).run m = r at h
  obtain ⟨result, stepped⟩ := r
  cases result with
  | ok _ => cases h
  | error fault =>
    cases h
    refine ⟨⟨fault, ?_⟩, allClosed_terminate fault stepped⟩
    rw [life_terminate, life_step_error outcome]

theorem tick_true (ready : m.life.ready = true)
    (h : m.tick SyscallTable.standard = (true, m')) :
    m'.life = m.life ∨ m'.life = m.life.suspend ∨
      (∃ code, m'.life = m.life.stop none code) ∧ m'.AllClosed := by
  rw [tick_of_running (ready_iff.mp ready)] at h
  generalize outcome : (step SyscallTable.standard).run m = r at h
  obtain ⟨result, stepped⟩ := r
  cases result with
  | ok _ =>
    cases h
    exact life_step_ok outcome
  | error fault => cases h

/-! ## Sound records -/

/-- A step is made of a running process only, so what it suspends is running. -/
theorem sound_tick (sound : m.life.Sound) : (m.tick SyscallTable.standard).2.life.Sound := by
  cases ready : m.life.ready with
  | false =>
    rw [tick_of_not_ready ready]
    exact sound
  | true =>
    generalize ticked : m.tick SyscallTable.standard = r
    obtain ⟨completed, m'⟩ := r
    cases completed with
    | false =>
      obtain ⟨⟨cause, faulted⟩, -⟩ := tick_false ready ticked
      rw [faulted]
      exact sound.stop (.inr rfl)
    | true =>
      rcases tick_true ready ticked with same | waits | ⟨⟨code, exited⟩, -⟩
      · rw [same]
        exact sound
      · rw [waits]
        exact sound.suspend (Life.running_of_ready ready)
      · rw [exited]
        exact sound.stop (.inl rfl)

theorem sound_perform (a : Action) (sound : m.life.Sound) : (m.perform a).life.Sound := by
  cases a with
  | tick => exact sound_tick sound
  | run fuel =>
    exact run_keeps (R := fun m m' => m.life.Sound → m'.life.Sound) (fun _ sound => sound)
      (fun _ _ _ first second sound => second (first sound)) (fun _ => sound_tick) fuel m sound
  | resume => exact sound.resume
  | terminate cause =>
    rw [perform, life_terminate]
    exact sound.stop (.inr rfl)
  | exit code =>
    rw [perform, life_exit]
    exact sound.stop (.inl rfl)
  | core a => exact sound
  | descriptors a => exact sound

theorem sound_serve (r : Request) (sound : m.life.Sound) : (m.serve r).life.Sound := by
  cases r with
  | boot noise e args reserve =>
    rcases serve_boot_cases m noise e args reserve with
      ⟨-, refused⟩ | ⟨-, memory, registers, started⟩
    · rw [refused]
      exact sound
    · rw [started, life_booted]
      exact .started
  | action a => exact sound_perform a sound

theorem sound_serveAll (requests : List Request) (sound : m.life.Sound) :
    (m.serveAll requests).life.Sound :=
  serveAll_keeps (R := fun m m' => m.life.Sound → m'.life.Sound) (fun _ sound => sound)
    (fun _ _ _ first second sound => second (first sound)) (fun r _ => sound_serve r) requests m
    sound

/-! ## Stopped processes -/

/-- Nothing a driver does to a stopped process changes its record. -/
theorem life_perform_of_stopped (a : Action) (sound : m.life.Sound)
    (stopped : m.life.running = false) : (m.perform a).life = m.life := by
  have still {m : Machine} (stopped : m.life.running = false) :
      m.tick SyscallTable.standard = (false, m) :=
    tick_of_not_ready (by rw [Life.ready, stopped]; rfl)
  cases a with
  | tick => rw [perform, still stopped]
  | run fuel =>
    refine run_keeps (R := fun m m' => m.life.running = false → m'.life = m.life)
      (fun _ _ => rfl) (fun a b c first second stopped => ?_) (fun m stopped => ?_) fuel m stopped
    · rw [second (by rw [first stopped]; exact stopped), first stopped]
    · rw [still stopped]
  | resume =>
    have awake := sound.suspended_of_stopped stopped
    show { m.life with suspended := false } = m.life
    rw [← awake]
  | terminate cause => rw [perform, life_terminate, Life.stop_of_stopped stopped]
  | exit code => rw [perform, life_exit, Life.stop_of_stopped stopped]
  | core a => rfl
  | descriptors a => rfl

theorem life_serve_of_stopped {r : Request} (sound : m.life.Sound)
    (stopped : m.life.running = false) (refused : ¬m.Starts r) : (m.serve r).life = m.life := by
  cases r with
  | boot noise e args reserve =>
    rcases serve_boot_cases m noise e args reserve with ⟨-, same⟩ | ⟨starts, -⟩
    · rw [same]
    · exact absurd starts refused
  | action a => exact life_perform_of_stopped a sound stopped

/-- None of the requests starts a process at its turn. -/
def StartsNone (m : Machine) (requests : List Request) : Prop :=
  ∀ before r after, requests = before ++ r :: after → ¬(m.serveAll before).Starts r

theorem life_serveAll_of_stopped {requests : List Request} (sound : m.life.Sound)
    (stopped : m.life.running = false) (refused : m.StartsNone requests) :
    (m.serveAll requests).life = m.life := by
  induction requests generalizing m with
  | nil => rfl
  | cons r rest ih =>
    have first : (m.serve r).life = m.life :=
      life_serve_of_stopped sound stopped (refused [] r rest rfl)
    have later : ((m.serve r).serveAll rest).life = (m.serve r).life := by
      refine ih (sound_serve r sound) (by rw [first]; exact stopped) fun before s after split => ?_
      exact refused (r :: before) s after (by rw [split, List.cons_append])
    exact later.trans first

/-- Over every history of a machine: a suspended process is running, one with a fault on record is
stopped and has no exit value, one with an exit value other than zero is stopped without a fault.
Only a start that succeeds brings a process to life. A stopped process keeps its record until the
next start. A tick of a running process that fails has ended it with a fault and closed all
descriptors; one that completes leaves it running, or has ended it without a fault and closed all
descriptors. Any other tick does nothing. -/
theorem lifecycle_serveAll (config : Config) (host : Host) (history : List Request) :
    let m := (new config host).serveAll history
    ((m.life.suspended = true → m.life.running = true) ∧
      (∀ cause, m.life.fault = some cause → m.life.running = false ∧ m.life.exitCode = 0) ∧
      (m.life.exitCode ≠ 0 → m.life.running = false ∧ m.life.fault = none)) ∧
    (∀ r, m.life.running = false → (m.serve r).life.running = true → m.Starts r) ∧
    (∀ later, m.life.running = false → m.StartsNone later → (m.serveAll later).life = m.life) ∧
    (∀ m', m.life.running = true → m.life.suspended = false →
      m.tick SyscallTable.standard = (false, m') →
      m'.life.running = false ∧ m'.life.fault.isSome = true ∧ m'.AllClosed) ∧
    (∀ m', m.life.running = true → m.life.suspended = false →
      m.tick SyscallTable.standard = (true, m') →
      m'.life.running = true ∨
        m'.life.running = false ∧ m'.life.fault = none ∧ m'.AllClosed) ∧
    (m.life.running = false ∨ m.life.suspended = true →
      m.tick SyscallTable.standard = (false, m)) := by
  intro m
  have sound : m.life.Sound := sound_serveAll history Life.Sound.idle
  refine ⟨⟨sound.suspended, sound.fault, sound.exitCode⟩, ?_, ?_, ?_, ?_, ?_⟩
  · intro r stopped running
    refine Classical.byContradiction fun refused => ?_
    rw [life_serve_of_stopped sound stopped refused, stopped] at running
    cases running
  · intro later stopped refused
    exact life_serveAll_of_stopped sound stopped refused
  · intro m' running awake ticked
    obtain ⟨⟨cause, faulted⟩, closed⟩ :=
      tick_false (Life.ready_of_running running awake) ticked
    rw [faulted, Life.stop_of_running running]
    exact ⟨rfl, rfl, closed⟩
  · intro m' running awake ticked
    rcases tick_true (Life.ready_of_running running awake) ticked with
      same | waits | ⟨⟨code, exited⟩, closed⟩
    · rw [same]
      exact .inl running
    · rw [waits]
      exact .inl running
    · rw [exited, Life.stop_of_running running]
      exact .inr ⟨rfl, rfl, closed⟩
  · intro halted
    refine tick_of_not_ready ?_
    unfold Life.ready
    rcases halted with stopped | waits
    · rw [stopped, Bool.false_and]
    · rw [waits, Bool.not_true, Bool.and_false]

/-- Starts a single system call on noise that is all zeros. It reads from an interactive pipe that
is empty, and another descriptor is open. -/
def waiting : List Request := [
  .boot (fun _ size => ⟨Vector.replicate size 0, Core.blank.registers⟩)
    { text := [Opcode.syscall.toByte] } [] 16,
  .action (.descriptors (.install 0 (.pipe "in") true)),
  .action (.descriptors (.install 3 (.pipe "out") false)),
  .action (.core (.setRegister .rcx 8)),
  .action (.core (.setRegister .rdx 1)),
  .action .tick]

/-- Lets the call go on as one that exits with seven. -/
def exiting : List Request := waiting ++ [
  .action .resume,
  .action (.core (.setRegister .rax 11)),
  .action (.core (.setRegister .rbx 7))]

/-- Starts the call again, under a number that no handler has. -/
def failing : List Request := exiting ++ [
  .action .tick,
  .boot (fun _ size => ⟨Vector.replicate size 0, Core.blank.registers⟩)
    { text := [Opcode.syscall.toByte] } [] 16,
  .action (.descriptors (.install 3 (.pipe "out") false)),
  .action (.core (.setRegister .rax 99))]

/-- The read waits, and no tick changes that. The exit closes both descriptors, and neither a fault
nor another exit takes its place. The call that is started again faults and closes the descriptor
it was given. -/
theorem lifecycle_wait_exit_fault :
    let waits := (new {} {}).serveAll waiting
    let exits := (new {} {}).serveAll exiting
    let fails := (new {} {}).serveAll failing
    (waits.life = ⟨true, true, none, 0⟩ ∧ waits.tick SyscallTable.standard = (false, waits)) ∧
    (exits.life = ⟨true, false, none, 0⟩ ∧ exits.descriptors.openSlots = [0, 3] ∧
      ∃ exited, exits.tick SyscallTable.standard = (true, exited) ∧ exited.AllClosed ∧
        exited.life = ⟨false, false, none, 7⟩ ∧
        (exited.serveAll [.action (.terminate .abort), .action (.exit 3)]).life = exited.life) ∧
    fails.life = ⟨true, false, none, 0⟩ ∧ fails.descriptors.openSlots = [3] ∧
      ∃ failed, fails.tick SyscallTable.standard = (false, failed) ∧ failed.AllClosed ∧
        failed.life = ⟨false, false, some .unhandledSyscall, 0⟩ := by
  intro waits exits fails
  obtain ⟨-, -, -, -, -, halted⟩ := lifecycle_serveAll {} {} waiting
  obtain ⟨-, -, -, -, completes, -⟩ := lifecycle_serveAll {} {} exiting
  obtain ⟨-, -, keeps, -, -, -⟩ := lifecycle_serveAll {} {} (exiting ++ [.action .tick])
  obtain ⟨-, -, -, faults, -, -⟩ := lifecycle_serveAll {} {} failing
  have waited : waits.life = ⟨true, true, none, 0⟩ := by decide +kernel
  have running : exits.life = ⟨true, false, none, 0⟩ := by decide +kernel
  have again : fails.life = ⟨true, false, none, 0⟩ := by decide +kernel
  let exited := (exits.tick SyscallTable.standard).2
  let failed := (fails.tick SyscallTable.standard).2
  have exitTick : exits.tick SyscallTable.standard = (true, exited) :=
    Prod.ext (by decide +kernel) rfl
  have failTick : fails.tick SyscallTable.standard = (false, failed) :=
    Prod.ext (by decide +kernel) rfl
  have seven : exited.life = ⟨false, false, none, 7⟩ := by decide +kernel
  have unhandled : failed.life = ⟨false, false, some .unhandledSyscall, 0⟩ := by decide +kernel
  have same : (new {} {}).serveAll (exiting ++ [.action .tick]) = exited := by
    rw [serveAll, List.foldl_append]
    rfl
  rw [same] at keeps
  refine ⟨⟨waited, halted (.inr (by rw [waited]))⟩,
    ⟨running, by decide +kernel, exited, exitTick, ?_, seven, ?_⟩,
    again, by decide +kernel, failed, failTick, ?_, unhandled⟩
  · rcases completes exited (by rw [running]) (by rw [running]) exitTick with alive | ⟨-, -, closed⟩
    · rw [seven] at alive
      cases alive
    · exact closed
  · refine keeps _ (by rw [seven]) ?_
    rintro before r after split ⟨noise, e, args, reserve, rfl, -⟩
    have member : .boot noise e args reserve ∈
        ([.action (.terminate .abort), .action (.exit 3)] : List Request) := by
      rw [split]
      exact List.mem_append_right before List.mem_cons_self
    simp at member
  · exact (faults failed (by rw [again]) (by rw [again]) failTick).2.2

end Machine

end GuestMachine
