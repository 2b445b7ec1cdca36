import GuestMachine.Command.Launch
import GuestMachine.Proofs.Machine.Boot
import GuestMachine.Proofs.Machine.Waiting
import Mathlib.Logic.Function.Iterate

/-!
# Feeding a process its input

The driver runs a process until it waits, delivers the next chunks of its input or the end of it,
and goes on. As a process makes no descriptor interactive itself, the only one that can make it wait
is the input it was given, and it can do so once for each delivery and once for the end. What the
driver does is a sequence of single steps, each a tick or a reaction to a process that waits.
-/

namespace GuestMachine

/-! ## Sessions -/

namespace Launch

namespace Session

/-- One step of a session: the driver reacts to a process that waits, and ticks one that does
not. -/
def next (s : Session) : Session :=
  if s.machine.life.suspended then
    { s.deliver with machine := s.deliver.machine.resume }
  else
    { s with
      machine := (s.machine.tick SyscallTable.standard).2
      ticks := s.ticks + if (s.machine.tick SyscallTable.standard).1 then 1 else 0 }

/-- How often the process waits within the first `n` steps. -/
def waits : (n : Nat) → Session → Nat
  | 0, _ => 0
  | n + 1, s => (if s.machine.life.suspended then 1 else 0) + s.next.waits n

/-- The bytes in the input pipe after each reaction of the driver within the first `n` steps. -/
def arrivals : (n : Nat) → Session → Bytes
  | 0, _ => []
  | n + 1, s =>
    (if s.machine.life.suspended then s.next.machine.host.pipe inputPipe else []) ++
      s.next.arrivals n

variable {s s' s'' : Session}

theorem next_of_suspended (h : s.machine.life.suspended = true) :
    s.next = { s.deliver with machine := s.deliver.machine.resume } := if_pos h

theorem next_of_awake (h : s.machine.life.suspended = false) :
    s.next = { s with
      machine := (s.machine.tick SyscallTable.standard).2
      ticks := s.ticks + if (s.machine.tick SyscallTable.standard).1 then 1 else 0 } :=
  if_neg (Bool.eq_false_iff.mp h)

/-! ### Deliveries -/

theorem deliver_cons {batch : List Bytes} {rest : List (List Bytes)}
    (h : s.batches = batch :: rest) :
    s.deliver = { s with
      machine := s.machine.mapHost fun h => h.pushPipe inputPipe batch.flatten
      batches := rest } := by
  unfold deliver
  rw [h]

/-- The end of the input changes one descriptor, if it is still there, and leaves a message. -/
theorem deliver_nil (h : s.batches = []) :
    s.deliver.batches = [] ∧ s.deliver.machine.life = s.machine.life ∧
      s.deliver.machine.descriptors.slots =
        ((Descriptors.setInteractive 0 false).run s.machine.descriptors).2.slots ∧
      ∀ name, s.deliver.machine.host.pipe name = s.machine.host.pipe name := by
  let logged := s.machine.log .debug "stdin closed; delivering end of input"
  have pipes : ∀ name, logged.host.pipe name = s.machine.host.pipe name :=
    fun name => Host.pipe_log _ _ _ _
  have same : logged.descriptors.find 0 = s.machine.descriptors.find 0 := rfl
  cases lookup : s.machine.descriptors.find 0 with
  | ok found =>
    let muted := logged.descriptors.put found.1 (some { found.2 with interactive := false })
    have set : (Descriptors.setInteractive 0 false).run logged.descriptors = (.ok (), muted) :=
      Descriptors.run_setInteractive_ok (same.trans lookup) false
    have changed : Machine.onDescriptors (Descriptors.setInteractive 0 false) logged =
        (.ok (), { logged with descriptors := muted }) := by
      have run := Machine.run_onDescriptors (Descriptors.setInteractive 0 false) logged
      rw [set] at run
      exact run
    have delivered : s.deliver = { s with machine := { logged with descriptors := muted } } := by
      simp only [deliver, h]
      rw [changed]
    rw [delivered, Descriptors.run_setInteractive_ok lookup]
    exact ⟨h, rfl, rfl, pipes⟩
  | error fault =>
    let told := logged.log .debug ("stdin descriptor already closed: " ++ fault.message)
    have missing := Descriptors.run_setInteractive_error (same.trans lookup) false
    have unchanged : Machine.onDescriptors (Descriptors.setInteractive 0 false) logged =
        (.error fault, logged) := by
      have run := Machine.run_onDescriptors (Descriptors.setInteractive 0 false) logged
      rw [missing] at run
      exact run
    have delivered : s.deliver = { s with machine := told } := by
      simp only [deliver, h]
      rw [unchanged]
    rw [delivered, Descriptors.run_setInteractive_error lookup]
    exact ⟨h, rfl, rfl, fun name => (Host.pipe_log _ _ _ _).trans (pipes name)⟩

theorem life_deliver (s : Session) : s.deliver.machine.life = s.machine.life := by
  cases batches : s.batches with
  | nil => exact (deliver_nil batches).2.1
  | cons batch rest => rw [deliver_cons batches]; rfl

theorem batches_deliver (s : Session) : s.deliver.batches = s.batches.tail := by
  cases batches : s.batches with
  | nil => exact (deliver_nil batches).1
  | cons batch rest => rw [deliver_cons batches]; rfl

theorem inherits_deliver (s : Session) :
    s.machine.descriptors.Inherits s.deliver.machine.descriptors := by
  cases batches : s.batches with
  | nil =>
    exact (Descriptors.Inherits.quieten 0).trans (.of_slots (deliver_nil batches).2.2.1)
  | cons batch rest =>
    rw [deliver_cons batches]
    exact .of_slots rfl

/-! ### Steps -/

theorem inherits_next (s : Session) :
    s.machine.descriptors.Inherits s.next.machine.descriptors := by
  cases suspended : s.machine.life.suspended with
  | true =>
    rw [next_of_suspended suspended]
    exact inherits_deliver s
  | false =>
    rw [next_of_awake suspended]
    exact Machine.inherits_tick s.machine

/-- Once the driver has reacted, the process does not wait any more. -/
theorem life_next_of_suspended (h : s.machine.life.suspended = true) :
    s.next.machine.life = s.machine.life.resume := by
  rw [next_of_suspended h]
  show s.deliver.machine.life.resume = s.machine.life.resume
  rw [life_deliver]

theorem batches_next_of_suspended (h : s.machine.life.suspended = true) :
    s.next.batches = s.batches.tail := by
  rw [next_of_suspended h]
  exact batches_deliver s

theorem batches_next_of_awake (h : s.machine.life.suspended = false) :
    s.next.batches = s.batches := by rw [next_of_awake h]

/-- The driver takes one batch whenever the process waits, as long as there are any. -/
theorem batches_iterate (n : Nat) (s : Session) :
    (next^[n] s).batches = s.batches.drop (s.waits n) := by
  induction n generalizing s with
  | zero => rfl
  | succ n ih =>
    rw [Function.iterate_succ_apply, ih, waits]
    cases suspended : s.machine.life.suspended with
    | true =>
      rw [batches_next_of_suspended suspended, List.drop_tail, if_pos rfl, Nat.add_comm]
    | false =>
      rw [batches_next_of_awake suspended, if_neg Bool.false_ne_true, Nat.zero_add]

theorem pipe_next_of_suspended (h : s.machine.life.suspended = true) :
    s.next.machine.host.pipe inputPipe =
      s.machine.host.pipe inputPipe ++ (s.batches.head?.getD []).flatten := by
  rw [next_of_suspended h]
  show s.deliver.machine.host.pipe inputPipe = _
  cases batches : s.batches with
  | nil => simp [(deliver_nil batches).2.2.2 inputPipe]
  | cons batch rest =>
    rw [deliver_cons batches]
    show (s.machine.host.pushPipe inputPipe batch.flatten).pipe inputPipe = _
    simp [Host.pipe_pushPipe]

/-- A process that starts to wait does so on an interactive descriptor. -/
theorem waits_next (h : s.next.machine.life.suspended = true) : s.next.machine.Waits := by
  cases suspended : s.machine.life.suspended with
  | true =>
    rw [life_next_of_suspended suspended] at h
    cases h
  | false =>
    rw [next_of_awake suspended] at h ⊢
    exact Machine.waits_of_tick suspended h

theorem sound_next (sound : s.machine.life.Sound) : s.next.machine.life.Sound := by
  cases suspended : s.machine.life.suspended with
  | true =>
    rw [life_next_of_suspended suspended]
    exact sound.resume
  | false =>
    rw [next_of_awake suspended]
    exact Machine.sound_tick sound

/-! ### Runs are steps -/

/-- A session gets to another in a number of steps, before each of which the process was still
running. -/
inductive Goes : Session → Nat → Session → Prop
  | stay (s : Session) : Goes s 0 s
  | step {s s' : Session} {k : Nat} (running : s.machine.life.running = true)
      (rest : Goes s.next k s') : Goes s (k + 1) s'

namespace Goes

theorem trans {k l : Nat} (first : Goes s k s') (second : Goes s' l s'') : Goes s (l + k) s'' := by
  induction first with
  | stay s => exact second
  | step running _ ih => exact .step running (ih second)

theorem iterate {k : Nat} (h : Goes s k s') : next^[k] s = s' := by
  induction h with
  | stay s => rfl
  | step _ _ ih => exact (Function.iterate_succ_apply next _ _).trans ih

theorem running {k : Nat} (h : Goes s k s') {i : Nat} (before : i < k) :
    (next^[i] s).machine.life.running = true := by
  induction h generalizing i with
  | stay s => exact absurd before (Nat.not_lt_zero i)
  | step running _ ih =>
    cases i with
    | zero => exact running
    | succ i =>
      rw [Function.iterate_succ_apply]
      exact ih (Nat.lt_of_succ_lt_succ before)

end Goes

/-- A run ticks a process until it is not ready any more, or the fuel is used up. -/
theorem goes_runFrom (batches : List (List Bytes)) (ticks fuel count : Nat) (m : Machine) :
    ∃ k, Goes ⟨m, batches, ticks + count⟩ k
        ⟨(m.runFrom SyscallTable.standard fuel count).2, batches,
          ticks + (m.runFrom SyscallTable.standard fuel count).1⟩ ∧
      ((m.runFrom SyscallTable.standard fuel count).2.life.ready = false ∨ fuel ≤ k) := by
  induction fuel generalizing m count with
  | zero => exact ⟨0, .stay _, .inr (Nat.le_refl 0)⟩
  | succ fuel ih =>
    cases ready : m.life.ready with
    | false =>
      refine ⟨0, ?_⟩
      rw [Machine.runFrom, Machine.tick_of_not_ready ready]
      exact ⟨.stay _, .inl ready⟩
    | true =>
      have running := Life.running_of_ready ready
      have stepped := next_of_awake (s := ⟨m, batches, ticks + count⟩) (Life.awake_of_ready ready)
      rw [Machine.runFrom]
      generalize ticked : m.tick SyscallTable.standard = outcome at stepped ⊢
      obtain ⟨completed, m'⟩ := outcome
      cases completed with
      | true =>
        obtain ⟨k, rest, halted⟩ := ih (count + 1) m'
        refine ⟨k + 1, .step running ?_, halted.imp_right Nat.succ_le_succ⟩
        rw [stepped]
        exact rest
      | false =>
        refine ⟨1, .step running ?_, .inl ?_⟩
        · rw [stepped]
          exact .stay _
        · obtain ⟨⟨cause, faulted⟩, -⟩ := Machine.tick_false ready ticked
          show m'.life.ready = false
          rw [faulted, Life.stop_of_running running]
          rfl

theorem goes_advance (fuel : Nat) (s : Session) :
    ∃ k, Goes s k (s.advance fuel) ∧ ((s.advance fuel).machine.life.ready = false ∨ fuel ≤ k) :=
  goes_runFrom s.batches s.ticks fuel 0 s.machine

theorem Goes.sound {k : Nat} (h : Goes s k s') (sound : s.machine.life.Sound) :
    s'.machine.life.Sound := by
  induction h with
  | stay s => exact sound
  | step _ _ ih => exact ih (sound_next sound)

/-- What the driver does is a number of steps. It goes on while the process runs, and leaves it only
if it is not ready for a tick or has used up its fuel. -/
theorem goes_serve (fuel allowance : Nat) (sound : s.machine.life.Sound) :
    ∃ k, Goes s k (serve fuel allowance s) ∧
      ((serve fuel allowance s).machine.life.ready = false ∨ fuel ≤ k) := by
  induction allowance generalizing s with
  | zero => exact goes_advance fuel s
  | succ allowance ih =>
    obtain ⟨k, advanced, halted⟩ := goes_advance fuel s
    rw [serve]
    cases suspended : (s.advance fuel).machine.life.suspended with
    | true =>
      have sound' := advanced.sound sound
      obtain ⟨l, served, halted'⟩ := ih (sound_next sound')
      simp only [if_true]
      rw [← next_of_suspended suspended]
      refine ⟨l + 1 + k, advanced.trans (.step (sound'.suspended suspended) served), ?_⟩
      exact halted'.imp_right fun used => by omega
    | false =>
      simp only [Bool.false_eq_true, if_false]
      exact ⟨k, advanced, halted⟩

theorem batches_advance (fuel : Nat) (s : Session) : (s.advance fuel).batches = s.batches := rfl

/-! ### No interactive descriptor -/

/-- The process does not wait, and there is nothing it could wait on. -/
structure Silent (s : Session) : Prop where
  passive : s.machine.descriptors.Passive
  awake : s.machine.life.suspended = false

theorem Silent.next (h : s.Silent) : s.next.Silent where
  passive := h.passive.of_inherits (inherits_next s)
  awake := by
    refine Bool.eq_false_iff.mpr fun suspended => ?_
    obtain ⟨slot, d, opened, interactive, -⟩ := waits_next suspended
    have passive := h.passive.of_inherits (inherits_next s)
    rw [passive slot d opened] at interactive
    cases interactive

theorem Silent.iterate (h : s.Silent) (n : Nat) : (Session.next^[n] s).Silent :=
  Function.Iterate.rec Silent h (fun _ => Silent.next) n

theorem Silent.waits (h : s.Silent) (n : Nat) : s.waits n = 0 := by
  induction n generalizing s with
  | zero => rfl
  | succ n ih => rw [Session.waits, if_neg (Bool.eq_false_iff.mp h.awake), ih h.next]

/-! ### The input as the only interactive descriptor -/

/-- No descriptor is interactive but the input, in the first slot, and a process that waits has used
up what was in its pipe. -/
structure Attended (s : Session) : Prop where
  input : ∀ slot d, s.machine.descriptors.get? slot = some d → d.interactive = true →
    slot = 0 ∧ d.stream.backend.pipe? = some inputPipe
  waits : s.machine.life.suspended = true → s.machine.Waits

namespace Attended

theorem next (h : s.Attended) : s.next.Attended where
  input := by
    intro slot d' opened' interactive'
    obtain ⟨d, opened, interactive, pipe⟩ := inherits_next s slot d' opened' interactive'
    obtain ⟨first, input⟩ := h.input slot d opened interactive
    exact ⟨first, pipe.trans input⟩
  waits := waits_next

theorem iterate (h : s.Attended) (n : Nat) : (Session.next^[n] s).Attended :=
  Function.Iterate.rec Attended h (fun _ => Attended.next) n

/-- Whenever the process waits, the first slot holds the input, and its pipe is empty. -/
theorem of_suspended (h : s.Attended) (suspended : s.machine.life.suspended = true) :
    ∃ d, s.machine.descriptors.get? 0 = some d ∧ d.interactive = true ∧
      d.stream.backend = .pipe inputPipe ∧ s.machine.host.pipe inputPipe = [] := by
  obtain ⟨slot, d, opened, interactive, empty⟩ := h.waits suspended
  obtain ⟨rfl, pipe⟩ := h.input slot d opened interactive
  exact ⟨d, opened, interactive, Backend.pipe?_eq_some.mp pipe, empty inputPipe pipe⟩

/-- Once the end of the input is delivered, no descriptor is interactive. -/
theorem silent_next (h : s.Attended) (suspended : s.machine.life.suspended = true)
    (nothing : s.batches = []) : s.next.Silent where
  passive := by
    obtain ⟨d, opened, -, -⟩ := h.of_suspended suspended
    have found : s.machine.descriptors.find 0 = .ok (0, d) := Descriptors.find_of_get? rfl opened
    have slots : s.next.machine.descriptors.slots =
        (s.machine.descriptors.put 0 (some { d with interactive := false })).slots := by
      rw [next_of_suspended suspended]
      refine (deliver_nil nothing).2.2.1.trans ?_
      rw [Descriptors.run_setInteractive_ok found]
    intro slot d' opened'
    rw [Descriptors.get?, Descriptors.slot_congr slots, ← Descriptors.get?,
      Descriptors.get?_put] at opened'
    split at opened'
    · cases opened'
      rfl
    · next other =>
      by_contra interactive
      exact other (h.input slot d' opened' (by simpa using interactive)).1.symm
  awake := by
    rw [life_next_of_suspended suspended]
    rfl

/-- The process waits at most once for each chunk and once for the end of the input. -/
theorem waits_le (h : s.Attended) (ready : ∀ batch ∈ s.batches, batch ≠ []) (n : Nat) :
    s.waits n ≤ s.batches.flatten.length + 1 := by
  induction n generalizing s with
  | zero => exact Nat.zero_le _
  | succ n ih =>
    rw [Session.waits]
    cases suspended : s.machine.life.suspended with
    | true =>
      rw [if_pos rfl]
      cases batches : s.batches with
      | nil =>
        rw [(h.silent_next suspended batches).waits n]
        exact Nat.le_refl 1
      | cons batch rest =>
        have left : s.next.batches = rest := by
          rw [batches_next_of_suspended suspended, batches, List.tail_cons]
        rw [batches] at ready
        have taken : 0 < batch.length := List.length_pos_iff.mpr (ready batch List.mem_cons_self)
        have later := ih h.next (by
          rw [left]
          exact fun batch member => ready batch (List.mem_cons_of_mem _ member))
        rw [left] at later
        rw [List.flatten_cons, List.length_append]
        omega
    | false =>
      have same := batches_next_of_awake suspended
      have later := ih h.next (by rw [same]; exact ready)
      rw [same] at later
      rw [if_neg Bool.false_ne_true]
      omega

/-- The bytes that have arrived, followed by the chunks that have not, are the input. -/
theorem arrivals_append (h : s.Attended) (n : Nat) :
    s.arrivals n ++ (Session.next^[n] s).batches.flatten.flatten = s.batches.flatten.flatten := by
  induction n generalizing s with
  | zero => rfl
  | succ n ih =>
    rw [arrivals, List.append_assoc, Function.iterate_succ_apply, ih h.next]
    cases suspended : s.machine.life.suspended with
    | true =>
      obtain ⟨-, -, -, -, empty⟩ := h.of_suspended suspended
      rw [if_pos rfl, batches_next_of_suspended suspended, pipe_next_of_suspended suspended,
        empty, List.nil_append]
      cases s.batches with
      | nil => rfl
      | cons batch rest => simp
    | false =>
      rw [if_neg Bool.false_ne_true, batches_next_of_awake suspended, List.nil_append]

theorem of_goes {k : Nat} (h : s.Attended) (goes : Goes s k s') : s'.Attended := by
  rw [← goes.iterate]
  exact h.iterate k

/-- The allowance that the driver gives itself is never used up while the process waits. -/
theorem awake_serve (h : s.Attended) (sound : s.machine.life.Sound) (fuel : Nat) {allowance : Nat}
    (enough : s.batches.length < allowance) :
    (serve fuel allowance s).machine.life.suspended = false := by
  induction allowance generalizing s with
  | zero => exact absurd enough (Nat.not_lt_zero _)
  | succ allowance ih =>
    obtain ⟨k, advanced, -⟩ := goes_advance fuel s
    have attended := h.of_goes advanced
    have sound' := sound_next (advanced.sound sound)
    rw [serve]
    cases suspended : (s.advance fuel).machine.life.suspended with
    | true =>
      simp only [if_true]
      rw [← next_of_suspended suspended]
      cases batches : (s.advance fuel).batches with
      | nil =>
        obtain ⟨l, served, -⟩ := goes_serve fuel allowance sound'
        rw [← served.iterate]
        exact ((attended.silent_next suspended batches).iterate l).awake
      | cons batch rest =>
        refine ih attended.next sound' ?_
        rw [← batches_advance fuel s, batches, List.length_cons] at enough
        rw [batches_next_of_suspended suspended, batches, List.tail_cons]
        exact Nat.lt_of_succ_lt_succ enough
    | false =>
      simp only [Bool.false_eq_true, if_false]
      exact suspended

end Attended

end Session

/-! ## From the start of a process on -/

/-- What is behind the standard input. -/
def inputBackend (blocking : Bool) (input : Bytes) : Backend :=
  if blocking then .source input else .pipe inputPipe

/-- The descriptors with the standard streams in the first three slots. -/
def withStreams (blocking : Bool) (input : Bytes) (t : Descriptors) : Descriptors :=
  let t := ((Descriptors.install 0 (inputBackend blocking input) (!blocking)).run t).2
  let t := ((Descriptors.install 1 (.sink .stdout) false).run t).2
  ((Descriptors.install 2 (.sink .stderr) false).run t).2

theorem run_installStreams (blocking : Bool) (input : Bytes) (t : Descriptors) :
    (installStreams blocking input).run t = (.ok (), withStreams blocking input t) := by
  cases blocking <;> rfl

/-- Among the standard streams, only an input that is not blocking is interactive. -/
theorem interactive_withStreams {blocking : Bool} {input : Bytes} {t : Descriptors}
    (closed : ∀ slot, t.get? slot = none) {slot : Slot} {d : Descriptor}
    (opened : (withStreams blocking input t).get? slot = some d)
    (interactive : d.interactive = true) :
    blocking = false ∧ slot = 0 ∧ d.stream.backend.pipe? = some inputPipe := by
  let first := ((Descriptors.install (0 : Slot).val (inputBackend blocking input)
    (!blocking)).run t).2
  have later : first.Inherits (withStreams blocking input t) :=
    Descriptors.Inherits.trans (.install 1 _) (.install 2 _)
  obtain ⟨d', opened', interactive', pipe⟩ := later slot d opened interactive
  rw [Descriptors.get?_install] at opened'
  split at opened'
  · next here =>
    cases opened'
    have waiting : blocking = false := by simpa using interactive'
    subst waiting
    exact ⟨rfl, here.symm, pipe⟩
  · rw [closed] at opened'
    cases opened'

/-- The session with which the driver begins, once the process is started. -/
def opening (blocking : Bool) (s : Surroundings) (path : String) (image : Image) (arguments : Nat)
    (m : Machine) : Session where
  machine := Machine.log .info ("running " ++ path ++ " (" ++ toString image.text.length ++
      " bytes of text, " ++ toString arguments ++ " arguments)")
    { m with descriptors := withStreams blocking s.batches.flatten.flatten m.descriptors }
  batches := if blocking then [] else s.batches

theorem runProcess_eq (fuel : Nat) (blocking : Bool) (s : Surroundings) (path : String)
    (image : Image) (arguments : Nat) (m : Machine) :
    runProcess fuel blocking s path image arguments m =
      conclude (Session.serve fuel
        ((opening blocking s path image arguments m).batches.length + 1)
        (opening blocking s path image arguments m)) := by
  have installed : Machine.onDescriptors (installStreams blocking s.batches.flatten.flatten) m =
      (.ok (), { m with
        descriptors := withStreams blocking s.batches.flatten.flatten m.descriptors }) := by
    have run := Machine.run_onDescriptors
      (installStreams blocking s.batches.flatten.flatten) m
    rw [run_installStreams] at run
    exact run
  unfold runProcess
  rw [installed]
  rfl

section Opening

variable {config : Config} {host : Host} {image : Image} {args : List String} {reserve : UInt64}
variable {noise : UInt64 → (size : Nat) → Noise size} {m : Machine}

/-- A process that was just started runs, and has no descriptors. -/
theorem fresh_of_boot
    (booted : (Machine.new config host).bootWith noise image args reserve = .ok m) :
    m.life = .started ∧ ∀ slot, m.descriptors.get? slot = none := by
  obtain ⟨layout, memory, registers, -, -, -, -, rfl⟩ := Machine.bootWith_eq_ok booted
  exact ⟨rfl, fun slot => Descriptors.get?_closed host slot⟩

theorem life_opening (booted : (Machine.new config host).bootWith noise image args reserve = .ok m)
    (blocking : Bool) (s : Surroundings) (path : String) (arguments : Nat) :
    (opening blocking s path image arguments m).machine.life = .started :=
  (fresh_of_boot booted).1

theorem attended_opening
    (booted : (Machine.new config host).bootWith noise image args reserve = .ok m)
    (s : Surroundings) (path : String) (arguments : Nat) :
    (opening false s path image arguments m).Attended where
  input _ _ opened interactive :=
    (interactive_withStreams (fresh_of_boot booted).2 opened interactive).2
  waits suspended := by
    rw [life_opening booted] at suspended
    cases suspended

theorem silent_opening
    (booted : (Machine.new config host).bootWith noise image args reserve = .ok m)
    (s : Surroundings) (path : String) (arguments : Nat) :
    (opening true s path image arguments m).Silent where
  passive slot d opened := by
    by_contra interactive
    have waiting := (interactive_withStreams (fresh_of_boot booted).2 opened
      (by simpa using interactive)).1
    cases waiting
  awake := by rw [life_opening booted]; rfl

/-- For every image and every way in which the chunks of the input arrive, the process waits at
most once for each chunk and once more. Whenever it waits, the first slot holds the input, open and
interactive, and its pipe is empty. After the end of the input it never waits again. The bytes that
have arrived, followed by the chunks that have not, are the input in order. An input that blocks
never makes the process wait.

This is what the driver does: it takes these steps while the process runs, with one batch for each
time that the process waits, and reports on the state they lead to. It never leaves a process that
waits, and one that runs only if the fuel of a stretch is used up. -/
theorem input_never_hangs
    (booted : (Machine.new config host).bootWith noise image args reserve = .ok m)
    (s : Surroundings) (ready : ∀ batch ∈ s.batches, batch ≠ []) (path : String)
    (arguments : Nat) :
    let session := fun blocking => opening blocking s path image arguments m
    (∀ n, (session false).waits n ≤ s.batches.flatten.length + 1) ∧
    (∀ n, (Session.next^[n] (session false)).machine.life.suspended = true →
      ∃ d, (Session.next^[n] (session false)).machine.descriptors.get? 0 = some d ∧
        d.interactive = true ∧ d.stream.backend = .pipe inputPipe ∧
        (Session.next^[n] (session false)).machine.host.pipe inputPipe = []) ∧
    (∀ n k, (Session.next^[n] (session false)).machine.life.suspended = true →
      (Session.next^[n] (session false)).batches = [] →
      (Session.next^[n + 1 + k] (session false)).machine.life.suspended = false) ∧
    (∀ n, (session false).arrivals n ++
      (Session.next^[n] (session false)).batches.flatten.flatten = s.batches.flatten.flatten) ∧
    (∀ n, (Session.next^[n] (session true)).machine.life.suspended = false) ∧
    (∀ fuel blocking, ∃ k,
      runProcess fuel blocking s path image arguments m =
        conclude (Session.next^[k] (session blocking)) ∧
      (∀ i < k, (Session.next^[i] (session blocking)).machine.life.running = true) ∧
      (Session.next^[k] (session blocking)).batches =
        (session blocking).batches.drop ((session blocking).waits k) ∧
      (Session.next^[k] (session blocking)).machine.life.suspended = false ∧
      ((Session.next^[k] (session blocking)).machine.life.running = false ∨ fuel ≤ k)) := by
  intro session
  have attended : (session false).Attended := attended_opening booted s path arguments
  have silent : (session true).Silent := silent_opening booted s path arguments
  refine ⟨attended.waits_le ready, fun n => (attended.iterate n).of_suspended, ?_,
    attended.arrivals_append, fun n => (silent.iterate n).awake, ?_⟩
  · intro n k suspended nothing
    have after := (attended.iterate n).silent_next suspended nothing
    have later := (after.iterate k).awake
    rw [← Function.iterate_succ_apply' Session.next, ← Function.iterate_add_apply] at later
    rw [Nat.add_comm]
    exact later
  · intro fuel blocking
    have sound : (session blocking).machine.life.Sound := by
      rw [life_opening booted]
      exact .started
    obtain ⟨k, goes, halted⟩ :=
      Session.goes_serve fuel ((session blocking).batches.length + 1) sound
    have awake : (Session.serve fuel ((session blocking).batches.length + 1)
        (session blocking)).machine.life.suspended = false := by
      cases blocking with
      | true =>
        rw [← goes.iterate]
        exact (silent.iterate k).awake
      | false => exact attended.awake_serve sound fuel (Nat.lt_succ_self _)
    refine ⟨k, ?_, fun i => goes.running, Session.batches_iterate k _, ?_⟩
    · rw [runProcess_eq, goes.iterate]
    · rw [goes.iterate]
      refine ⟨awake, halted.imp_left fun still => ?_⟩
      rw [Life.ready, awake, Bool.not_false, Bool.and_true] at still
      exact still

/-- Reads two bytes at a time as long as there are any, and then exits with zero. -/
def reading : Image where
  text := [
    0x04, 0x0D, 0x00, 0x00, -- the number of the read call to RAX
    0x04, 0x1D, 0x00, 0x00, -- the descriptor to RBX
    0x04, 0x2D, 0x00, 0x1F, -- the address of the buffer to RCX
    0x04, 0x3D, 0x00, 0x02, -- its length to RDX
    0x02,
    0x0B, 0x0D, 0x00, 0x00, -- compares what was read with zero
    0x13, 0x05, 0x0D, 0x00, 0x00, -- goes back to the start unless they are equal
    0x04, 0x0D, 0x00, 0x0B, -- the number of the exit call to RAX
    0x02]
  data := [0x00, 0x00]

/-- The image as a process, on noise that is all zeros. -/
def readingProcess : Machine :=
  ((Machine.new {} {}).startWith
    (fun _ size => ⟨Vector.replicate size 0, Core.blank.registers⟩) reading [] 16).2

/-- Three chunks that arrive in two batches. -/
def arriving : Surroundings := { batches := [[[65]], [[66], [67, 68]]] }

/-- The process waits three times, and gets the first batch, the second one, and the end of the
input. It takes thirty-six steps until it exits, and the driver reports on the last of them. -/
theorem input_never_hangs_reading :
    let session := opening false arriving "cat" reading 0 readingProcess
    (session.waits 36 = 3 ∧ ∀ n, session.waits n ≤ 4) ∧
    (∀ n ∈ [5, 14, 30], (Session.next^[n] session).machine.life.suspended = true ∧
      (Session.next^[n] session).machine.host.pipe inputPipe = []) ∧
    ((Session.next^[30] session).batches = [] ∧
      ∀ k, (Session.next^[30 + 1 + k] session).machine.life.suspended = false) ∧
    session.arrivals 36 = [65, 66, 67, 68] ∧
    (Session.next^[36] session).machine.life = ⟨false, false, none, 0⟩ ∧
    runProcess 40 false arriving "cat" reading 0 readingProcess =
      conclude (Session.next^[36] session) := by
  intro session
  have booted : (Machine.new {} {}).bootWith
      (fun _ size => ⟨Vector.replicate size 0, Core.blank.registers⟩) reading [] 16 =
      .ok readingProcess := Machine.bootWith_eq_ok_iff.mpr (Prod.ext rfl rfl)
  obtain ⟨bound, attended, silent, -, -, drives⟩ :=
    input_never_hangs booted arriving (by decide) "cat" 0
  have drive := drives 40 false
  have same : opening false arriving "cat" reading 0 readingProcess = session := rfl
  simp only [same] at bound attended silent drive
  have waiting : ∀ n ∈ [5, 14, 30], (Session.next^[n] session).machine.life.suspended = true := by
    decide +kernel
  have taken : (Session.next^[30] session).batches = [] := by decide +kernel
  have running : ∀ i < 36, (Session.next^[i] session).machine.life.running = true := by
    decide +kernel
  have last : (Session.next^[36] session).machine.life = ⟨false, false, none, 0⟩ := by
    decide +kernel
  refine ⟨⟨by decide +kernel, bound⟩, fun n member => ?_,
    ⟨taken, fun k => silent 30 k (waiting 30 (by decide)) taken⟩, by decide +kernel, last, ?_⟩
  · obtain ⟨d, -, -, -, empty⟩ := attended n (waiting n member)
    exact ⟨waiting n member, empty⟩
  · obtain ⟨k, report, before, -, -, ended⟩ := drive
    have within : k ≤ 36 := by
      by_contra beyond
      have alive := before 36 (Nat.lt_of_not_le beyond)
      rw [last] at alive
      cases alive
    have finished : ¬k < 36 := by
      intro early
      rcases ended with stopped | used
      · rw [running k early] at stopped
        cases stopped
      · omega
    obtain rfl : k = 36 := by omega
    exact report

end Opening

end Launch

end GuestMachine
