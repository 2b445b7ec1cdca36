import GuestMachine.Machine.Step
import GuestMachine.Proofs.Machine.Boot

/-!
# What a driver can do

Everything a driver may do to a machine, as data: a history of a machine is a list of actions. An
action that is refused leaves whatever the refused operation leaves. Starting a process is kept
apart, since it is the only action that replaces the process.
-/

namespace GuestMachine

/-- An access to the core from outside. -/
inductive Core.Action where
  | setRip (rip : UInt64)
  | setRegister (r : Register) (value : UInt64)
  | setRegisterSized (r : Register) (w : Width) (value : UInt64)
  | push (w : Width) (value : UInt64)
  | pop (w : Width)
  | write (pos : UInt64) (w : Width) (value : UInt64)
  | writeBytes (pos : UInt64) (data : Bytes)
  | writeText (pos : UInt64) (text : String)

/-- The core with the memory that a write leaves, or with its own if the write is refused. -/
def Core.written (c : Core) (result : Except Fault Memory) : Core :=
  { c with memory := match result with
    | .ok memory => memory
    | .error _ => c.memory }

def Core.Action.apply (a : Core.Action) (c : Core) : Core :=
  match a with
  | setRip rip => ((Exec.jump rip).run c).2
  | setRegister r value => ((Exec.setRegister r value).run c).2
  | setRegisterSized r w value => ((Exec.setRegisterSized r w value).run c).2
  | push w value => ((Exec.push w value).run c).2
  | pop w => ((Exec.pop w).run c).2
  | write pos w value => c.written (c.memory.write pos w value)
  | writeBytes pos data => c.written (c.memory.writeBytes pos data)
  | writeText pos text => c.written (c.memory.writeText pos text)

/-- An operation on the descriptor table or on a pipe from outside. -/
inductive Descriptors.Action where
  | install (index : Nat) (backend : Backend) (interactive : Bool)
  | setInteractive (index : UInt64) (on : Bool)
  | read (index : UInt64) (count : Nat)
  | write (index : UInt64) (data : Bytes)
  | seek (index : UInt64) (target : SeekTarget)
  | flush (index : UInt64)
  | close (index : UInt64)
  | closeAll
  | feed (pipe : String) (bytes : Bytes)
  | drain (pipe : String)

def Descriptors.Action.apply (a : Descriptors.Action) (t : Descriptors) : Descriptors :=
  match a with
  | install index backend interactive => ((Descriptors.install index backend interactive).run t).2
  | setInteractive index on => ((Descriptors.setInteractive index on).run t).2
  | read index count => ((Descriptors.read index count).run t).2
  | write index data => ((Descriptors.write index data).run t).2
  | seek index target => ((Descriptors.seek index target).run t).2
  | flush index => ((Descriptors.flush index).run t).2
  | close index => ((Descriptors.close index).run t).2
  | closeAll => t.closeAll
  | feed pipe bytes => { t with host := t.host.pushPipe pipe bytes }
  | drain pipe => { t with host := (t.host.takePipe pipe).2 }

namespace Machine

/-- An action on a machine that starts no process. -/
inductive Action where
  | tick
  | run (fuel : Nat)
  | resume
  | terminate (cause : Fault)
  | exit (code : Int32)
  | core (a : Core.Action)
  | descriptors (a : Descriptors.Action)

/-- Performs an action under the standard system calls. -/
def perform (a : Action) (m : Machine) : Machine :=
  match a with
  | .tick => (m.tick SyscallTable.standard).2
  | .run fuel => (m.run SyscallTable.standard fuel).2
  | .resume => m.resume
  | .terminate cause => m.terminate cause
  | .exit code => m.exit code
  | .core a => { m with core := a.apply m.core }
  | .descriptors a => { m with descriptors := a.apply m.descriptors }

/-- Performs actions one after the other. -/
def performAll (actions : List Action) (m : Machine) : Machine :=
  actions.foldl (fun m a => m.perform a) m

theorem performAll_append (before after : List Action) (m : Machine) :
    m.performAll (before ++ after) = (m.performAll before).performAll after :=
  List.foldl_append

/-- What every action keeps, every history keeps. -/
theorem performAll_keeps {R : Machine → Machine → Prop} (refl : ∀ m, R m m)
    (trans : ∀ a b c, R a b → R b c → R a c) {actions : List Action}
    (step : ∀ a ∈ actions, ∀ m, R m (m.perform a)) (m : Machine) : R m (m.performAll actions) :=
  List.foldlRecOn actions _ (refl m) fun m' kept a member => trans _ _ _ kept (step a member m')

/-- Anything a driver can ask of a machine. A start comes with the noise it draws, which may be any
at all: nothing ties it to the seed or to an earlier start. -/
inductive Request where
  | boot (noise : UInt64 → (size : Nat) → Noise size) (e : Image) (args : List String)
      (reserve : UInt64)
  | action (a : Action)

/-- Meets a request and goes on with the machine that it leaves, met or refused. -/
def serve (r : Request) (m : Machine) : Machine :=
  match r with
  | .boot noise e args reserve => (m.startWith noise e args reserve).2
  | .action a => m.perform a

/-- Meets requests one after the other. -/
def serveAll (requests : List Request) (m : Machine) : Machine :=
  requests.foldl (fun m r => m.serve r) m

/-- What every request keeps, every history keeps. -/
theorem serveAll_keeps {R : Machine → Machine → Prop} (refl : ∀ m, R m m)
    (trans : ∀ a b c, R a b → R b c → R a c) (step : ∀ r m, R m (m.serve r))
    (requests : List Request) (m : Machine) : R m (m.serveAll requests) :=
  List.foldlRecOn requests _ (refl m) fun m' kept r _ => trans _ _ _ kept (step r m')

/-- The request starts a process. -/
def Starts (m : Machine) (r : Request) : Prop :=
  ∃ noise e args reserve, r = .boot noise e args reserve ∧
    (m.startWith noise e args reserve).1 = .ok ()

/-- What a start leaves as it was, and what is new with a process. -/
theorem serve_boot_cases (m : Machine) (noise : UInt64 → (size : Nat) → Noise size) (e : Image)
    (args : List String) (reserve : UInt64) :
    ¬m.Starts (.boot noise e args reserve) ∧ m.serve (.boot noise e args reserve) = m ∨
      m.Starts (.boot noise e args reserve) ∧ ∃ memory registers,
        m.serve (.boot noise e args reserve) = m.booted e args reserve memory registers := by
  rcases startWith_cases noise m e args reserve with
    ⟨error, run⟩ | ⟨_, memory, registers, -, -, -, -, run⟩
  · refine .inl ⟨?_, by rw [serve, run]⟩
    rintro ⟨_, _, _, _, same, started⟩
    cases same
    rw [run] at started
    cases started
  · exact .inr ⟨⟨noise, e, args, reserve, rfl, by rw [run]⟩, memory, registers, by rw [serve, run]⟩

end Machine

end GuestMachine
