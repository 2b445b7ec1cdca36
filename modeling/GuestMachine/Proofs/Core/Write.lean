import GuestMachine.Proofs.Core.Footprint
import GuestMachine.Proofs.Memory

/-!
# How much memory an operation writes

No operation writes memory twice, and what it writes is at most one word. So everything that it
changes of memory lies in one range of eight bytes.
-/

namespace GuestMachine

/-- The memory `m'` is `m` with at most one word laid over it. -/
def Memory.WrittenOnce (m m' : Memory) : Prop :=
  ∃ start data, data.length ≤ 8 ∧ m' = m.patch start data

theorem Memory.WrittenOnce.refl (m : Memory) : m.WrittenOnce m := ⟨0, [], Nat.zero_le _, rfl⟩

namespace Exec

open Faulting (Observes)

variable {α β : Type} {x : Exec α} {f : α → Exec β}

/-- The computation does not write memory. -/
def SparesMemory (x : Exec α) : Prop := ∀ c : Core, (x.run c).2.memory = c.memory

/-- The computation writes memory at most once, and no more than a word. -/
def WritesOnce (x : Exec α) : Prop := ∀ c : Core, c.memory.WrittenOnce (x.run c).2.memory

theorem SparesMemory.of_observes (h : Observes x) : SparesMemory x := by
  intro c
  rw [h c]

theorem SparesMemory.writesOnce (h : SparesMemory x) : WritesOnce x := by
  intro c
  rw [h c]
  exact .refl c.memory

/-- What comes behind a write must not write again. -/
theorem WritesOnce.bind (hx : WritesOnce x) (hf : ∀ a, SparesMemory (f a)) :
    WritesOnce (x >>= f) := by
  intro c
  have first := hx c
  cases outcome : x.run c with
  | mk result middle =>
    rw [outcome] at first
    cases result with
    | error fault =>
      rw [Faulting.run_bind_error outcome]
      exact first
    | ok a =>
      rw [Faulting.run_bind_ok outcome, hf a middle]
      exact first

/-- What comes in front of a write must not write before. -/
theorem SparesMemory.bind_writesOnce (hx : SparesMemory x) (hf : ∀ a, WritesOnce (f a)) :
    WritesOnce (x >>= f) := by
  intro c
  have first := hx c
  cases outcome : x.run c with
  | mk result middle =>
    rw [outcome] at first
    cases result with
    | error fault =>
      rw [Faulting.run_bind_error outcome]
      dsimp only at first ⊢
      rw [first]
      exact .refl c.memory
    | ok a =>
      rw [Faulting.run_bind_ok outcome, ← first]
      exact hf a middle

/-! ## Accesses -/

theorem writesOnce_writeMemory (address : UInt64) (w : Width) (value : UInt64) :
    WritesOnce (writeMemory address w value) := by
  intro c
  cases writable : c.memory.writeFault? address w.bytes with
  | none =>
    rw [run_writeMemory_ok value writable]
    refine ⟨_, _, ?_, rfl⟩
    rw [Bytes.length_ofNat]
    exact w.bytes_le
  | some fault =>
    rw [run_writeMemory_error value writable]
    exact .refl c.memory

theorem writesOnce_store (w : Width) (l : Location) (value : UInt64) :
    WritesOnce (store w l value) := by
  cases l with
  | register r => exact SparesMemory.writesOnce fun _ => rfl
  | memory address => exact writesOnce_writeMemory address w value

theorem writesOnce_push (w : Width) (value : UInt64) : WritesOnce (push w value) := by
  refine (SparesMemory.of_observes (.read _)).bind_writesOnce fun rsp => ?_
  refine (SparesMemory.of_observes (.read _)).bind_writesOnce fun barrier => ?_
  refine (SparesMemory.of_observes (.orFault _ _)).bind_writesOnce fun slot => ?_
  exact (writesOnce_writeMemory slot w value).bind fun _ _ => rfl

/-- An operation whose footprint has no memory writes none. -/
theorem sparesMemory_execute {op : Operation} (outside : op.footprint.memory = false) :
    SparesMemory (execute op) := fun c => (sameOutside_execute op c).memory outside

theorem sparesMemory_pop (w : Width) : SparesMemory (pop w) := fun _ =>
  (Core.sameOutside_of_touches (touches_pop (p := Operation.popf.footprint) (by decide) w)).memory
    rfl

theorem sparesMemory_popFpu (wanted : Bool) : SparesMemory (popFpu wanted) := fun _ =>
  (Core.sameOutside_of_touches
    (touches_popFpu (p := Operation.finit.footprint) fun _ => rfl)).memory rfl

theorem writesOnce_storeFloat (value : Double) (dst : FloatTarget) :
    WritesOnce (storeFloat value dst) := by
  cases dst with
  | entry i => exact SparesMemory.writesOnce fun _ => rfl
  | double a | single a | integer a =>
    exact (SparesMemory.of_observes (.read _)).bind_writesOnce fun address =>
      writesOnce_writeMemory address _ _

/-! ## Operations -/

theorem writesOnce_execute (op : Operation) : WritesOnce (execute op) := by
  cases op with
  | mov w dst src =>
    refine (SparesMemory.of_observes (.read _)).bind_writesOnce fun location => ?_
    refine (SparesMemory.of_observes (observes_source w src)).bind_writesOnce fun value => ?_
    exact writesOnce_store w location value
  | xchg w r other =>
    refine (SparesMemory.of_observes (.read _)).bind_writesOnce fun location => ?_
    refine (SparesMemory.of_observes (observes_load w _)).bind_writesOnce fun mine => ?_
    refine (SparesMemory.of_observes (observes_load w _)).bind_writesOnce fun theirs => ?_
    exact (writesOnce_store w location mine).bind fun _ _ => rfl
  | binary op w dst src =>
    refine (SparesMemory.of_observes (.read _)).bind_writesOnce fun location => ?_
    refine (SparesMemory.of_observes (observes_source w src)).bind_writesOnce fun b => ?_
    refine (SparesMemory.of_observes (observes_load w _)).bind_writesOnce fun a => ?_
    refine (SparesMemory.of_observes (.read _)).bind_writesOnce fun flags => ?_
    refine SparesMemory.bind_writesOnce (fun _ => rfl) fun _ => ?_
    split
    · exact writesOnce_store w location _
    · exact SparesMemory.writesOnce fun _ => rfl
  | unary op w dst =>
    refine (SparesMemory.of_observes (.read _)).bind_writesOnce fun location => ?_
    refine (SparesMemory.of_observes (observes_load w _)).bind_writesOnce fun a => ?_
    refine (SparesMemory.of_observes (.read _)).bind_writesOnce fun flags => ?_
    refine SparesMemory.bind_writesOnce (fun _ => rfl) fun _ => ?_
    exact writesOnce_store w location _
  | call w target =>
    refine (SparesMemory.of_observes (observes_source w target)).bind_writesOnce fun address => ?_
    refine (SparesMemory.of_observes (.read _)).bind_writesOnce fun rip => ?_
    exact (writesOnce_push .qword rip).bind fun _ _ => rfl
  | push w src =>
    exact (SparesMemory.of_observes (observes_source w src)).bind_writesOnce fun value =>
      writesOnce_push w value
  | pushf =>
    exact (SparesMemory.of_observes (.read _)).bind_writesOnce fun flags =>
      writesOnce_push .qword flags.bits
  | pop w dst =>
    refine (SparesMemory.of_observes (.read _)).bind_writesOnce fun location => ?_
    exact (sparesMemory_pop w).bind_writesOnce fun value => writesOnce_store w location value
  | fst dst pops =>
    refine (SparesMemory.of_observes (.query _)).bind_writesOnce fun value => ?_
    exact (writesOnce_storeFloat value dst).bind fun _ => sparesMemory_popFpu pops
  | _ => exact (sparesMemory_execute rfl).writesOnce

end Exec

end GuestMachine
