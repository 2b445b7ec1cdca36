import GuestMachine.Core.Execute
import GuestMachine.Proofs.Core.Access
import GuestMachine.Proofs.Fpu

/-!
# Operations do not see released values

Two cores that differ at most in the values left behind in released slots of the floating-point
stack are alike. Every access gives the same answer on both and leaves them alike, so every
operation does.
-/

namespace GuestMachine

/-- `c` and `d` differ at most in the values left behind on the floating-point stack. -/
def Core.Alike (c d : Core) : Prop := ∃ fpu, c.fpu.Alike fpu ∧ d = { c with fpu := fpu }

namespace Exec

open Faulting (Respects)

/-! ## Accesses -/

theorem respects_read {α : Type} {g : Core → α}
    (same : ∀ c fpu, g { c with fpu := fpu } = g c) : Respects Core.Alike (Faulting.read g) := by
  refine .read ?_
  rintro c _ ⟨fpu, -, rfl⟩
  exact (same c fpu).symm

theorem respects_query {α : Type} {g : Core → Except Fault α}
    (same : ∀ c fpu, g { c with fpu := fpu } = g c) : Respects Core.Alike (Faulting.query g) := by
  refine .query ?_
  rintro c _ ⟨fpu, -, rfl⟩
  exact (same c fpu).symm

theorem respects_guard {g : Core → Option Fault}
    (same : ∀ c fpu, g { c with fpu := fpu } = g c) : Respects Core.Alike (Faulting.guard g) := by
  refine .guard ?_
  rintro c _ ⟨fpu, -, rfl⟩
  exact (same c fpu).symm

/-- A change of anything but the floating-point stack. -/
theorem respects_update {g : Core → Core}
    (apart : ∀ c fpu, g { c with fpu := fpu } = { g c with fpu := fpu })
    (kept : ∀ c, (g c).fpu = c.fpu) : Respects Core.Alike (Faulting.update g) := by
  refine .update ?_
  rintro c _ ⟨fpu, alike, rfl⟩
  refine ⟨fpu, ?_, apart c fpu⟩
  rw [kept]
  exact alike

theorem respects_writeMemory (address : UInt64) (w : Width) (value : UInt64) :
    Respects Core.Alike (writeMemory address w value) := by
  rintro c _ ⟨fpu, alike, rfl⟩
  cases fault : c.memory.writeFault? address w.bytes with
  | none =>
    rw [run_writeMemory_ok value fault, run_writeMemory_ok (c := { c with fpu := fpu }) value fault]
    exact ⟨rfl, fpu, alike, rfl⟩
  | some reason =>
    rw [run_writeMemory_error value fault,
      run_writeMemory_error (c := { c with fpu := fpu }) value fault]
    exact ⟨rfl, fpu, alike, rfl⟩

theorem respects_setRegister (r : Register) (value : UInt64) :
    Respects Core.Alike (setRegister r value) :=
  respects_update (fun _ _ => rfl) fun _ => rfl

theorem respects_setRegisterSized (r : Register) (w : Width) (value : UInt64) :
    Respects Core.Alike (setRegisterSized r w value) :=
  respects_update (fun _ _ => rfl) fun _ => rfl

theorem respects_jump (rip : UInt64) : Respects Core.Alike (jump rip) :=
  respects_update (fun _ _ => rfl) fun _ => rfl

theorem respects_setFlags (f : Flags) : Respects Core.Alike (setFlags f) :=
  respects_update (fun _ _ => rfl) fun _ => rfl

theorem respects_load (w : Width) (l : Location) : Respects Core.Alike (load w l) := by
  cases l with
  | register r => exact respects_read fun _ _ => rfl
  | memory address => exact respects_query fun _ _ => rfl

theorem respects_store (w : Width) (l : Location) (value : UInt64) :
    Respects Core.Alike (store w l value) := by
  cases l with
  | register r => exact respects_setRegisterSized r w value
  | memory address => exact respects_writeMemory address w value

theorem respects_resolve (a : Address) : Respects Core.Alike (resolve a) :=
  respects_read fun _ _ => rfl

theorem respects_locate (p : Place) : Respects Core.Alike (locate p) :=
  respects_read fun _ _ => rfl

theorem respects_getFlags : Respects Core.Alike getFlags := respects_read fun _ _ => rfl

/-- Reads a value of width `w` in memory and works on it. -/
theorem respects_readMemory_bind {α : Type} (a : Address) (w : Width) {k : UInt64 → Exec α}
    (h : ∀ value, Respects Core.Alike (k value)) :
    Respects Core.Alike (do k (← readMemory (← resolve a) w)) :=
  (respects_resolve a).bind fun _ => (respects_query fun _ _ => rfl).bind h

theorem respects_source (w : Width) (src : Source) : Respects Core.Alike (source w src) := by
  cases src with
  | register r => exact respects_read fun _ _ => rfl
  | immediate value => exact .pure _
  | memory a => exact (respects_resolve a).bind fun _ => respects_query fun _ _ => rfl

theorem respects_push (w : Width) (value : UInt64) : Respects Core.Alike (push w value) := by
  unfold push
  refine (respects_read fun _ _ => rfl).bind fun rsp => ?_
  refine (respects_read fun _ _ => rfl).bind fun barrier => ?_
  refine (Respects.orFault _ _).bind fun slot => ?_
  exact (respects_writeMemory slot w value).bind fun _ => respects_setRegister .rsp slot

theorem respects_pop (w : Width) : Respects Core.Alike (pop w) := by
  unfold pop
  refine (respects_read fun _ _ => rfl).bind fun rsp => ?_
  refine (respects_guard fun _ _ => rfl).bind fun _ => ?_
  refine (respects_query fun _ _ => rfl).bind fun value => ?_
  exact (respects_setRegister .rsp _).bind fun _ => .pure value

/-! ## The floating-point stack -/

theorem respects_st (i : UInt8) : Respects Core.Alike (st i) := by
  refine .query ?_
  rintro c _ ⟨fpu, alike, rfl⟩
  exact (alike.st i).symm

theorem respects_changeFpu {change : Fpu → Except Fault Fpu} (blind : Fpu.Blind change) :
    Respects Core.Alike (changeFpu change) := by
  rintro c _ ⟨fpu, alike, rfl⟩
  rcases blind c.fpu fpu alike with ⟨f, g, onF, onG, left⟩ | ⟨fault, onF, onG⟩
  · rw [run_changeFpu_ok onF, run_changeFpu_ok (c := { c with fpu := fpu }) onG]
    exact ⟨rfl, g, left, rfl⟩
  · rw [run_changeFpu_error onF, run_changeFpu_error (c := { c with fpu := fpu }) onG]
    exact ⟨rfl, fpu, alike, rfl⟩

theorem respects_popFpu (wanted : Bool) : Respects Core.Alike (popFpu wanted) := by
  unfold popFpu
  split
  · exact respects_changeFpu .pop
  · exact .pure _

theorem respects_floatSource (src : FloatSource) : Respects Core.Alike (floatSource src) := by
  cases src with
  | entry i => exact respects_st i
  | double a => exact respects_readMemory_bind a _ fun _ => .pure _
  | single a => exact respects_readMemory_bind a _ fun _ => .pure _
  | integer a => exact respects_readMemory_bind a _ fun _ => .pure _
  | constant value => exact .pure _

theorem respects_storeFloat (value : Double) (dst : FloatTarget) :
    Respects Core.Alike (storeFloat value dst) := by
  cases dst with
  | entry i => exact respects_changeFpu (.ok fun _ _ alike => alike.store i value)
  | double a => exact (respects_resolve a).bind fun _ => respects_writeMemory _ _ _
  | single a => exact (respects_resolve a).bind fun _ => respects_writeMemory _ _ _
  | integer a => exact (respects_resolve a).bind fun _ => respects_writeMemory _ _ _

theorem respects_runFloatArithmetic (op : FloatOp) (operands : FloatOperands) :
    Respects Core.Alike (runFloatArithmetic op operands) := by
  cases operands with
  | top i =>
    refine (respects_st 0).bind fun a => ?_
    refine (respects_st i).bind fun b => ?_
    exact respects_changeFpu (.setSt 0 _)
  | entry i pop =>
    refine (respects_st i).bind fun a => ?_
    refine (respects_st 0).bind fun b => ?_
    exact (respects_changeFpu (.setSt i _)).bind fun _ => respects_popFpu pop
  | memory a =>
    refine respects_readMemory_bind a _ fun b => ?_
    refine (respects_st 0).bind fun a => ?_
    exact respects_changeFpu (.setSt 0 _)

/-! ## Operations -/

theorem respects_runBinary (op : BinaryOp) (w : Width) (dst : Place) (src : Source) :
    Respects Core.Alike (runBinary op w dst src) := by
  unfold runBinary
  refine (respects_locate dst).bind fun location => ?_
  refine (respects_source w src).bind fun b => ?_
  refine (respects_load w location).bind fun a => ?_
  refine respects_getFlags.bind fun flags => ?_
  refine (respects_setFlags _).bind fun _ => ?_
  split
  · exact respects_store w location _
  · exact .pure _

theorem respects_runUnary (op : UnaryOp) (w : Width) (dst : Place) :
    Respects Core.Alike (runUnary op w dst) := by
  unfold runUnary
  refine (respects_locate dst).bind fun location => ?_
  refine (respects_load w location).bind fun a => ?_
  refine respects_getFlags.bind fun flags => ?_
  exact (respects_setFlags _).bind fun _ => respects_store w location _

theorem respects_runExchange (w : Width) (r : Register) (other : Place) :
    Respects Core.Alike (runExchange w r other) := by
  unfold runExchange
  refine (respects_locate other).bind fun location => ?_
  refine (respects_load w _).bind fun mine => ?_
  refine (respects_load w location).bind fun theirs => ?_
  exact (respects_store w location mine).bind fun _ => respects_setRegisterSized r w theirs

theorem respects_runLoop (kind : LoopKind) (counter w : Width) (target : Source) :
    Respects Core.Alike (runLoop kind counter w target) := by
  unfold runLoop
  refine (respects_source w target).bind fun address => ?_
  refine (respects_read fun _ _ => rfl).bind fun rcx => ?_
  refine (respects_setRegisterSized _ counter _).bind fun _ => ?_
  refine respects_getFlags.bind fun flags => ?_
  split
  · exact respects_jump address
  · exact .pure _

theorem respects_runPop (w : Width) (dst : Place) : Respects Core.Alike (runPop w dst) := by
  unfold runPop
  refine (respects_locate dst).bind fun location => ?_
  exact (respects_pop w).bind fun value => respects_store w location value

/-- No operation tells cores apart that are alike. -/
theorem respects_execute (op : Operation) : Respects Core.Alike (execute op) := by
  cases op with
  | nop => exact .pure _
  | hlt => exact .fail _
  | lea w dst a => exact (respects_resolve a).bind fun _ => respects_setRegisterSized dst w _
  | mov w dst src =>
    refine (respects_locate dst).bind fun location => ?_
    exact (respects_source w src).bind fun value => respects_store w location value
  | xchg w r other => exact respects_runExchange w r other
  | binary op w dst src => exact respects_runBinary op w dst src
  | unary op w dst => exact respects_runUnary op w dst
  | jmp w target => exact (respects_source w target).bind respects_jump
  | jcc cond w target =>
    refine (respects_source w target).bind fun address => ?_
    refine respects_getFlags.bind fun flags => ?_
    split
    · exact respects_jump address
    · exact .pure _
  | loopCc kind counter w target => exact respects_runLoop kind counter w target
  | call w target =>
    refine (respects_source w target).bind fun address => ?_
    refine (respects_read fun _ _ => rfl).bind fun rip => ?_
    exact (respects_push .qword rip).bind fun _ => respects_jump address
  | ret => exact (respects_pop .qword).bind respects_jump
  | push w src => exact (respects_source w src).bind (respects_push w)
  | pop w dst => exact respects_runPop w dst
  | pushf => exact respects_getFlags.bind fun flags => respects_push .qword flags.bits
  | popf =>
    refine (respects_pop .qword).bind fun value => ?_
    exact respects_getFlags.bind fun flags => respects_setFlags _
  | flags change => exact respects_getFlags.bind fun flags => respects_setFlags _
  | finit => exact respects_changeFpu (.ok fun f g _ => .reset f g)
  | fld src =>
    exact (respects_floatSource src).bind fun value => respects_changeFpu (.push value)
  | fst dst pop =>
    refine (respects_st 0).bind fun value => ?_
    exact (respects_storeFloat value dst).bind fun _ => respects_popFpu pop
  | fxch i => exact respects_changeFpu (.swap i)
  | farith op operands => exact respects_runFloatArithmetic op operands
  | funary f => exact (respects_st 0).bind fun value => respects_changeFpu (.setSt 0 _)
  | fcomi i pop =>
    refine (respects_st 0).bind fun a => ?_
    refine (respects_st i).bind fun b => ?_
    refine respects_getFlags.bind fun flags => ?_
    exact (respects_setFlags _).bind fun _ => respects_popFpu pop
  | fstack change =>
    cases change with
    | increment => exact respects_changeFpu (.ok fun _ _ alike => alike.incrementTop)
    | decrement => exact respects_changeFpu (.ok fun _ _ alike => alike.decrementTop)
    | free i => exact respects_changeFpu (.ok fun _ _ alike => alike.free i)

end Exec

end GuestMachine
