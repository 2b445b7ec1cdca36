import GuestMachine.Proofs.Core.Access

/-!
# Which parts of the core an operation touches

Every operation has a footprint: the registers it may write, and whether it may write memory, the
instruction pointer, the flags and the floating-point stack. All it does are accesses inside its
footprint, so the rest of the core is the same afterwards, also when it faults half-way.
-/

namespace GuestMachine

open Relation (ReflTransGen)

/-- Some parts of the core. -/
structure Footprint where
  registers : List Register := []
  memory : Bool := false
  rip : Bool := false
  flags : Bool := false
  fpu : Bool := false
deriving DecidableEq

namespace Core

variable {p : Footprint} {c c' c'' : Core}

/-- The cores agree on everything outside the footprint `p`. -/
structure SameOutside (p : Footprint) (c c' : Core) : Prop where
  registers : ∀ r ∉ p.registers, c'.registers.get r = c.registers.get r
  memory : p.memory = false → c'.memory = c.memory
  rip : p.rip = false → c'.rip = c.rip
  flags : p.flags = false → c'.flags = c.flags
  fpu : p.fpu = false → c'.fpu = c.fpu

namespace SameOutside

theorem refl (p : Footprint) (c : Core) : c.SameOutside p c :=
  ⟨fun _ _ => rfl, fun _ => rfl, fun _ => rfl, fun _ => rfl, fun _ => rfl⟩

theorem trans (first : c.SameOutside p c') (second : c'.SameOutside p c'') :
    c.SameOutside p c'' where
  registers r outside := (second.registers r outside).trans (first.registers r outside)
  memory outside := (second.memory outside).trans (first.memory outside)
  rip outside := (second.rip outside).trans (first.rip outside)
  flags outside := (second.flags outside).trans (first.flags outside)
  fpu outside := (second.fpu outside).trans (first.fpu outside)

theorem setRegister {r : Register} (covered : r ∈ p.registers) (value : UInt64) (c : Core) :
    c.SameOutside p { c with registers := c.registers.set r value } where
  registers other outside := by
    have differs : r ≠ other := fun same => outside (same ▸ covered)
    exact Registers.get_set_of_ne _ _ differs
  memory _ := rfl
  rip _ := rfl
  flags _ := rfl
  fpu _ := rfl

end SameOutside

/-- A single access to the core inside the footprint `p`. -/
structure Touch (p : Footprint) (c c' : Core) : Prop where
  access : c.Access c'
  same : c.SameOutside p c'

theorem sameOutside_of_touches (h : ReflTransGen (Touch p) c c') : c.SameOutside p c' := by
  induction h with
  | refl => exact .refl p c
  | tail _ last ih => exact ih.trans last.same

end Core

/-- The part of the core that holds a place. -/
def Place.footprint : Place → Footprint
  | .register r => { registers := [r] }
  | .memory _ => { memory := true }

/-- The part of the core that a store from the floating-point stack writes. -/
def FloatTarget.footprint : FloatTarget → Footprint
  | .entry _ => { fpu := true }
  | .double _ | .single _ | .integer _ => { memory := true }

/-- The parts of the core that an operation may change. -/
def Operation.footprint : Operation → Footprint
  | .nop | .hlt => {}
  | .lea _ dst _ => { registers := [dst] }
  | .mov _ dst _ => dst.footprint
  | .xchg _ r other => { other.footprint with registers := r :: other.footprint.registers }
  | .binary op _ dst _ =>
    if op.writesBack then { dst.footprint with flags := true } else { flags := true }
  | .unary op _ dst => { dst.footprint with flags := decide (op ≠ .not) }
  | .jmp _ _ | .jcc _ _ _ => { rip := true }
  | .loopCc _ _ _ _ => { registers := [.rcx], rip := true }
  | .call _ _ => { registers := [.rsp], memory := true, rip := true }
  | .ret => { registers := [.rsp], rip := true }
  | .push _ _ | .pushf => { registers := [.rsp], memory := true }
  | .pop _ dst => { dst.footprint with registers := .rsp :: dst.footprint.registers }
  | .popf => { registers := [.rsp], flags := true }
  | .flags _ => { flags := true }
  | .fst dst pops => { dst.footprint with fpu := dst.footprint.fpu || pops }
  | .fcomi _ pops => { flags := true, fpu := pops }
  | .finit | .fld _ | .fxch _ | .farith _ _ | .funary _ | .fstack _ => { fpu := true }

/-- The footprint has room for a write to the location. -/
def Footprint.Covers (p : Footprint) : Location → Prop
  | .register r => r ∈ p.registers
  | .memory _ => p.memory = true

namespace Exec

open Faulting (Within)

variable {p : Footprint} {c : Core}

/-! ## Accesses -/

theorem touches_writeMemory (covered : p.memory = true) (address : UInt64) (w : Width)
    (value : UInt64) : Within (Core.Touch p) (writeMemory address w value) c := by
  unfold Within
  cases writable : c.memory.writeFault? address w.bytes with
  | none =>
    rw [run_writeMemory_ok value writable]
    refine .single ⟨.memory address w value writable, ?_⟩
    exact ⟨fun _ _ => rfl, fun apart => (nomatch covered.symm.trans apart), fun _ => rfl,
      fun _ => rfl, fun _ => rfl⟩
  | some fault => rw [run_writeMemory_error value writable]

theorem touches_setRegister {r : Register} (covered : r ∈ p.registers) (value : UInt64) :
    Within (Core.Touch p) (setRegister r value) c :=
  .update ⟨.registers _, .setRegister covered value c⟩

theorem touches_setRegisterSized {r : Register} (covered : r ∈ p.registers) (w : Width)
    (value : UInt64) : Within (Core.Touch p) (setRegisterSized r w value) c :=
  .update ⟨.registers _, .setRegister covered _ c⟩

theorem touches_jump (covered : p.rip = true) (address : UInt64) :
    Within (Core.Touch p) (jump address) c :=
  .update ⟨.rip address, fun _ _ => rfl, fun _ => rfl,
    fun apart => (nomatch covered.symm.trans apart), fun _ => rfl, fun _ => rfl⟩

theorem touches_setFlags {f : Flags} (covered : p.flags = false → f = c.flags)
    (update : c.flags.Update f) : Within (Core.Touch p) (setFlags f) c :=
  .update ⟨.flags f update, fun _ _ => rfl, fun _ => rfl, fun _ => rfl, covered, fun _ => rfl⟩

theorem touches_changeFpu (covered : p.fpu = true) (f : Fpu → Except Fault Fpu) :
    Within (Core.Touch p) (changeFpu f) c := by
  unfold Within
  cases outcome : f c.fpu with
  | ok fpu =>
    rw [run_changeFpu_ok outcome]
    refine .single ⟨.fpu fpu, ?_⟩
    exact ⟨fun _ _ => rfl, fun _ => rfl, fun _ => rfl, fun _ => rfl,
      fun apart => (nomatch covered.symm.trans apart)⟩
  | error fault => rw [run_changeFpu_error outcome]

theorem touches_popFpu {wanted : Bool} (covered : wanted = true → p.fpu = true) :
    Within (Core.Touch p) (popFpu wanted) c := by
  unfold popFpu
  split
  · next popped => exact touches_changeFpu (covered popped) _
  · exact .of_observes (.pure _)

theorem touches_store {l : Location} (covered : p.Covers l) (w : Width) (value : UInt64) :
    Within (Core.Touch p) (store w l value) c := by
  cases l with
  | register r => exact touches_setRegisterSized covered w value
  | memory address => exact touches_writeMemory covered address w value

theorem touches_push (stack : .rsp ∈ p.registers) (memory : p.memory = true) (w : Width)
    (value : UInt64) : Within (Core.Touch p) (push w value) c := by
  unfold push
  refine .bind_observes (.read _) fun rsp _ => ?_
  refine .bind_observes (.read _) fun barrier _ => ?_
  refine .bind_observes (.orFault _ _) fun slot _ => ?_
  exact .bind (touches_writeMemory memory slot w value) fun _ _ _ => touches_setRegister stack slot

theorem touches_pop (stack : .rsp ∈ p.registers) (w : Width) :
    Within (Core.Touch p) (pop w) c := by
  unfold pop
  refine .bind_observes (.read _) fun rsp _ => ?_
  refine .bind_observes (.guard _) fun _ _ => ?_
  refine .bind_observes (.query _) fun value _ => ?_
  exact .bind (touches_setRegister stack _) fun _ _ _ => .of_observes (.pure _)

theorem touches_locate_bind {β : Type} {dst : Place} {k : Location → Exec β}
    (h : Within (Core.Touch p) (k (dst.locate c.registers)) c) :
    Within (Core.Touch p) (locate dst >>= k) c := by
  have located : (locate dst).run c = (.ok (dst.locate c.registers), c) := Faulting.run_read _ _
  unfold Within at h ⊢
  rwa [Faulting.run_bind_ok located]

/-- The flags are read and set in one go, so that the new ones are an update of the old ones. -/
theorem touches_getFlags_bind {β : Type} {k : Flags → Exec β}
    (h : Within (Core.Touch p) (k c.flags) c) : Within (Core.Touch p) (getFlags >>= k) c := h

/-! ## Operations -/

theorem touches_runBinary (op : BinaryOp) (w : Width) (dst : Place) (src : Source) :
    Within (Core.Touch (Operation.binary op w dst src).footprint) (runBinary op w dst src) c := by
  have flags : (Operation.binary op w dst src).footprint.flags = true := by
    cases op <;> rfl
  refine touches_locate_bind ?_
  refine .bind_observes (observes_source w src) fun b _ => ?_
  refine .bind_observes (observes_load w _) fun a _ => ?_
  refine touches_getFlags_bind ?_
  refine .bind (touches_setFlags (by simp [flags]) (.binary op w a b)) fun _ _ _ => ?_
  split
  · next stores =>
    refine touches_store ?_ w _
    cases dst <;>
      simp [Operation.footprint, stores, Footprint.Covers, Place.locate, Place.footprint]
  · exact .of_observes (.pure _)

theorem touches_runUnary (op : UnaryOp) (w : Width) (dst : Place) :
    Within (Core.Touch (Operation.unary op w dst).footprint) (runUnary op w dst) c := by
  refine touches_locate_bind ?_
  refine .bind_observes (observes_load w _) fun a _ => ?_
  refine touches_getFlags_bind ?_
  refine .bind (touches_setFlags ?_ (.unary op w a)) fun _ _ _ => ?_
  · -- A complement gives back the flags it was given.
    cases op <;> simp [Operation.footprint]
  · refine touches_store ?_ w _
    cases dst <;> simp [Operation.footprint, Footprint.Covers, Place.locate, Place.footprint]

theorem touches_runExchange (w : Width) (r : Register) (other : Place) :
    Within (Core.Touch (Operation.xchg w r other).footprint) (runExchange w r other) c := by
  refine touches_locate_bind ?_
  refine .bind_observes (observes_load w _) fun mine _ => ?_
  refine .bind_observes (observes_load w _) fun theirs _ => ?_
  refine .bind (touches_store ?_ w mine) fun _ _ _ => ?_
  · cases other <;> simp [Operation.footprint, Footprint.Covers, Place.locate, Place.footprint]
  · exact touches_setRegisterSized (by simp [Operation.footprint]) w theirs

theorem touches_runLoop (kind : LoopKind) (counter w : Width) (target : Source) :
    Within (Core.Touch (Operation.loopCc kind counter w target).footprint)
      (runLoop kind counter w target) c := by
  refine .bind_observes (observes_source w target) fun address _ => ?_
  refine .bind_observes (.read _) fun rcx _ => ?_
  refine .bind (touches_setRegisterSized (by simp [Operation.footprint]) counter _) fun _ _ _ => ?_
  refine touches_getFlags_bind ?_
  split
  · exact touches_jump rfl address
  · exact .of_observes (.pure _)

theorem touches_runPop (w : Width) (dst : Place) :
    Within (Core.Touch (Operation.pop w dst).footprint) (runPop w dst) c := by
  refine touches_locate_bind ?_
  refine .bind (touches_pop (by simp [Operation.footprint]) w) fun value _ _ => ?_
  refine touches_store ?_ w value
  cases dst <;> simp [Operation.footprint, Footprint.Covers, Place.locate, Place.footprint]

theorem touches_storeFloat (value : Double) (dst : FloatTarget) (pop : Bool) :
    Within (Core.Touch (Operation.fst dst pop).footprint) (storeFloat value dst) c := by
  cases dst with
  | entry i => exact touches_changeFpu rfl _
  | double a | single a | integer a =>
    exact .bind_observes (.read _) fun address _ => touches_writeMemory rfl address _ _

theorem touches_runFloatArithmetic (op : FloatOp) (operands : FloatOperands) :
    Within (Core.Touch (Operation.farith op operands).footprint) (runFloatArithmetic op operands)
      c := by
  cases operands with
  | top i =>
    refine .bind_observes (.query _) fun a _ => ?_
    refine .bind_observes (.query _) fun b _ => ?_
    exact touches_changeFpu rfl _
  | entry i pop =>
    refine .bind_observes (.query _) fun a _ => ?_
    refine .bind_observes (.query _) fun b _ => ?_
    exact .bind (touches_changeFpu rfl _) fun _ _ _ => touches_popFpu fun _ => rfl
  | memory a =>
    refine .bind_observes (.read _) fun address _ => ?_
    refine .bind_observes (.query _) fun b _ => ?_
    refine .bind_observes (.query _) fun a _ => ?_
    exact touches_changeFpu rfl _

/-- Every operation is a sequence of accesses inside its footprint, whether it completes or
faults. -/
theorem touches_execute (op : Operation) (c : Core) :
    Within (Core.Touch op.footprint) (execute op) c := by
  cases op with
  | nop => exact .of_observes (.pure _)
  | hlt => exact .of_observes (.fail _)
  | lea w dst a =>
    exact .bind_observes (.read _) fun address _ =>
      touches_setRegisterSized (by simp [Operation.footprint]) w address
  | mov w dst src =>
    refine touches_locate_bind ?_
    refine .bind_observes (observes_source w src) fun value _ => ?_
    refine touches_store ?_ w value
    cases dst <;> simp [Operation.footprint, Footprint.Covers, Place.locate, Place.footprint]
  | xchg w r other => exact touches_runExchange w r other
  | binary op w dst src => exact touches_runBinary op w dst src
  | unary op w dst => exact touches_runUnary op w dst
  | jmp w target =>
    exact .bind_observes (observes_source w target) fun address _ => touches_jump rfl address
  | jcc cond w target =>
    refine .bind_observes (observes_source w target) fun address _ => ?_
    refine touches_getFlags_bind ?_
    split
    · exact touches_jump rfl address
    · exact .of_observes (.pure _)
  | loopCc kind counter w target => exact touches_runLoop kind counter w target
  | call w target =>
    refine .bind_observes (observes_source w target) fun address _ => ?_
    refine .bind_observes (.read _) fun rip _ => ?_
    refine .bind (touches_push (by simp [Operation.footprint]) rfl .qword rip) fun _ _ _ => ?_
    exact touches_jump rfl address
  | ret =>
    exact .bind (touches_pop (by simp [Operation.footprint]) .qword) fun address _ _ =>
      touches_jump rfl address
  | push w src =>
    exact .bind_observes (observes_source w src) fun value _ =>
      touches_push (by simp [Operation.footprint]) rfl w value
  | pop w dst => exact touches_runPop w dst
  | pushf =>
    exact touches_getFlags_bind (touches_push (by simp [Operation.footprint]) rfl .qword _)
  | popf =>
    refine .bind (touches_pop (by simp [Operation.footprint]) .qword) fun value _ _ => ?_
    exact touches_getFlags_bind (touches_setFlags (by simp [Operation.footprint]) (.restored value))
  | flags change =>
    exact touches_getFlags_bind (touches_setFlags (by simp [Operation.footprint]) (.changed change))
  | fld src =>
    exact .bind_observes (observes_floatSource src) fun value _ => touches_changeFpu rfl _
  | fst dst pop =>
    refine .bind_observes (.query _) fun value _ => ?_
    refine .bind (touches_storeFloat value dst pop) fun _ _ _ => ?_
    exact touches_popFpu fun popped => by simp [Operation.footprint, popped]
  | finit | fxch i => exact touches_changeFpu rfl _
  | farith op operands => exact touches_runFloatArithmetic op operands
  | funary f => exact .bind_observes (.query _) fun value _ => touches_changeFpu rfl _
  | fcomi i pop =>
    refine .bind_observes (.query _) fun a _ => ?_
    refine .bind_observes (.query _) fun b _ => ?_
    refine touches_getFlags_bind ?_
    refine .bind (touches_setFlags (by simp [Operation.footprint]) (.compared _)) fun _ _ _ => ?_
    exact touches_popFpu id
  | fstack change =>
    cases change with
    | increment | decrement | free i => exact touches_changeFpu rfl _

theorem within_access {α : Type} {x : Exec α} (h : Within (Core.Touch p) x c) :
    Within Core.Access x c := h.mono fun _ _ => Core.Touch.access

theorem within_execute (op : Operation) (c : Core) : Within Core.Access (execute op) c :=
  within_access (touches_execute op c)

theorem within_push (w : Width) (value : UInt64) : Within Core.Access (push w value) c :=
  within_access (touches_push (p := (Operation.pushf).footprint) (by decide) rfl w value)

theorem within_pop (w : Width) : Within Core.Access (pop w) c :=
  within_access (touches_pop (p := (Operation.popf).footprint) (by decide) w)

/-- An operation leaves everything outside its footprint as it was. -/
theorem sameOutside_execute (op : Operation) (c : Core) :
    c.SameOutside op.footprint ((execute op).run c).2 :=
  Core.sameOutside_of_touches (touches_execute op c)

end Exec

end GuestMachine
