import GuestMachine.Proofs.Core.Stack

/-!
# What a faulting operation leaves behind

An operation checks everything it is going to do before it changes anything, but for two: a pop
into memory moves the stack pointer before its destination is checked, and an operation on memory
sets the flags before its result is written back. In particular, the pop at the end of a
floating-point operation cannot fail once the operation has read the top of the stack.
-/

namespace GuestMachine

namespace Fpu

theorem inUse_claim {f : Fpu} {i : UInt8} (s : Fin 8) (value : Double) (h : f.inUse i = true) :
    (f.claim s value).inUse i = true := by
  show (f.used.set s.val true s.isLt)[f.slot i] = true
  unfold inUse at h
  simp only [Fin.getElem_fin, Vector.getElem_set] at h ⊢
  split
  · rfl
  · exact h

theorem inUse_of_st {f : Fpu} {i : UInt8} {value : Double} (h : f.st i = .ok value) :
    f.inUse i = true := by
  unfold st at h
  split at h
  · assumption
  · cases h

theorem setSt_eq_ok {f g : Fpu} {i : UInt8} {value : Double} (h : f.setSt i value = .ok g) :
    g = f.store i value := by
  unfold setSt at h
  split at h
  · exact (Except.ok.inj h).symm
  · cases h

theorem exists_pop {f : Fpu} (h : f.inUse 0 = true) : ∃ g, f.pop.map Prod.snd = .ok g := by
  have top : f.slot 0 = f.top := by simp [slot]
  simp only [inUse, top] at h
  rw [pop, if_pos h]
  exact ⟨_, rfl⟩

end Fpu

/-- A pop into memory that gets its value from the stack, and finds its destination refused. -/
structure Core.RefusesPopped (c : Core) (w : Width) (a : Address) : Prop where
  above : c.memory.stackBarrier ≤ (c.registers.get .rsp).toNat
  read : ∃ value, c.memory.read (c.registers.get .rsp) w = .ok value
  refused : ∃ fault, c.memory.writeFault? (a.resolve c.registers) w.bytes = some fault

/-- An operation on memory that reads its operands and leaves the flags `f`, and finds the place
its result goes to write-protected. -/
inductive Core.RefusesResult (c : Core) : Operation → Flags → Prop
  | binary (op : BinaryOp) (w : Width) (a : Address) (src : Source) (x y : UInt64)
      (stores : op.writesBack = true)
      (given : ((Exec.source w src).run c).1 = .ok y)
      (loaded : c.memory.read (a.resolve c.registers) w = .ok x)
      (refused : c.memory.writeFault? (a.resolve c.registers) w.bytes = some .accessViolation) :
      RefusesResult c (.binary op w (.memory a) src) (op.apply c.flags w x y).2
  | unary (op : UnaryOp) (w : Width) (a : Address) (x : UInt64) (computes : op ≠ .not)
      (loaded : c.memory.read (a.resolve c.registers) w = .ok x)
      (refused : c.memory.writeFault? (a.resolve c.registers) w.bytes = some .accessViolation) :
      RefusesResult c (.unary op w (.memory a)) (op.apply c.flags w x).2

/-- What an operation that faults can leave of the core. -/
inductive Core.Fallout (c : Core) (op : Operation) : Core → Prop
  | nothing : Fallout c op c
  | popped (w : Width) (a : Address) (is : op = .pop w (.memory a))
      (refuses : c.RefusesPopped w a) : Fallout c op (Exec.popped w c)
  | computed (f : Flags) (refuses : c.RefusesResult op f) : Fallout c op { c with flags := f }

namespace Core.Fallout

variable {c c' : Core} {op : Operation}

theorem unmoved (h : c.Fallout op c') :
    c'.memory = c.memory ∧ c'.fpu = c.fpu ∧ c'.rip = c.rip := by
  cases h with
  | nothing | popped w a is refuses | computed f refuses => exact ⟨rfl, rfl, rfl⟩

theorem registers (h : c.Fallout op c') :
    c'.registers = c.registers ∨ ∃ w a, op = .pop w (.memory a) ∧ c.RefusesPopped w a := by
  cases h with
  | nothing | computed f refuses => exact .inl rfl
  | popped w a is refuses => exact .inr ⟨w, a, is, refuses⟩

theorem flags (h : c.Fallout op c') : c'.flags = c.flags ∨ ∃ f, c.RefusesResult op f := by
  cases h with
  | nothing | popped w a is refuses => exact .inl rfl
  | computed f refuses => exact .inr ⟨f, refuses⟩

end Core.Fallout

namespace Exec

open Faulting (FaultsTo Observes)

variable {P : Core → Prop} {c : Core}

/-! ## Accesses -/

theorem faultsTo_writeMemory {address : UInt64} {w : Width} (value : UInt64)
    (holds : ∀ fault, c.memory.writeFault? address w.bytes = some fault → P c) :
    FaultsTo P (writeMemory address w value) c := by
  intro reason c' faulted
  cases fault : c.memory.writeFault? address w.bytes with
  | none =>
    rw [run_writeMemory_ok value fault] at faulted
    cases faulted
  | some reason' =>
    rw [run_writeMemory_error value fault] at faulted
    cases faulted
    exact holds _ fault

theorem faultsTo_store (w : Width) (l : Location) (value : UInt64) (holds : P c) :
    FaultsTo P (store w l value) c := by
  cases l with
  | register r => exact .update _
  | memory address => exact faultsTo_writeMemory value fun _ _ => holds

theorem faultsTo_push (w : Width) (value : UInt64) (holds : P c) :
    FaultsTo P (push w value) c := by
  unfold push
  refine .bind_observes (.read _) holds fun rsp _ => ?_
  refine .bind_observes (.read _) holds fun barrier _ => ?_
  refine .bind_observes (.orFault _ _) holds fun slot _ => ?_
  exact .bind (faultsTo_writeMemory value fun _ _ => holds) fun _ _ _ => .update _

theorem faultsTo_pop (w : Width) (holds : P c) : FaultsTo P (pop w) c := by
  unfold pop
  refine .bind_observes (.read _) holds fun rsp _ => ?_
  refine .bind_observes (.guard _) holds fun _ _ => ?_
  refine .bind_observes (.query _) holds fun value _ => ?_
  exact .bind (.update _) fun _ _ _ => .pure _

theorem faultsTo_changeFpu (f : Fpu → Except Fault Fpu) (holds : P c) :
    FaultsTo P (changeFpu f) c := by
  intro fault c' faulted
  cases outcome : f c.fpu with
  | ok fpu =>
    rw [run_changeFpu_ok outcome] at faulted
    cases faulted
  | error reason =>
    rw [run_changeFpu_error outcome] at faulted
    cases faulted
    exact holds

/-- The top of the floating-point stack can be popped if it is in use. -/
theorem faultsTo_popFpu (wanted : Bool) (held : c.fpu.inUse 0 = true) :
    FaultsTo P (popFpu wanted) c := by
  obtain ⟨fpu, popped⟩ := Fpu.exists_pop held
  unfold popFpu
  split
  · intro fault c' faulted
    rw [run_changeFpu_ok popped] at faulted
    cases faulted
  · exact .pure _

theorem fpu_of_changeFpu {f : Fpu → Except Fault Fpu} {c' : Core}
    (h : (changeFpu f).run c = (.ok (), c')) : f c.fpu = .ok c'.fpu := by
  cases outcome : f c.fpu with
  | ok fpu =>
    rw [run_changeFpu_ok outcome] at h
    cases h
    rfl
  | error fault =>
    rw [run_changeFpu_error outcome] at h
    cases h

theorem fpu_of_writeMemory {address : UInt64} {w : Width} {value : UInt64} {c' : Core}
    (h : (writeMemory address w value).run c = (.ok (), c')) : c'.fpu = c.fpu := by
  cases fault : c.memory.writeFault? address w.bytes with
  | none =>
    rw [run_writeMemory_ok value fault] at h
    cases h
    rfl
  | some reason =>
    rw [run_writeMemory_error value fault] at h
    cases h

/-- Storing the top of the stack leaves it in use. -/
theorem inUse_of_storeFloat {value : Double} {dst : FloatTarget} {c' : Core}
    (h : (storeFloat value dst).run c = (.ok (), c')) (held : c.fpu.inUse 0 = true) :
    c'.fpu.inUse 0 = true := by
  cases dst with
  | entry i =>
    have changed : (changeFpu fun f => .ok (f.store i value)).run c = (.ok (), c') := h
    have stored : Except.ok (c.fpu.store i value) = .ok c'.fpu := fpu_of_changeFpu changed
    rw [← Except.ok.inj stored]
    exact Fpu.inUse_claim _ value held
  | double a | single a | integer a =>
    have resolved : (resolve a).run c = (.ok (a.resolve c.registers), c) := rfl
    rw [storeFloat, Faulting.run_bind_ok resolved] at h
    rw [fpu_of_writeMemory h]
    exact held

theorem faultsTo_storeFloat (value : Double) (dst : FloatTarget) (holds : P c) :
    FaultsTo P (storeFloat value dst) c := by
  cases dst with
  | entry i => exact faultsTo_changeFpu (fun f => .ok (f.store i value)) holds
  | double a | single a | integer a =>
    exact .bind_observes (.read _) holds fun address _ =>
      faultsTo_writeMemory _ fun _ _ => holds

/-! ## Operations -/

theorem faultsTo_runFloatArithmetic (op : FloatOp) (operands : FloatOperands) (holds : P c) :
    FaultsTo P (runFloatArithmetic op operands) c := by
  cases operands with
  | top i =>
    refine .bind_observes (.query _) holds fun a _ => ?_
    refine .bind_observes (.query _) holds fun b _ => ?_
    exact faultsTo_changeFpu _ holds
  | entry i pop =>
    refine .bind_observes (.query _) holds fun a _ => ?_
    refine .bind_observes (.query _) holds fun b read => ?_
    refine .bind (faultsTo_changeFpu _ holds) fun _ c' changed => ?_
    -- The top was read, and overwriting entry `i` releases nothing.
    apply faultsTo_popFpu
    rw [Fpu.setSt_eq_ok (fpu_of_changeFpu changed)]
    exact Fpu.inUse_claim _ _ (Fpu.inUse_of_st (congrArg Prod.fst read))
  | memory a =>
    refine .bind_observes (.read _) holds fun address _ => ?_
    refine .bind_observes (.query _) holds fun b _ => ?_
    refine .bind_observes (.query _) holds fun a _ => ?_
    exact faultsTo_changeFpu _ holds

theorem faultsTo_runExchange (w : Width) (r : Register) (other : Place) (holds : P c) :
    FaultsTo P (runExchange w r other) c := by
  unfold runExchange
  refine .bind_observes (.read _) holds fun location _ => ?_
  refine .bind_observes (observes_load w _) holds fun mine _ => ?_
  refine .bind_observes (observes_load w location) holds fun theirs _ => ?_
  exact .bind (faultsTo_store w location mine holds) fun _ _ _ => .update _

theorem faultsTo_runLoop (kind : LoopKind) (counter w : Width) (target : Source) (holds : P c) :
    FaultsTo P (runLoop kind counter w target) c := by
  unfold runLoop
  refine .bind_observes (observes_source w target) holds fun address _ => ?_
  refine .bind_observes (.read _) holds fun rcx _ => ?_
  refine .bind (.update _) fun _ _ _ => ?_
  refine .bind (.read _) fun flags _ _ => ?_
  split
  · exact .update _
  · exact .pure _

/-- The flags of a result in memory stay even if the result is refused. -/
theorem faultsTo_runBinary (op : BinaryOp) (w : Width) (dst : Place) (src : Source) :
    FaultsTo (c.Fallout (.binary op w dst src)) (runBinary op w dst src) c := by
  unfold runBinary
  refine .bind_observes (.read _) .nothing fun location located => ?_
  refine .bind_observes (observes_source w src) .nothing fun y given => ?_
  refine .bind_observes (observes_load w location) .nothing fun x loaded => ?_
  refine .bind_observes (.read _) .nothing fun flags read => ?_
  obtain rfl : dst.locate c.registers = location := Except.ok.inj (congrArg Prod.fst located)
  obtain rfl : c.flags = flags := Except.ok.inj (congrArg Prod.fst read)
  refine .bind (.update _) fun _ c' set => ?_
  obtain rfl : { c with flags := (op.apply c.flags w x y).2 } = c' := congrArg Prod.snd set
  split
  · next stores =>
    cases dst with
    | register r => exact .update _
    | memory a =>
      refine faultsTo_writeMemory _ fun fault refused => ?_
      have load : c.memory.read (a.resolve c.registers) w = .ok x := congrArg Prod.fst loaded
      obtain rfl := Memory.writeFault?_of_read load refused
      exact .computed _ (.binary op w a src x y stores (congrArg Prod.fst given) load refused)
  · exact .pure _

theorem faultsTo_runUnary (op : UnaryOp) (w : Width) (dst : Place) :
    FaultsTo (c.Fallout (.unary op w dst)) (runUnary op w dst) c := by
  unfold runUnary
  refine .bind_observes (.read _) .nothing fun location located => ?_
  refine .bind_observes (observes_load w location) .nothing fun x loaded => ?_
  refine .bind_observes (.read _) .nothing fun flags read => ?_
  obtain rfl : dst.locate c.registers = location := Except.ok.inj (congrArg Prod.fst located)
  obtain rfl : c.flags = flags := Except.ok.inj (congrArg Prod.fst read)
  refine .bind (.update _) fun _ c' set => ?_
  obtain rfl : { c with flags := (op.apply c.flags w x).2 } = c' := congrArg Prod.snd set
  cases dst with
  | register r => exact .update _
  | memory a =>
    refine faultsTo_writeMemory _ fun fault refused => ?_
    have load : c.memory.read (a.resolve c.registers) w = .ok x := congrArg Prod.fst loaded
    obtain rfl := Memory.writeFault?_of_read load refused
    by_cases complement : op = .not
    · subst complement
      exact .nothing
    · exact .computed _ (.unary op w a x complement load refused)

/-- The stack pointer has moved even if the destination is refused. -/
theorem faultsTo_runPop (w : Width) (dst : Place) :
    FaultsTo (c.Fallout (.pop w dst)) (runPop w dst) c := by
  unfold runPop
  refine .bind_observes (.read _) .nothing fun location located => ?_
  obtain rfl : dst.locate c.registers = location := Except.ok.inj (congrArg Prod.fst located)
  refine .bind (faultsTo_pop w .nothing) fun value c' taken => ?_
  cases dst with
  | register r => exact .update _
  | memory a =>
    obtain ⟨above, read, rfl⟩ := run_pop_eq_ok taken
    refine faultsTo_writeMemory _ fun fault refused => ?_
    exact .popped w a rfl ⟨above, ⟨value, read⟩, ⟨fault, refused⟩⟩

/-- Whatever operation faults, it leaves the core as it was, with the stack pointer moved by a pop
that was refused, or with the flags of a result that was refused. -/
theorem faultsTo_execute (op : Operation) (c : Core) :
    FaultsTo (c.Fallout op) (execute op) c := by
  cases op with
  | nop => exact .pure _
  | hlt => exact .of_observes (.fail _) .nothing
  | lea w dst a => exact .bind_observes (.read _) .nothing fun address _ => .update _
  | mov w dst src =>
    refine .bind_observes (.read _) .nothing fun location _ => ?_
    refine .bind_observes (observes_source w src) .nothing fun value _ => ?_
    exact faultsTo_store w location value .nothing
  | xchg w r other => exact faultsTo_runExchange w r other .nothing
  | binary op w dst src => exact faultsTo_runBinary op w dst src
  | unary op w dst => exact faultsTo_runUnary op w dst
  | jmp w target =>
    exact .bind_observes (observes_source w target) .nothing fun address _ => .update _
  | jcc cond w target =>
    refine .bind_observes (observes_source w target) .nothing fun address _ => ?_
    refine .bind_observes (.read _) .nothing fun flags _ => ?_
    split
    · exact .update _
    · exact .pure _
  | loopCc kind counter w target => exact faultsTo_runLoop kind counter w target .nothing
  | call w target =>
    refine .bind_observes (observes_source w target) .nothing fun address _ => ?_
    refine .bind_observes (.read _) .nothing fun rip _ => ?_
    exact .bind (faultsTo_push .qword rip .nothing) fun _ _ _ => .update _
  | ret => exact .bind (faultsTo_pop .qword .nothing) fun address _ _ => .update _
  | push w src =>
    refine .bind_observes (observes_source w src) .nothing fun value _ => ?_
    exact faultsTo_push w value .nothing
  | pop w dst => exact faultsTo_runPop w dst
  | pushf =>
    exact .bind_observes (.read _) .nothing fun flags _ => faultsTo_push .qword _ .nothing
  | popf =>
    refine .bind (faultsTo_pop .qword .nothing) fun value _ _ => ?_
    exact .bind (.read _) fun flags _ _ => .update _
  | flags change => exact .bind_observes (.read _) .nothing fun flags _ => .update _
  | finit => exact faultsTo_changeFpu (fun f => .ok f.reset) .nothing
  | fld src =>
    refine .bind_observes (observes_floatSource src) .nothing fun value _ => ?_
    exact faultsTo_changeFpu _ .nothing
  | fst dst pop =>
    refine .bind_observes (.query _) .nothing fun value read => ?_
    refine .bind (faultsTo_storeFloat value dst .nothing) fun _ c' stored => ?_
    exact faultsTo_popFpu pop
      (inUse_of_storeFloat stored (Fpu.inUse_of_st (congrArg Prod.fst read)))
  | fxch i => exact faultsTo_changeFpu (fun f => f.swap i) .nothing
  | farith op operands => exact faultsTo_runFloatArithmetic op operands .nothing
  | funary f =>
    refine .bind_observes (.query _) .nothing fun value _ => ?_
    exact faultsTo_changeFpu _ .nothing
  | fcomi i pop =>
    refine .bind_observes (.query _) .nothing fun a read => ?_
    refine .bind_observes (.query _) .nothing fun b _ => ?_
    refine .bind_observes (.read _) .nothing fun flags _ => ?_
    refine .bind (.update _) fun _ c' set => ?_
    obtain rfl : { c with flags := flags.compared (a.compare? b) } = c' := congrArg Prod.snd set
    exact faultsTo_popFpu pop (Fpu.inUse_of_st (congrArg Prod.fst read))
  | fstack change =>
    cases change with
    | increment => exact faultsTo_changeFpu (fun f => .ok f.incrementTop) .nothing
    | decrement => exact faultsTo_changeFpu (fun f => .ok f.decrementTop) .nothing
    | free i => exact faultsTo_changeFpu (fun f => .ok (f.free i)) .nothing

/-! ## The two exceptions -/

theorem run_of_refusesPopped {w : Width} {a : Address} (h : c.RefusesPopped w a) :
    ∃ fault, (execute (.pop w (.memory a))).run c = (.error fault, popped w c) := by
  obtain ⟨above, ⟨value, read⟩, fault, refused⟩ := h
  have taken : (pop w).run c = (.ok value, popped w c) := by
    rw [run_pop, if_neg (Nat.not_lt_of_le above), read]
  have located : (locate (.memory a)).run c = (.ok (.memory (a.resolve c.registers)), c) := rfl
  refine ⟨fault, ?_⟩
  rw [execute, runPop, Faulting.run_bind_ok located, Faulting.run_bind_ok taken]
  exact run_writeMemory_error value refused

theorem run_of_refusesResult {op : Operation} {f : Flags} (h : c.RefusesResult op f) :
    (execute op).run c = (.error .accessViolation, { c with flags := f }) := by
  have located : ∀ a, (locate (.memory a)).run c =
      (.ok (.memory (a.resolve c.registers)), c) := fun _ => rfl
  have read : getFlags.run c = (.ok c.flags, c) := rfl
  have set : ∀ g, (setFlags g).run c = (.ok (), { c with flags := g }) := fun _ => rfl
  cases h with
  | binary op w a src x y stores given loaded refused =>
    have source : (source w src).run c = (.ok y, c) := Prod.ext given (observes_source w src c)
    have load : (load w (.memory (a.resolve c.registers))).run c = (.ok x, c) :=
      Prod.ext loaded rfl
    rw [execute, runBinary, Faulting.run_bind_ok (located a), Faulting.run_bind_ok source,
      Faulting.run_bind_ok load, Faulting.run_bind_ok read, Faulting.run_bind_ok (set _),
      if_pos stores]
    exact run_writeMemory_error _ refused
  | unary op w a x computes loaded refused =>
    have load : (load w (.memory (a.resolve c.registers))).run c = (.ok x, c) :=
      Prod.ext loaded rfl
    rw [execute, runUnary, Faulting.run_bind_ok (located a), Faulting.run_bind_ok load,
      Faulting.run_bind_ok read, Faulting.run_bind_ok (set _)]
    exact run_writeMemory_error _ refused

end Exec

end GuestMachine
