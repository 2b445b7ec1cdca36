import GuestMachine.Proofs.Core.Write
import GuestMachine.Proofs.EffectiveAddress
import GuestMachine.Proofs.Machine.Footprint

/-!
# What an instruction leaves alone

Opcode and operands tell beforehand which parts of the core an instruction may change. Nothing else
of the core is different afterwards, and nothing outside the core but by a system call.
-/

namespace GuestMachine

/-- A place of which an operand byte says that it is memory, or else the register `r`. -/
def Footprint.place (memory : Bool) (r : Register) : Footprint :=
  if memory then { memory := true } else { registers := [r] }

theorem Footprint.place_without_flags (memory : Bool) (r : Register) :
    { Footprint.place memory r with flags := false } = Footprint.place memory r := by
  cases memory <;> rfl

/-- The parts of the core that an instruction may change besides the instruction pointer, by its
opcode and the bytes behind it. -/
def Opcode.frame (op : Opcode) (operands : Bytes) : Footprint :=
  let settings := operands.headD 0
  let form := OperandForm.ofByte settings
  let named := Register.ofByte form.register
  match op with
  | nop | hlt | jmp | jcc => {}
  | syscall => { registers := [.rax], memory := true }
  | lea => { registers := [named] }
  | mov => .place (form.mode == 3) named
  | add | sub | and | or | xor | imul =>
    { Footprint.place (form.mode == 3) named with flags := true }
  | cmp | test | flagOp => { flags := true }
  | inc | dec | neg => { Footprint.place (form.mode &&& 1 != 0) named with flags := true }
  | not => .place (form.mode &&& 1 != 0) named
  | xchg =>
    let other := Footprint.place (form.mode &&& 1 != 0) (Register.ofByte (operands.tail.headD 0))
    { other with registers := named :: other.registers }
  | loopCc => { registers := [.rcx] }
  | push | pushf | call => { registers := [.rsp], memory := true }
  | ret => { registers := [.rsp] }
  | popf => { registers := [.rsp], flags := true }
  | pop =>
    let destination := Footprint.place (form.mode == 2) named
    { destination with registers := .rsp :: destination.registers }
  | fst =>
    let entry := (settings >>> 4) &&& 7 == 0
    { memory := !entry, fpu := entry || settings &&& 0x80 != 0 }
  | fcomi => { flags := true, fpu := settings &&& 0x80 != 0 }
  | finit | fld | fxch | farith | funary | fstack => { fpu := true }

/-- The operation has the footprint `p`, apart from the instruction pointer. -/
def Operation.FramedBy (p : Footprint) (o : Operation) : Prop :=
  { o.footprint with rip := p.rip } = p

theorem Operation.FramedBy.of_eq {p : Footprint} {o : Operation} (h : o.footprint = p) :
    o.FramedBy p := by
  rw [← h]
  rfl

/-- A system call, or an operation with the footprint `p`. -/
def Instruction.FramedBy (p : Footprint) : Instruction → Prop
  | .syscall => True
  | .operation o => o.FramedBy p

/-! ## Reading operands -/

namespace Fetch

variable {input : Bytes}

/-- The operand byte at the front. -/
abbrev formAt (input : Bytes) : OperandForm := OperandForm.ofByte (input.headD 0)

/-- The register that the operand byte at the front names. -/
abbrev registerAt (input : Bytes) : Register := Register.ofByte (formAt input).register

theorem gives_binary : Gives (fun parts =>
    parts.2.1.footprint = .place ((formAt input).mode == 3) (registerAt input)) binary input := by
  refine .byte_bind fun b tail split => ?_
  subst split
  unfold formAt
  rw [List.headD_cons]
  dsimp only
  rcases OperandForm.mode_cases b with mode | mode | mode | mode <;> rw [mode]
  · exact .bind_pure fun _ _ _ => rfl
  · exact .bind_pure fun _ _ _ => rfl
  · exact .bind_pure fun _ _ _ => rfl
  · exact .bind_pure fun _ _ _ => rfl

theorem gives_unary : Gives (fun parts => parts.2.footprint =
    .place ((formAt input).mode &&& 1 != 0) (registerAt input)) unary input := by
  refine .byte_bind fun b tail split => ?_
  subst split
  unfold formAt
  rw [List.headD_cons]
  dsimp only
  rcases OperandForm.mode_cases b with mode | mode | mode | mode <;> rw [mode]
  · exact .pure rfl
  · exact .bind_pure fun _ _ _ => rfl
  · exact .pure rfl
  · exact .bind_pure fun _ _ _ => rfl

theorem gives_exchange : Gives (fun parts => parts.2.1 = registerAt input ∧ parts.2.2.footprint =
    .place ((formAt input).mode &&& 1 != 0) (Register.ofByte (input.tail.headD 0)))
    exchange input := by
  refine .byte_bind fun b tail split => ?_
  subst split
  unfold formAt
  rw [List.headD_cons, List.tail_cons]
  dsimp only
  rcases OperandForm.mode_cases b with mode | mode | mode | mode <;> rw [mode]
  · refine .byte_bind fun second rest split => ?_
    subst split
    exact .pure ⟨rfl, rfl⟩
  · exact .bind_pure fun _ _ _ => ⟨rfl, rfl⟩
  · refine .byte_bind fun second rest split => ?_
    subst split
    exact .pure ⟨rfl, rfl⟩
  · exact .bind_pure fun _ _ _ => ⟨rfl, rfl⟩

theorem gives_popTarget : Gives (fun o => ∃ w dst, o = .pop w dst ∧
    dst.footprint = .place ((formAt input).mode == 2) (registerAt input)) popTarget input := by
  refine .byte_bind fun b tail split => .guarded ?_
  subst split
  unfold formAt
  rw [List.headD_cons]
  rcases OperandForm.mode_cases b with mode | mode | mode | mode <;> rw [mode]
  · exact .pure ⟨_, _, rfl, rfl⟩
  · exact .fail _
  · exact .bind_pure fun _ _ _ => ⟨_, _, rfl, rfl⟩
  · exact .fail _

theorem gives_floatStore : Gives (Operation.FramedBy
    { memory := !((input.headD 0 >>> 4) &&& 7 == 0),
      fpu := ((input.headD 0 >>> 4) &&& 7 == 0) || input.headD 0 &&& 0x80 != 0 })
    floatStore input := by
  refine .byte_bind fun b tail split => ?_
  subst split
  rw [List.headD_cons]
  dsimp only
  generalize (b >>> 4) &&& 7 = kind
  split
  · exact .pure rfl
  · exact .bind_pure fun _ _ _ => rfl
  · exact .bind_pure fun _ _ _ => rfl
  · exact .bind_pure fun _ _ _ => rfl
  · exact .fail _

theorem gives_floatLoad : Gives (Operation.FramedBy { fpu := true }) floatLoad input := by
  refine .bind fun settings rest _ => ?_
  split
  · exact .pure rfl
  · exact .bind_pure fun _ _ _ => rfl
  · exact .bind_pure fun _ _ _ => rfl
  · exact .bind_pure fun _ _ _ => rfl
  · exact .bind_pure fun _ _ _ => rfl
  · exact .fail _

theorem gives_floatArithmetic :
    Gives (Operation.FramedBy { fpu := true }) floatArithmetic input := by
  refine .bind fun settings rest _ => .bind fun op rest _ => ?_
  dsimp only
  split
  · exact .pure rfl
  · exact .pure rfl
  · exact .pure rfl
  · exact .bind_pure fun _ _ _ => rfl

theorem gives_floatStackChange :
    Gives (Operation.FramedBy { fpu := true }) floatStackChange input := by
  refine .bind fun settings rest _ => ?_
  split
  · exact .pure rfl
  · exact .pure rfl
  · exact .pure rfl
  · exact .fail _

/-- A comparison has no destination. -/
theorem gives_binaryOperation (op : BinaryOp) : Gives (Operation.FramedBy
    (if op.writesBack then
      { Footprint.place ((formAt input).mode == 3) (registerAt input) with flags := true }
    else { flags := true })) (binaryOperation op) input := by
  refine .bind_pure fun ⟨w, dst, src⟩ rest given => ?_
  have destination : dst.footprint = _ := gives_binary _ rest given
  apply Operation.FramedBy.of_eq
  show (if op.writesBack then { dst.footprint with flags := true } else { flags := true }) = _
  rw [destination]

/-- A complement sets no flags. -/
theorem gives_unaryOperation (op : UnaryOp) : Gives (Operation.FramedBy
    { Footprint.place ((formAt input).mode &&& 1 != 0) (registerAt input) with
      flags := decide (op ≠ .not) }) (unaryOperation op) input := by
  refine .bind_pure fun ⟨w, dst⟩ rest given => ?_
  have destination : dst.footprint = _ := gives_unary _ rest given
  apply Operation.FramedBy.of_eq
  show { dst.footprint with flags := decide (op ≠ UnaryOp.not) } = _
  rw [destination]

/-- Whatever follows an opcode, the operation that is read has the footprint of its frame. -/
theorem gives_operands (op : Opcode) :
    Gives (Instruction.FramedBy (op.frame input)) (operands op) input := by
  cases op with
  | syscall => exact .pure trivial
  | nop | hlt | ret | pushf | popf | finit => exact .pure rfl
  | lea =>
    refine .bind_pure (.byte_bind fun b tail split => .guarded ?_)
    subst split
    exact .bind_pure fun _ _ _ => rfl
  | mov =>
    refine .bind_pure fun ⟨w, dst, src⟩ rest given => ?_
    exact Operation.FramedBy.of_eq (gives_binary _ rest given)
  | xchg =>
    refine .bind_pure fun ⟨w, r, other⟩ rest given => ?_
    obtain ⟨register, place⟩ := gives_exchange _ rest given
    apply Operation.FramedBy.of_eq
    show { other.footprint with registers := r :: other.footprint.registers } = _
    rw [place, show r = _ from register]
    rfl
  | add => exact .bind_pure (gives_binaryOperation .add)
  | sub => exact .bind_pure (gives_binaryOperation .sub)
  | and => exact .bind_pure (gives_binaryOperation .and)
  | or => exact .bind_pure (gives_binaryOperation .or)
  | xor => exact .bind_pure (gives_binaryOperation .xor)
  | cmp => exact .bind_pure (gives_binaryOperation .cmp)
  | test => exact .bind_pure (gives_binaryOperation .test)
  | imul => exact .bind_pure (gives_binaryOperation .imul)
  | inc => exact .bind_pure (gives_unaryOperation .inc)
  | dec => exact .bind_pure (gives_unaryOperation .dec)
  | neg => exact .bind_pure (gives_unaryOperation .neg)
  | not =>
    refine .bind_pure ?_
    show Gives (Operation.FramedBy
      (.place ((formAt input).mode &&& 1 != 0) (registerAt input))) _ input
    rw [← Footprint.place_without_flags]
    exact gives_unaryOperation .not
  | jmp | call | push => exact .bind_pure fun _ _ _ => rfl
  | jcc =>
    exact .bind_pure (.bind fun _ _ _ => .bind fun _ _ _ => .bind_pure fun _ _ _ => rfl)
  | loopCc =>
    exact .bind_pure (.bind fun _ _ _ => .guarded (.bind fun _ _ _ => .bind_pure fun _ _ _ => rfl))
  | pop =>
    refine .bind_pure fun o rest given => ?_
    obtain ⟨w, dst, rfl, place⟩ := gives_popTarget _ rest given
    apply Operation.FramedBy.of_eq
    show { dst.footprint with registers := .rsp :: dst.footprint.registers } = _
    rw [place]
    rfl
  | flagOp | funary => exact .bind fun _ _ _ => .bind_pure fun _ _ _ => rfl
  | fld => exact .bind_pure gives_floatLoad
  | fst => exact .bind_pure gives_floatStore
  | fxch => exact .bind_pure fun _ _ _ => rfl
  | farith => exact .bind_pure gives_floatArithmetic
  | fcomi =>
    refine .byte_bind fun b tail split => ?_
    subst split
    exact .pure rfl
  | fstack => exact .bind_pure gives_floatStackChange

end Fetch

/-! ## Completed ticks -/

namespace Core.SameOutside

variable {p : Footprint} {c c' : Core}

/-- The instruction pointer may move besides. -/
theorem withRip (same : c.SameOutside p c') : c.SameOutside { p with rip := true } c' :=
  ⟨same.registers, same.memory, nofun, same.flags, same.fpu⟩

theorem moved (p : Footprint) (c : Core) (rip : UInt64) :
    c.SameOutside { p with rip := true } { c with rip := rip } :=
  ⟨fun _ _ => rfl, fun _ => rfl, nofun, fun _ => rfl, fun _ => rfl⟩

end Core.SameOutside

theorem Exec.sameOutside_of_framedBy {p : Footprint} {o : Operation} (framed : o.FramedBy p)
    (c : Core) : c.SameOutside { p with rip := true } ((execute o).run c).2 := by
  have same := (sameOutside_execute o c).withRip
  have rows : { o.footprint with rip := true } = { p with rip := true } :=
    congrArg (fun q : Footprint => { q with rip := true }) framed
  rwa [rows] at same

namespace Machine

variable {table : SyscallTable} {m m' : Machine} {op : Opcode} {rest : Bytes}

/-- A tick that completes has executed an operation with the footprint of its opcode, or it was a
system call. -/
theorem framed_of_tick (bytes : m.core.ahead = op.toByte :: rest)
    (completed : m.tick table = (true, m')) :
    (∃ o : Operation, op ≠ .syscall ∧ o.FramedBy (op.frame rest) ∧
      (Exec.execute o).run m.fetched.core = (.ok (), m'.core) ∧ m' = { m with core := m'.core }) ∨
    (op = .syscall ∧ (Syscall.dispatch table).run m.fetched = (.ok (), m')) := by
  obtain ⟨-, below, stepped⟩ := tick_eq_true completed
  obtain ⟨i, read⟩ := operands_of_tick bytes completed
  have framed := Fetch.gives_operands op i _ (Prod.ext read rfl)
  have decoded := (decode_window_iff bytes i).mpr read
  cases i with
  | operation o =>
    obtain ⟨executed, core⟩ := executed_of_tick ⟨below, decoded⟩ completed
    refine .inl ⟨o, ?_, framed, executed, core⟩
    rintro rfl
    cases read
  | syscall =>
    rw [run_step_of_below below, proceed, Faulting.run_bind_ok m.run_advance, decoded] at stepped
    refine .inr ⟨?_, stepped⟩
    by_contra other
    exact Fetch.noCall_operands other rest _ (Prod.ext read rfl)

/-- A tick that completes has read an opcode and operands. It changes nothing of the core but the
instruction pointer and what the frame of these bytes lists, and nothing outside the core unless it
is a system call. A system call writes memory only if it is a read, and then the bytes that the
stream reports, which are all that a `Device` touches. Every other instruction writes one range of
memory of at most eight bytes, if any. -/
theorem instruction_frame_exact (completed : m.tick SyscallTable.standard = (true, m')) :
    ∃ (op : Opcode) (rest : Bytes), m.core.ahead = op.toByte :: rest ∧
      (op ≠ .syscall → m' = { m with core := m'.core }) ∧
      m.core.SameOutside { op.frame rest with rip := true } m'.core ∧
      (op ≠ .syscall → ∃ start data, data.length ≤ 8 ∧
        m'.core.memory = m.core.memory.patch start data) ∧
      (op = .syscall → m.core.registers.get .rax ≠ 0 → m'.core.memory = m.core.memory) := by
  obtain ⟨op, rest, bytes⟩ := exists_opcode_of_tick completed
  have fetched : m.core.SameOutside { op.frame rest with rip := true } m.fetched.core :=
    .moved _ _ _
  refine ⟨op, rest, bytes, ?_⟩
  rcases framed_of_tick bytes completed with ⟨o, other, framed, executed, core⟩ | ⟨rfl, called⟩
  · have same := Exec.sameOutside_of_framedBy framed m.fetched.core
    have written := Exec.writesOnce_execute o m.fetched.core
    rw [executed] at same written
    exact ⟨fun _ => core, fetched.trans same, fun _ => written, fun call => absurd call other⟩
  · refine ⟨fun other => absurd rfl other, ?_, fun other => absurd rfl other, fun _ number => ?_⟩
    · rcases Syscall.sameOutside_of_dispatch called with ⟨-, core⟩ | same
      · rw [core]
        exact .moved _ _ _
      · exact fetched.trans ⟨same.registers, nofun, nofun, same.flags, same.fpu⟩
    · rcases Syscall.sameOutside_of_dispatch called with ⟨-, core⟩ | same
      · rw [core]
        rfl
      · exact same.memory (decide_eq_false number)

/-- A machine about to pop a word into RDX. -/
def restoring : Machine := protecting [Opcode.pop.toByte, 0x3C]

theorem instruction_frame_exact_restoring :
    ∃ m', restoring.tick SyscallTable.standard = (true, m') ∧
      m' = { restoring with core := m'.core } ∧
      restoring.core.SameOutside { registers := [.rsp, .rdx], rip := true } m'.core := by
  obtain ⟨m', completed⟩ : ∃ m', restoring.tick SyscallTable.standard = (true, m') := ⟨_, rfl⟩
  obtain ⟨op, rest, bytes, outside, same, -, -⟩ := instruction_frame_exact completed
  have first : Opcode.pop.toByte = op.toByte := (List.cons.inj bytes).1
  obtain rfl : .pop = op := by
    rw [← Option.some_inj, ← Opcode.ofByte?_toByte, first, Opcode.ofByte?_toByte]
  obtain rfl : _ = rest := (List.cons.inj bytes).2
  exact ⟨m', completed, outside (by decide), same⟩

end Machine

end GuestMachine
