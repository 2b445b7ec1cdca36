import GuestMachine.Instruction.Decode
import GuestMachine.Proofs.Bytes
import GuestMachine.Proofs.Faulting

/-!
# The length of an instruction

How long an instruction is can be read off its bytes, without reading the instruction: the opcode
says whether an operand byte follows, the operand byte whether a register, an immediate or an
address follows that, and these say themselves how long they are. Every reader takes as many bytes
as this computation says. Where the bytes run out, the missing ones count as zero, so that every
byte string has a length, from one to fourteen.
-/

namespace GuestMachine

/-- Two bits have four values. -/
theorem and_three_cases (b : UInt8) :
    b &&& 3 = 0 ∨ b &&& 3 = 1 ∨ b &&& 3 = 2 ∨ b &&& 3 = 3 := by
  revert b
  apply Bytes.forall_byte
  decide +kernel

theorem OperandForm.mode_cases (b : UInt8) :
    (ofByte b).mode = 0 ∨ (ofByte b).mode = 1 ∨ (ofByte b).mode = 2 ∨ (ofByte b).mode = 3 :=
  and_three_cases b

namespace Fetch

/-- The length of the immediate at the front: its form and its body. -/
def immediateLength (input : Bytes) : Nat := 1 + (ImmediateForm.ofByte (input.headD 0)).width.bytes

/-- The number of bytes with register names in an address. -/
def registersLength (form : AddressForm) : Nat := if form.hasRegisters then 1 else 0

/-- The length of the displacement at the front, zero if there is none. -/
def displacementLength (form : AddressForm) (input : Bytes) : Nat :=
  if form.hasDisplacement then immediateLength input else 0

/-- The length of an address behind its form: its registers and its displacement. -/
def addressBodyLength (form : AddressForm) (input : Bytes) : Nat :=
  registersLength form + displacementLength form (input.drop (registersLength form))

/-- The length of the address at the front. -/
def addressLength (input : Bytes) : Nat :=
  1 + addressBodyLength (AddressForm.ofByte (input.headD 0)) input.tail

/-- What follows an operand byte. -/
inductive Trailer where
  | nothing
  | register
  | immediate
  | address
deriving DecidableEq

def Trailer.length : Trailer → Bytes → Nat
  | nothing, _ => 0
  | register, _ => 1
  | immediate, input => immediateLength input
  | address, input => addressLength input

def binaryTrailer (b : UInt8) : Trailer :=
  let mode := (OperandForm.ofByte b).mode
  if mode = 0 then .register else if mode = 1 then .immediate else .address

def unaryTrailer (b : UInt8) : Trailer :=
  if (OperandForm.ofByte b).mode &&& 1 = 0 then .nothing else .address

def exchangeTrailer (b : UInt8) : Trailer :=
  if (OperandForm.ofByte b).mode &&& 1 = 0 then .register else .address

def targetTrailer (b : UInt8) : Trailer :=
  let mode := (OperandForm.ofByte b).mode
  if mode = 1 then .immediate else if mode = 2 then .address else .nothing

def popTrailer (b : UInt8) : Trailer :=
  if (OperandForm.ofByte b).mode = 2 then .address else .nothing

/-- Kinds one to three of a floating-point load or store are in memory. -/
def floatTrailer (kind : UInt8) : Trailer :=
  if kind = 1 ∨ kind = 2 ∨ kind = 3 then .address else .nothing

def arithmeticTrailer (b : UInt8) : Trailer :=
  if (b >>> 3) &&& 3 = 3 then .address else .nothing

/-- What follows the operand byte of an instruction. -/
def trailer : Opcode → UInt8 → Trailer
  | .mov, b | .add, b | .sub, b | .and, b | .or, b | .xor, b | .cmp, b | .test, b | .imul, b =>
    binaryTrailer b
  | .inc, b | .dec, b | .neg, b | .not, b => unaryTrailer b
  | .xchg, b => exchangeTrailer b
  | .jmp, b | .jcc, b | .loopCc, b | .call, b | .push, b => targetTrailer b
  | .pop, b => popTrailer b
  | .lea, _ => .address
  | .fld, b => floatTrailer (b >>> 4)
  | .fst, b => floatTrailer ((b >>> 4) &&& 7)
  | .farith, b => arithmeticTrailer b
  | _, _ => .nothing

/-- The length of an operand byte and of what follows it. -/
def operandLength (follows : UInt8 → Trailer) (input : Bytes) : Nat :=
  1 + (follows (input.headD 0)).length input.tail

/-- The length of whatever follows an opcode. Conditional jumps and counting loops have a byte of
their own in front of the operand byte. -/
def operandsLength (op : Opcode) (input : Bytes) : Nat :=
  match op with
  | .syscall | .nop | .hlt | .ret | .pushf | .popf | .finit => 0
  | .jcc | .loopCc => 1 + operandLength (trailer op) input.tail
  | _ => operandLength (trailer op) input

end Fetch

/-- The length of the instruction at the front of a byte string. -/
def Instruction.length (input : Bytes) : Nat :=
  1 + match Opcode.ofByte? (input.headD 0) with
    | some op => Fetch.operandsLength op input.tail
    | none => 0

namespace Fetch

variable {α β : Type} {length k : Bytes → Nat} {x : Fetch α}

/-! ## Bounds -/

theorem immediateLength_le (input : Bytes) : immediateLength input ≤ 9 := by
  have := (ImmediateForm.ofByte (input.headD 0)).width.bytes_le
  unfold immediateLength
  omega

theorem addressLength_le (input : Bytes) : addressLength input ≤ 11 := by
  have body := immediateLength_le (input.tail.drop
    (registersLength (AddressForm.ofByte (input.headD 0))))
  have registers : registersLength (AddressForm.ofByte (input.headD 0)) ≤ 1 := by
    unfold registersLength
    split <;> omega
  unfold addressLength addressBodyLength displacementLength
  split <;> omega

theorem length_trailer_le (t : Trailer) (input : Bytes) : t.length input ≤ 11 := by
  cases t with
  | nothing => exact Nat.zero_le 11
  | register => exact (by decide : 1 ≤ 11)
  | immediate => exact Nat.le_trans (immediateLength_le input) (by decide)
  | address => exact addressLength_le input

theorem operandLength_le (follows : UInt8 → Trailer) (input : Bytes) :
    operandLength follows input ≤ 12 :=
  Nat.add_le_add_left (length_trailer_le _ _) 1

theorem operandsLength_le (op : Opcode) (input : Bytes) : operandsLength op input ≤ 13 := by
  cases op with
  | syscall | nop | hlt | ret | pushf | popf | finit => exact Nat.zero_le 13
  | jcc | loopCc => exact Nat.add_le_add_left (operandLength_le _ _) 1
  | _ => exact Nat.le_succ_of_le (operandLength_le _ _)

/-! ## Readers -/

/-- Whenever the reader gives something, it has taken as many bytes off the front as `length` says,
and would give the same whatever came behind them. -/
def Spans (length : Bytes → Nat) (x : Fetch α) : Prop :=
  ∀ input result rest, x.run input = (.ok result, rest) →
    length input ≤ input.length ∧ rest = input.drop (length input) ∧
      ∀ other, x.run (input.take (length input) ++ other) = (.ok result, other)

namespace Spans

theorem pure (result : α) : Spans (fun _ => 0) (Pure.pure result : Fetch α) := by
  intro input result' rest read
  cases read
  exact ⟨Nat.zero_le _, rfl, fun _ => rfl⟩

theorem fail (fault : Fault) : Spans length (Faulting.fail fault : Fetch α) := by
  intro input result rest read
  cases read

/-- One reader after another takes what both take. -/
theorem bind {f : α → Fetch β} (hx : Spans length x) (hf : ∀ a, Spans k (f a)) :
    Spans (fun input => length input + k (input.drop (length input))) (x >>= f) := by
  intro input result rest read
  cases first : x.run input with
  | mk outcome middle =>
    cases outcome with
    | error fault =>
      rw [Faulting.run_bind_error first] at read
      cases read
    | ok a =>
      rw [Faulting.run_bind_ok first] at read
      obtain ⟨front, rfl, same⟩ := hx input a middle first
      obtain ⟨back, rfl, same'⟩ := hf a _ result rest read
      rw [List.length_drop] at back
      dsimp only
      refine ⟨by omega, List.drop_drop, ?_⟩
      intro other
      rw [List.take_add, List.append_assoc, Faulting.run_bind_ok (same _)]
      exact same' other

theorem map (hx : Spans length x) (g : α → β) :
    Spans length (x >>= fun a => Pure.pure (g a)) :=
  hx.bind fun a => pure (g a)

theorem orFault_bind {fault : Fault} {o : Option α} {f : α → Fetch β}
    (hf : ∀ a, Spans length (f a)) : Spans length (Faulting.orFault fault o >>= f) := by
  cases o with
  | none => exact fail fault
  | some a => exact hf a

theorem guarded {P : Prop} [Decidable P] {fault : Fault} (hx : Spans length x) :
    Spans length (if P then Faulting.fail fault else x) := by
  split
  · exact fail fault
  · exact hx

/-- A byte tells how much follows it. -/
theorem byte_bind {k : UInt8 → Bytes → Nat} {f : UInt8 → Fetch β} (hf : ∀ b, Spans (k b) (f b)) :
    Spans (fun input => 1 + k (input.headD 0) input.tail) (byte >>= f) := by
  intro input result rest read
  cases input with
  | nil => cases read
  | cons b tail =>
    obtain ⟨long, rfl, same⟩ := hf b tail result rest read
    simp only [List.headD_cons, List.tail_cons, Nat.add_comm 1]
    exact ⟨Nat.succ_le_succ long, rfl, same⟩

end Spans

/-! ## Immediates and addresses -/

theorem spans_byte : Spans (fun _ => 1) byte := by
  intro input result rest read
  cases input with
  | nil => cases read
  | cons b tail =>
    cases read
    exact ⟨Nat.le_add_left 1 _, rfl, fun _ => rfl⟩

theorem spans_value (w : Width) : Spans (fun _ => w.bytes) (value w) := by
  intro input result rest read
  simp only [value, Faulting.run] at read
  split at read
  · next long =>
    cases read
    have length : (input.take w.bytes).length = w.bytes := List.length_take_of_le long
    refine ⟨long, rfl, ?_⟩
    intro other
    simp only [value, Faulting.run]
    rw [if_pos, List.take_left' length, List.drop_left' length]
    rw [List.length_append, length]
    exact Nat.le_add_right _ _
  · cases read

theorem spans_immediate : Spans immediateLength immediate :=
  .byte_bind fun _ => (spans_value _).map _

theorem spans_addressRegisters (form : AddressForm) :
    Spans (fun _ => registersLength form) (addressRegisters form) := by
  unfold addressRegisters registersLength
  split
  · exact spans_byte.map _
  · exact .pure _

/-- What is left of an address once its form has been read. -/
def addressBody (form : AddressForm) : Fetch Address := do
  let registers ← addressRegisters form
  if form.hasDisplacement then return ⟨form.width, ← immediate, registers.1, registers.2⟩
  else return ⟨form.width, 0, registers.1, registers.2⟩

theorem spans_addressBody (form : AddressForm) :
    Spans (addressBodyLength form) (addressBody form) := by
  refine (spans_addressRegisters form).bind fun registers => ?_
  unfold displacementLength
  split
  · exact spans_immediate.map _
  · exact .pure _

theorem spans_address : Spans addressLength address :=
  .byte_bind fun b => .guarded (spans_addressBody (AddressForm.ofByte b))

/-! ## Operands -/

theorem spans_operand {follows : UInt8 → Trailer} {f : UInt8 → Fetch β}
    (hf : ∀ b, Spans (follows b).length (f b)) : Spans (operandLength follows) (byte >>= f) :=
  .byte_bind hf

theorem spans_register (g : UInt8 → β) :
    Spans Trailer.register.length (byte >>= fun b => pure (g b)) := spans_byte.map g

theorem spans_binary : Spans (operandLength binaryTrailer) binary := by
  refine spans_operand fun b => ?_
  unfold binaryTrailer
  dsimp only
  rcases OperandForm.mode_cases b with mode | mode | mode | mode <;> rw [mode]
  · exact spans_register _
  · exact spans_immediate.map _
  · exact spans_address.map _
  · exact spans_address.map _

theorem spans_unary : Spans (operandLength unaryTrailer) unary := by
  refine spans_operand fun b => ?_
  unfold unaryTrailer
  dsimp only
  rcases OperandForm.mode_cases b with mode | mode | mode | mode <;> rw [mode]
  · exact .pure _
  · exact spans_address.map _
  · exact .pure _
  · exact spans_address.map _

theorem spans_exchange : Spans (operandLength exchangeTrailer) exchange := by
  refine spans_operand fun b => ?_
  unfold exchangeTrailer
  dsimp only
  rcases OperandForm.mode_cases b with mode | mode | mode | mode <;> rw [mode]
  · exact spans_register _
  · exact spans_address.map _
  · exact spans_register _
  · exact spans_address.map _

theorem spans_target : Spans (operandLength targetTrailer) target := by
  refine spans_operand fun b => .guarded ?_
  unfold targetTrailer
  dsimp only
  rcases OperandForm.mode_cases b with mode | mode | mode | mode <;> rw [mode]
  · exact .pure _
  · exact spans_immediate.map _
  · exact spans_address.map _
  · exact .fail _

theorem spans_popTarget : Spans (operandLength popTrailer) popTarget := by
  refine spans_operand fun b => .guarded ?_
  unfold popTrailer
  rcases OperandForm.mode_cases b with mode | mode | mode | mode <;> rw [mode]
  · exact .pure _
  · exact .fail _
  · exact spans_address.map _
  · exact .fail _

theorem spans_effectiveAddress : Spans (operandLength fun _ => .address) effectiveAddress :=
  spans_operand fun _ => .guarded (spans_address.map _)

/-- A conditional jump has its condition in front of its target. -/
theorem spans_conditionalJump :
    Spans (fun input => 1 + operandLength targetTrailer input.tail) conditionalJump :=
  .byte_bind fun _ => .orFault_bind fun _ => spans_target.map _

theorem spans_countingLoop :
    Spans (fun input => 1 + operandLength targetTrailer input.tail) countingLoop :=
  .byte_bind fun _ => .guarded (.orFault_bind fun _ => spans_target.map _)

theorem spans_floatLoad : Spans (operandLength (trailer .fld)) floatLoad := by
  refine spans_operand fun b => ?_
  show Spans (floatTrailer (b >>> 4)).length _
  split
  · next kind =>
    rw [kind]
    exact .pure _
  · next kind =>
    rw [kind]
    exact spans_address.map _
  · next kind =>
    rw [kind]
    exact spans_address.map _
  · next kind =>
    rw [kind]
    exact spans_address.map _
  · next kind =>
    rw [kind]
    exact .orFault_bind fun _ => .pure _
  · exact .fail _

theorem spans_floatStore : Spans (operandLength (trailer .fst)) floatStore := by
  refine spans_operand fun b => ?_
  show Spans (floatTrailer ((b >>> 4) &&& 7)).length _
  dsimp only
  split
  · next kind =>
    rw [kind]
    exact .pure _
  · next kind =>
    rw [kind]
    exact spans_address.map _
  · next kind =>
    rw [kind]
    exact spans_address.map _
  · next kind =>
    rw [kind]
    exact spans_address.map _
  · exact .fail _

theorem spans_floatArithmetic : Spans (operandLength arithmeticTrailer) floatArithmetic := by
  refine spans_operand fun b => .orFault_bind fun op => ?_
  unfold arithmeticTrailer
  dsimp only
  rcases and_three_cases (b >>> 3) with form | form | form | form <;> rw [form]
  · exact .pure _
  · exact .pure _
  · exact .pure _
  · exact spans_address.map _

theorem spans_floatStackChange : Spans (operandLength (trailer .fstack)) floatStackChange := by
  refine spans_operand fun b => ?_
  split
  · exact .pure _
  · exact .pure _
  · exact .pure _
  · exact .fail _

theorem spans_operands (op : Opcode) : Spans (operandsLength op) (operands op) := by
  cases op with
  | syscall | nop | hlt | ret | pushf | popf | finit => exact .pure _
  | lea => exact spans_effectiveAddress.map _
  | mov => exact spans_binary.map _
  | xchg => exact spans_exchange.map _
  | add | sub | and | or | xor | cmp | test | imul => exact (spans_binary.map _).map _
  | inc | dec | neg | not => exact (spans_unary.map _).map _
  | jmp | call | push => exact spans_target.map _
  | jcc => exact spans_conditionalJump.map _
  | loopCc => exact spans_countingLoop.map _
  | pop => exact spans_popTarget.map _
  | flagOp | funary => exact spans_operand fun _ => .orFault_bind fun _ => .pure _
  | fld => exact spans_floatLoad.map _
  | fst => exact spans_floatStore.map _
  | fxch | fcomi => exact spans_operand fun _ => .pure _
  | farith => exact spans_floatArithmetic.map _
  | fstack => exact spans_floatStackChange.map _

theorem spans_instruction : Spans Instruction.length instruction := by
  have rest : ∀ b, Spans (fun tail => match Opcode.ofByte? b with
      | some op => operandsLength op tail
      | none => 0) (Faulting.orFault .undefinedBehavior (Opcode.ofByte? b) >>= operands) := by
    intro b
    cases Opcode.ofByte? b with
    | some op => exact spans_operands op
    | none => exact .fail _
  exact .byte_bind rest

end Fetch

namespace Instruction

theorem length_pos (input : Bytes) : 1 ≤ length input := Nat.le_add_right 1 _

theorem length_le (input : Bytes) : length input ≤ maxLength := by
  unfold length maxLength
  split
  · next op _ =>
    have := Fetch.operandsLength_le op input.tail
    omega
  · omega

/-- Whatever is read as an instruction has as many bytes as its length says. -/
theorem length_decode {input : Bytes} {i : Instruction} (read : (decode input).result = .ok i) :
    length input ≤ input.length ∧ (decode input).length = length input := by
  obtain ⟨long, left, -⟩ := Fetch.spans_instruction input i (Fetch.instruction.run input).2
    (Prod.ext read rfl)
  refine ⟨long, ?_⟩
  show input.length - (Fetch.instruction.run input).2.length = length input
  rw [left, List.length_drop]
  omega

end Instruction

end GuestMachine
