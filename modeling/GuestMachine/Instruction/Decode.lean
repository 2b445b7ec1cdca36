import GuestMachine.Bytes
import GuestMachine.Fault
import GuestMachine.Instruction

/-!
# Reading instructions

Instructions are read from a byte string, the bytes of memory at the instruction pointer. The
reader takes bytes off the front; a fault leaves what it had not taken. Reading depends on
nothing but the bytes, so an instruction has the same length wherever it is met.
-/

namespace GuestMachine

/-- A reader of instruction bytes. -/
abbrev Fetch := Faulting Bytes

namespace Fetch

/-- Takes one byte (`fetch_u8`, §4.1). -/
def byte : Fetch UInt8 := fun
  | b :: rest => (.ok b, rest)
  | [] => (.error .outOfBounds, [])

/-- Takes a little-endian value of width `w`, or nothing if it is cut short (`fetch`, §4.1). -/
def value (w : Width) : Fetch UInt64 := fun input =>
  if w.bytes ≤ input.length then (.ok (Bytes.toWord (input.take w.bytes)), input.drop w.bytes)
  else (.error .outOfBounds, input)

/-- Takes an immediate: its form, then its body (`fetch_imm`, §4.1). -/
def immediate : Fetch UInt64 := do
  let form := ImmediateForm.ofByte (← byte)
  return form.widen (← value form.width)

/-- Takes the byte with the two register names of an address, if there is one. -/
def addressRegisters (form : AddressForm) :
    Fetch (Option (Register × UInt8) × Option Register) := do
  if form.hasRegisters then
    let (base, index) := Register.pair (← byte)
    return (if form.hasBase then some (base, form.scale) else none,
      if form.hasIndex then some index else none)
  else return (none, none)

/-- Takes an address: its form, its registers, its displacement (`fetch_address`, §4.1). -/
def address : Fetch Address := do
  let form := AddressForm.ofByte (← byte)
  if form.width = .byte then Faulting.fail .undefinedBehavior
  else
    let (base, index) ← addressRegisters form
    let displacement ← if form.hasDisplacement then immediate else pure 0
    return ⟨form.width, displacement, base, index⟩

/-- Takes the operands of a binary operation (`decode_binary`, §E). The mode tells register from
register, register from immediate, register from memory and memory from register. -/
def binary : Fetch (Width × Place × Source) := do
  let form := OperandForm.ofByte (← byte)
  let r := Register.ofByte form.register
  match form.mode with
  | 0 => return (form.width, .register r, .register (Register.ofByte (← byte)))
  | 1 => return (form.width, .register r, .immediate (← immediate))
  | 2 => return (form.width, .register r, .memory (← address))
  | _ => return (form.width, .memory (← address), .register r)

/-- Takes the operand of a unary operation (`decode_unary`, §E): a register, or memory if the mode
is odd. -/
def unary : Fetch (Width × Place) := do
  let form := OperandForm.ofByte (← byte)
  if form.mode &&& 1 == 0 then return (form.width, .register (Register.ofByte form.register))
  else return (form.width, .memory (← address))

/-- Takes the operands of an exchange (`op_xchg`): a register, and a register or memory. -/
def exchange : Fetch (Width × Register × Place) := do
  let form := OperandForm.ofByte (← byte)
  let r := Register.ofByte form.register
  if form.mode &&& 1 == 0 then return (form.width, r, .register (Register.ofByte (← byte)))
  else return (form.width, r, .memory (← address))

/-- Takes the source of a jump, call or push (`decode_target`, §E): a register, an immediate or
memory, never one byte wide. -/
def target : Fetch (Width × Source) := do
  let form := OperandForm.ofByte (← byte)
  if form.width = .byte then Faulting.fail .undefinedBehavior
  else
    match form.mode with
    | 0 => return (form.width, .register (Register.ofByte form.register))
    | 1 => return (form.width, .immediate (← immediate))
    | 2 => return (form.width, .memory (← address))
    | _ => Faulting.fail .undefinedBehavior

/-- Takes the operands of an effective-address load (`op_lea`), never one byte wide. -/
def effectiveAddress : Fetch Operation := do
  let form := OperandForm.ofByte (← byte)
  if form.width = .byte then Faulting.fail .undefinedBehavior
  else return .lea form.width (Register.ofByte form.register) (← address)

/-- Takes the condition and the target of a conditional jump (`op_jcc`). -/
def conditionalJump : Fetch Operation := do
  let cond ← Faulting.orFault .undefinedBehavior (Condition.ofByte? (← byte))
  let (w, t) ← target
  return .jcc cond w t

/-- Takes the settings `[.... ss kk]` and the target of a counting loop (`op_loopcc`). -/
def countingLoop : Fetch Operation := do
  let settings ← byte
  let counter := Width.ofCode (settings >>> 2)
  if counter = .byte then Faulting.fail .undefinedBehavior
  else
    let kind ← Faulting.orFault .undefinedBehavior (LoopKind.ofByte? (settings &&& 3))
    let (w, t) ← target
    return .loopCc kind counter w t

/-- Takes the destination of a pop (`op_pop`): a register or memory, never one byte wide. -/
def popTarget : Fetch Operation := do
  let form := OperandForm.ofByte (← byte)
  if form.width = .byte then Faulting.fail .undefinedBehavior
  else
    match form.mode with
    | 0 => return .pop form.width (.register (Register.ofByte form.register))
    | 2 => return .pop form.width (.memory (← address))
    | _ => Faulting.fail .undefinedBehavior

/-- The constants that can be pushed on the floating-point stack: one, zero, pi, the binary
logarithms of ten and of e, the decimal and the natural logarithm of two. -/
def constant? (i : UInt8) : Option Double :=
  match i with
  | 0 => some ⟨0x3FF0000000000000⟩
  | 1 => some ⟨0x0000000000000000⟩
  | 2 => some ⟨0x400921FB54442D18⟩
  | 3 => some ⟨0x400A934F0979A371⟩
  | 4 => some ⟨0x3FF71547652B82FE⟩
  | 5 => some ⟨0x3FD34413509F79FF⟩
  | 6 => some ⟨0x3FE62E42FEFA39EF⟩
  | _ => none

/-- Takes the settings `[kkkk .iii]` of a floating-point load and its address, if any (`op_fld`). -/
def floatLoad : Fetch Operation := do
  let settings ← byte
  match settings >>> 4 with
  | 0 => return .fld (.entry (settings &&& 7))
  | 1 => return .fld (.double (← address))
  | 2 => return .fld (.single (← address))
  | 3 => return .fld (.integer (← address))
  | 4 =>
    let value ← Faulting.orFault .undefinedBehavior (constant? (settings &&& 7))
    return .fld (.constant value)
  | _ => Faulting.fail .undefinedBehavior

/-- Takes the settings `[pkkk .iii]` of a floating-point store and its address, if any
(`op_fst`). -/
def floatStore : Fetch Operation := do
  let settings ← byte
  let pop := settings &&& 0x80 != 0
  match (settings >>> 4) &&& 7 with
  | 0 => return .fst (.entry (settings &&& 7)) pop
  | 1 => return .fst (.double (← address)) pop
  | 2 => return .fst (.single (← address)) pop
  | 3 => return .fst (.integer (← address)) pop
  | _ => Faulting.fail .undefinedBehavior

/-- The floating-point operation numbered `code`. -/
def floatOp? (code : UInt8) : Option FloatOp :=
  match code with
  | 0 => some .add
  | 1 => some .sub
  | 2 => some .subReversed
  | 3 => some .mul
  | 4 => some .div
  | 5 => some .divReversed
  | _ => none

/-- Takes the settings `[ooo ff iii]` of floating-point arithmetic and its address, if any
(`op_farith`). -/
def floatArithmetic : Fetch Operation := do
  let settings ← byte
  let op ← Faulting.orFault .undefinedBehavior (floatOp? (settings >>> 5))
  let i := settings &&& 7
  match (settings >>> 3) &&& 3 with
  | 0 => return .farith op (.top i)
  | 1 => return .farith op (.entry i false)
  | 2 => return .farith op (.entry i true)
  | _ => return .farith op (.memory (← address))

/-- The floating-point function numbered `code`. -/
def floatFunction? (code : UInt8) : Option FloatFunction :=
  match code with
  | 0 => some .abs
  | 1 => some .neg
  | 2 => some .sqrt
  | 3 => some .sin
  | 4 => some .cos
  | 5 => some .round
  | _ => none

/-- Takes the settings `[kk.. .iii]` of a change of the floating-point stack (`op_fstack`). -/
def floatStackChange : Fetch Operation := do
  let settings ← byte
  match settings >>> 6 with
  | 0 => return .fstack .increment
  | 1 => return .fstack .decrement
  | 2 => return .fstack (.free (settings &&& 7))
  | _ => Faulting.fail .undefinedBehavior

/-- Takes the operands of a binary operation and applies the operation to them. -/
def binaryOperation (op : BinaryOp) : Fetch Operation := do
  let (w, dst, src) ← binary
  return .binary op w dst src

/-- Takes the operand of a unary operation and applies the operation to it. -/
def unaryOperation (op : UnaryOp) : Fetch Operation := do
  let (w, dst) ← unary
  return .unary op w dst

/-- Takes whatever follows an opcode: the reading part of the handlers `op_nop` to `op_fstack`. -/
def operands : Opcode → Fetch Instruction
  | .syscall => return .syscall
  | .nop => return .operation .nop
  | .hlt => return .operation .hlt
  | .lea => return .operation (← effectiveAddress)
  | .mov => do
    let (w, dst, src) ← binary
    return .operation (.mov w dst src)
  | .xchg => do
    let (w, r, other) ← exchange
    return .operation (.xchg w r other)
  | .add => return .operation (← binaryOperation .add)
  | .sub => return .operation (← binaryOperation .sub)
  | .and => return .operation (← binaryOperation .and)
  | .or => return .operation (← binaryOperation .or)
  | .xor => return .operation (← binaryOperation .xor)
  | .cmp => return .operation (← binaryOperation .cmp)
  | .test => return .operation (← binaryOperation .test)
  | .imul => return .operation (← binaryOperation .imul)
  | .inc => return .operation (← unaryOperation .inc)
  | .dec => return .operation (← unaryOperation .dec)
  | .neg => return .operation (← unaryOperation .neg)
  | .not => return .operation (← unaryOperation .not)
  | .jmp => do
    let (w, t) ← target
    return .operation (.jmp w t)
  | .jcc => return .operation (← conditionalJump)
  | .loopCc => return .operation (← countingLoop)
  | .call => do
    let (w, t) ← target
    return .operation (.call w t)
  | .ret => return .operation .ret
  | .push => do
    let (w, t) ← target
    return .operation (.push w t)
  | .pop => return .operation (← popTarget)
  | .pushf => return .operation .pushf
  | .popf => return .operation .popf
  | .flagOp => do
    return .operation (.flags (← Faulting.orFault .undefinedBehavior (FlagChange.ofByte? (← byte))))
  | .finit => return .operation .finit
  | .fld => return .operation (← floatLoad)
  | .fst => return .operation (← floatStore)
  | .fxch => return .operation (.fxch ((← byte) &&& 7))
  | .farith => return .operation (← floatArithmetic)
  | .funary => do
    return .operation (.funary (← Faulting.orFault .undefinedBehavior (floatFunction? (← byte))))
  | .fcomi => do
    let settings ← byte
    return .operation (.fcomi (settings &&& 7) (settings &&& 0x80 != 0))
  | .fstack => return .operation (← floatStackChange)

/-- Takes one instruction. -/
def instruction : Fetch Instruction := do
  let op ← Faulting.orFault .undefinedBehavior (Opcode.ofByte? (← byte))
  operands op

end Fetch

/-- What reading an instruction gave: the number of bytes taken, and the instruction or the
fault that stopped the reader after those bytes. -/
structure Decoded where
  length : Nat
  result : Except Fault Instruction

namespace Instruction

/-- No instruction is longer than fourteen bytes. -/
def maxLength : Nat := 14

/-- Reads the instruction at the front of a byte string. -/
def decode (input : Bytes) : Decoded :=
  let (result, rest) := Fetch.instruction.run input
  ⟨input.length - rest.length, result⟩

end Instruction

end GuestMachine
