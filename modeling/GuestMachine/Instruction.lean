import GuestMachine.Double
import GuestMachine.Flags
import GuestMachine.Instruction.Opcode
import GuestMachine.Instruction.Operand

/-!
# Instructions

An instruction after its bytes have been read: which operation it is, on which operands. No
instruction depends on anything but its own bytes until it is executed.
-/

namespace GuestMachine

/-- An address still to be computed from registers. It is never one byte wide. -/
structure Address where
  width : Width
  /-- The displacement, zero if there is none. -/
  displacement : UInt64
  /-- The base register and the power of two it is scaled by. -/
  base : Option (Register × UInt8)
  index : Option Register
deriving DecidableEq

/-- A place that can be read and written. -/
inductive Place where
  | register (r : Register)
  | memory (a : Address)
deriving DecidableEq

/-- Where a value comes from. -/
inductive Source where
  | register (r : Register)
  | immediate (value : UInt64)
  | memory (a : Address)
deriving DecidableEq

/-- A binary operation on integers. -/
inductive BinaryOp where
  | add | sub | and | or | xor | imul
  /-- Subtraction for its flags alone. -/
  | cmp
  /-- Conjunction for its flags alone. -/
  | test
deriving DecidableEq

/-- A unary operation on integers. -/
inductive UnaryOp where
  | inc | dec | neg | not
deriving DecidableEq

/-- A binary operation on doubles. The reversed ones exchange their operands. -/
inductive FloatOp where
  | add | sub | subReversed | mul | div | divReversed
deriving DecidableEq

/-- A function applied to the top of the floating-point stack. -/
inductive FloatFunction where
  | abs | neg | sqrt | sin | cos | round
deriving DecidableEq

/-- What is pushed on the floating-point stack. -/
inductive FloatSource where
  | entry (i : UInt8)
  | double (a : Address)
  | single (a : Address)
  | integer (a : Address)
  | constant (value : Double)
deriving DecidableEq

/-- Where the top of the floating-point stack is stored. -/
inductive FloatTarget where
  | entry (i : UInt8)
  | double (a : Address)
  | single (a : Address)
  | integer (a : Address)
deriving DecidableEq

/-- The operands of floating-point arithmetic. -/
inductive FloatOperands where
  /-- The top is combined with entry `i` and overwritten. -/
  | top (i : UInt8)
  /-- Entry `i` is combined with the top and overwritten; the top may then be popped. -/
  | entry (i : UInt8) (pop : Bool)
  /-- The top is combined with a double in memory and overwritten. -/
  | memory (a : Address)
deriving DecidableEq

/-- A change of the floating-point stack that moves no value. -/
inductive FloatStackChange where
  | increment
  | decrement
  | free (i : UInt8)
deriving DecidableEq

/-- An operation that works on the processor core alone. -/
inductive Operation where
  | nop
  | hlt
  | lea (w : Width) (dst : Register) (a : Address)
  | mov (w : Width) (dst : Place) (src : Source)
  | xchg (w : Width) (r : Register) (other : Place)
  | binary (op : BinaryOp) (w : Width) (dst : Place) (src : Source)
  | unary (op : UnaryOp) (w : Width) (dst : Place)
  | jmp (w : Width) (target : Source)
  | jcc (cond : Condition) (w : Width) (target : Source)
  | loopCc (kind : LoopKind) (counter : Width) (w : Width) (target : Source)
  | call (w : Width) (target : Source)
  | ret
  | push (w : Width) (src : Source)
  | pop (w : Width) (dst : Place)
  | pushf
  | popf
  | flags (change : FlagChange)
  | finit
  | fld (src : FloatSource)
  | fst (dst : FloatTarget) (pop : Bool)
  | fxch (i : UInt8)
  | farith (op : FloatOp) (operands : FloatOperands)
  | funary (f : FloatFunction)
  | fcomi (i : UInt8) (pop : Bool)
  | fstack (change : FloatStackChange)
deriving DecidableEq

/-- An instruction: a system call, or an operation on the core. -/
inductive Instruction where
  | syscall
  | operation (op : Operation)
deriving DecidableEq

end GuestMachine
