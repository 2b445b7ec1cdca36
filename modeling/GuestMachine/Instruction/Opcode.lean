/-!
# Opcodes

The first byte of every instruction, and the small code tables inside some of them.
-/

namespace GuestMachine

/-- The operation named by the first byte of an instruction. -/
inductive Opcode where
  | nop | hlt | syscall
  | lea | mov | xchg
  | add | sub | and | or | xor | cmp | test | imul
  | inc | dec | neg | not
  | jmp | jcc | loopCc | call | ret
  | push | pop | pushf | popf | flagOp
  | finit | fld | fst | fxch | farith | funary | fcomi | fstack
deriving DecidableEq

namespace Opcode

/-- The byte of an opcode. -/
def toByte : Opcode → UInt8
  | nop => 0x00
  | hlt => 0x01
  | syscall => 0x02
  | lea => 0x03
  | mov => 0x04
  | xchg => 0x05
  | add => 0x06
  | sub => 0x07
  | and => 0x08
  | or => 0x09
  | xor => 0x0A
  | cmp => 0x0B
  | test => 0x0C
  | imul => 0x0D
  | inc => 0x0E
  | dec => 0x0F
  | neg => 0x10
  | not => 0x11
  | jmp => 0x12
  | jcc => 0x13
  | loopCc => 0x14
  | call => 0x15
  | ret => 0x16
  | push => 0x17
  | pop => 0x18
  | pushf => 0x19
  | popf => 0x1A
  | flagOp => 0x1B
  | finit => 0x20
  | fld => 0x21
  | fst => 0x22
  | fxch => 0x23
  | farith => 0x24
  | funary => 0x25
  | fcomi => 0x26
  | fstack => 0x27

/-- The opcode of a byte; most bytes have none. -/
def ofByte? (b : UInt8) : Option Opcode :=
  match b with
  | 0x00 => some nop
  | 0x01 => some hlt
  | 0x02 => some syscall
  | 0x03 => some lea
  | 0x04 => some mov
  | 0x05 => some xchg
  | 0x06 => some add
  | 0x07 => some sub
  | 0x08 => some and
  | 0x09 => some or
  | 0x0A => some xor
  | 0x0B => some cmp
  | 0x0C => some test
  | 0x0D => some imul
  | 0x0E => some inc
  | 0x0F => some dec
  | 0x10 => some neg
  | 0x11 => some not
  | 0x12 => some jmp
  | 0x13 => some jcc
  | 0x14 => some loopCc
  | 0x15 => some call
  | 0x16 => some ret
  | 0x17 => some push
  | 0x18 => some pop
  | 0x19 => some pushf
  | 0x1A => some popf
  | 0x1B => some flagOp
  | 0x20 => some finit
  | 0x21 => some fld
  | 0x22 => some fst
  | 0x23 => some fxch
  | 0x24 => some farith
  | 0x25 => some funary
  | 0x26 => some fcomi
  | 0x27 => some fstack
  | _ => none

/-- The name of an opcode in assembly text. -/
def mnemonic : Opcode → String
  | nop => "NOP"
  | hlt => "HLT"
  | syscall => "SYSCALL"
  | lea => "LEA"
  | mov => "MOV"
  | xchg => "XCHG"
  | add => "ADD"
  | sub => "SUB"
  | and => "AND"
  | or => "OR"
  | xor => "XOR"
  | cmp => "CMP"
  | test => "TEST"
  | imul => "IMUL"
  | inc => "INC"
  | dec => "DEC"
  | neg => "NEG"
  | not => "NOT"
  | jmp => "JMP"
  | jcc => "Jcc"
  | loopCc => "LOOPcc"
  | call => "CALL"
  | ret => "RET"
  | push => "PUSH"
  | pop => "POP"
  | pushf => "PUSHF"
  | popf => "POPF"
  | flagOp => "FLAGOP"
  | finit => "FINIT"
  | fld => "FLD"
  | fst => "FST"
  | fxch => "FXCH"
  | farith => "FARITH"
  | funary => "FUNARY"
  | fcomi => "FCOMI"
  | fstack => "FSTACK"

@[simp] theorem ofByte?_toByte (op : Opcode) : ofByte? op.toByte = some op := by
  cases op <;> rfl

end Opcode

/-- What a counting loop asks of the zero flag besides a count that is not used up. -/
inductive LoopKind where
  | always
  | whileEqual
  | whileNotEqual
deriving DecidableEq

/-- The loop kind numbered `code`. -/
def LoopKind.ofByte? (code : UInt8) : Option LoopKind :=
  match code with
  | 0 => some always
  | 1 => some whileEqual
  | 2 => some whileNotEqual
  | _ => none

/-- A direct change of a flag. -/
inductive FlagChange where
  | clearCarry
  | setCarry
  | complementCarry
  | clearDirection
  | setDirection
deriving DecidableEq

/-- The flag change numbered `code`. -/
def FlagChange.ofByte? (code : UInt8) : Option FlagChange :=
  match code with
  | 0 => some clearCarry
  | 1 => some setCarry
  | 2 => some complementCarry
  | 3 => some clearDirection
  | 4 => some setDirection
  | _ => none

end GuestMachine
